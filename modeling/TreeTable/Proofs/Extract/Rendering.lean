import Mathlib.Data.List.Forall2
import Mathlib.Data.List.Induction
import TreeTable.Extract.Table
import TreeTable.Proofs.Json.Printing
import TreeTable.Proofs.Value.Fields

/-! # Tables show all of their rows

A header that is not fixed beforehand has every column of every row, in the order in which the
columns first come up. Under it every row is shown as an object with exactly the columns of the
header, so nothing in a row is lost.
-/

namespace TreeTable

namespace Table

/-- Columns without repetitions stand in the order in which they first come up. -/
theorem pairwise_idxOf_eraseDups (columns : List String) :
    columns.eraseDups.Pairwise fun a b => columns.idxOf a < columns.idxOf b := by
  induction columns using List.reverseRecOn with
  | nil => exact .nil
  | append_singleton rest last ih =>
      -- One more column at the end moves none of those before it.
      have before : rest.eraseDups.Pairwise fun a b =>
          (rest ++ [last]).idxOf a < (rest ++ [last]).idxOf b := by
        refine ih.imp_of_mem ?_
        intro a b ha hb earlier
        rw [List.mem_eraseDups] at ha hb
        rwa [List.idxOf_append_of_mem ha, List.idxOf_append_of_mem hb]
      rw [List.eraseDups_append]
      by_cases seen : last ∈ rest
      · have nothing : [last].removeAll rest = [] := by simp [List.removeAll, seen]
        rwa [nothing, List.eraseDups_nil, List.append_nil]
      · have alone : ([last].removeAll rest).eraseDups = [last] := by
          simp [List.removeAll, seen, List.eraseDups_cons]
        rw [alone, List.pairwise_append]
        refine ⟨before, List.pairwise_singleton _ _, ?_⟩
        intro a ha b hb
        rw [List.mem_eraseDups] at ha
        rw [List.mem_singleton.mp hb, List.idxOf_append_of_mem ha, List.idxOf_append_of_notMem seen]
        exact Nat.lt_of_lt_of_le (List.idxOf_lt_length_iff.mpr ha) (Nat.le_add_right _ _)

variable {rows : List Row} {row : Row} {header : List String}

theorem mem_columnsOf {column : String} :
    column ∈ columnsOf rows ↔ ∃ row ∈ rows, column ∈ row.keys := by
  rw [columnsOf, List.mem_eraseDups, List.mem_flatMap]

theorem nodup_columnsOf (rows : List Row) : (columnsOf rows).Nodup := by
  refine (pairwise_idxOf_eraseDups (rows.flatMap Fields.keys)).imp ?_
  rintro a b earlier rfl
  exact Nat.lt_irrefl _ earlier

/-- An object shows a row under a header: its keys are the columns of the header, its values are
those of the row as JSON holds them, null where the row has none, and every field of the row is
among its own. -/
structure Shows (header : List String) (row : Row) (fields : Fields) : Prop where
  keys : fields.keys = header
  get? : ∀ column ∈ header,
    fields.get? column = some ((row.get? column).elim .null Value.jsonForm)
  all : ∀ field ∈ row, (field.1, field.2.jsonForm) ∈ fields

/-- The fields that a row is shown by. -/
def shown (header : List String) (row : Row) : Fields :=
  header.map fun column => (column, (row.get? column).elim .null Value.jsonForm)

theorem jsonForm_fitRow (distinct : header.Nodup) (row : Row) :
    (fitRow header row).jsonForm = .object (shown header row) := by
  have writes : Fields.ofWrites (header.map fun column => (column, (row.get? column).getD .null)) =
      header.map fun column => (column, (row.get? column).getD .null) := by
    apply Fields.ofWrites_eq_self
    rwa [Fields.keys_map]
  rw [fitRow, writes, Value.jsonForm, Value.jsonFormFields_eq_map, List.map_map, shown]
  congr 1
  apply List.map_congr_left
  intro column _
  rw [Function.comp_apply]
  cases row.get? column with
  | none => rfl
  | some value => rfl

theorem jsonForm_toValue (table : Table) (distinct : table.header.Nodup) :
    table.toValue.jsonForm = .object [("header", .list (table.header.map .string)),
      ("rows", .list ((table.rows.map (shown table.header)).map .object))] := by
  have texts : (table.header.map Value.string).map Value.jsonForm = table.header.map .string := by
    rw [List.map_map]
    rfl
  have objects : (table.rows.map (fitRow table.header)).map Value.jsonForm =
      (table.rows.map (shown table.header)).map .object := by
    rw [List.map_map, List.map_map]
    apply List.map_congr_left
    intro row _
    exact jsonForm_fitRow distinct row
  simp only [toValue, Value.jsonForm, Value.jsonFormFields, Value.jsonFormItems_eq_map, texts,
    objects]

theorem shows_shown (distinct : row.keys.Nodup) (complete : ∀ column ∈ row.keys, column ∈ header) :
    Shows header row (shown header row) where
  keys := Fields.keys_map header _
  get? _ hcolumn := Fields.get?_map hcolumn _
  all field hfield := by
    have among : field.1 ∈ header := complete field.1 (List.mem_map_of_mem hfield)
    refine List.mem_map.mpr ⟨field.1, among, ?_⟩
    rw [Fields.get?_of_mem distinct hfield, Option.elim_some]

end Table

/-- A header that is not fixed beforehand has every column of every row of a table exactly once, in
the order in which the columns first come up from row to row. Written as JSON the table has one
object for each row, in order, which shows the row under this header, so it has every field of the
row. -/
theorem Extractor.rendering_complete (x : Extractor) (derived : x.header = none) {rows : List Row}
    (nonempty : rows ≠ []) (distinct : ∀ row ∈ rows, row.keys.Nodup) :
    let table : Table := ⟨x.headerFor rows, rows⟩
    let columns := rows.flatMap Fields.keys
    table.header.Nodup ∧ (∀ column, column ∈ table.header ↔ ∃ row ∈ rows, column ∈ row.keys) ∧
      (table.header.Pairwise fun a b => columns.idxOf a < columns.idxOf b) ∧
      ∃ objects : List Fields, List.Forall₂ (Table.Shows table.header) rows objects ∧
        table.toValue.jsonForm = .object [("header", .list (table.header.map .string)),
          ("rows", .list (objects.map .object))] ∧
        table.toValue.toJson = table.toValue.jsonForm.toJson ∧
        table.toValue.toIndentedJson = table.toValue.jsonForm.toIndentedJson := by
  have header : x.headerFor rows = Table.columnsOf rows := by
    have more : rows.isEmpty = false := by simpa using nonempty
    rw [headerFor, derived, more]
    rfl
  rw [header]
  intro table columns
  have unrepeated : table.header.Nodup := Table.nodup_columnsOf rows
  refine ⟨unrepeated, fun _ => Table.mem_columnsOf, Table.pairwise_idxOf_eraseDups columns,
    rows.map (Table.shown table.header), ?_, table.jsonForm_toValue unrepeated,
    (Value.toJson_jsonForm _).symm, (Value.toIndentedJson_jsonForm _).symm⟩
  rw [List.forall₂_map_right_iff, List.forall₂_same]
  intro row hrow
  exact Table.shows_shown (distinct row hrow) fun column hcolumn =>
    Table.mem_columnsOf.mpr ⟨row, hrow, hcolumn⟩

theorem Extractor.rendering_complete_splats :
    let x : Extractor := { root := ⟨"", .interior .here, []⟩ }
    let rows : List Row := [[("id", .int 1), ("x_b", .null)], [],
      [("x_a", .float (Numeric.Binary64.infinity true)), ("id", .list []), ("x_b", .bool true)]]
    let header := ["id", "x_b", "x_a"]
    let objects : List Fields := [[("id", .int 1), ("x_b", .null), ("x_a", .null)],
      [("id", .null), ("x_b", .null), ("x_a", .null)],
      [("id", .list []), ("x_b", .bool true), ("x_a", .null)]]
    x.header = none ∧ rows ≠ [] ∧ (∀ row ∈ rows, row.keys.Nodup) ∧ x.headerFor rows = header ∧
      (header.Pairwise fun a b =>
        (rows.flatMap Fields.keys).idxOf a < (rows.flatMap Fields.keys).idxOf b) ∧
      List.Forall₂ (Table.Shows header) rows objects ∧
      (Table.toValue ⟨header, rows⟩).jsonForm = .object [("header", .list (header.map .string)),
        ("rows", .list (objects.map .object))] := by
  intro x rows header objects
  have nonempty : rows ≠ [] := by simp [rows]
  have distinct : ∀ row ∈ rows, row.keys.Nodup := by simp [rows]
  have derived : x.headerFor rows = header := by decide +kernel
  obtain ⟨-, -, order, made, shows, converted, -⟩ := x.rendering_complete rfl nonempty distinct
  rw [derived] at order shows converted
  have evaluated : (Table.toValue ⟨header, rows⟩).jsonForm =
      .object [("header", .list (header.map .string)), ("rows", .list (objects.map .object))] := by
    decide +kernel
  obtain rfl : made = objects := by
    have same := converted.symm.trans evaluated
    simp only [Value.object.injEq, List.cons.injEq, Prod.mk.injEq, Value.list.injEq, true_and,
      and_true] at same
    exact List.map_injective_iff.mpr (fun _ _ => Value.object.inj) same
  exact ⟨rfl, nonempty, distinct, derived, order, shows, evaluated⟩

end TreeTable
