import TreeTable.Proofs.Extract.Enumeration

/-! # Columns do not depend on data

What columns a row has is decided by the captures of the tree. A capture that is not splatted fills
the column of its name whatever the data are, so without splatted captures all rows of all documents
have the same columns, and so have their tables.
-/

namespace TreeTable

open Outcome

namespace Row

/-- Dropping some columns commutes with dropping those that are repeated. -/
theorem eraseDups_filter (keep : String → Bool) : (columns : List String) →
    (columns.filter keep).eraseDups = columns.eraseDups.filter keep
  | [] => rfl
  | first :: rest => by
      have ih := eraseDups_filter keep (rest.filter fun other => !other == first)
      rw [List.eraseDups_cons]
      by_cases h : keep first = true
      · rw [List.filter_cons_of_pos h, List.filter_cons_of_pos h, List.eraseDups_cons, ← ih,
          List.filter_comm]
      · -- The first column is dropped, so nothing that stays is a repetition of it.
        have others : (rest.filter keep).filter (fun other => !other == first) =
            rest.filter keep := by
          rw [List.filter_eq_self]
          intro other hother
          have hne : other ≠ first := by
            rintro rfl
            exact h (List.mem_filter.mp hother).2
          simpa using hne
        rw [List.filter_cons_of_neg h, List.filter_cons_of_neg h, ← ih, List.filter_comm, others]
  termination_by columns => columns.length
  decreasing_by
    have shorter := List.length_filter_le (fun other => !other == first) rest
    simp only [List.length_cons]
    omega

theorem eraseDups_eraseDups : (columns : List String) →
    columns.eraseDups.eraseDups = columns.eraseDups
  | [] => rfl
  | first :: rest => by
      have ih := eraseDups_eraseDups (rest.filter fun other => !other == first)
      rw [List.eraseDups_cons, List.eraseDups_cons, ← eraseDups_filter, List.filter_filter]
      simp only [Bool.and_self, ih]
  termination_by columns => columns.length
  decreasing_by
    have shorter := List.length_filter_le (fun other => !other == first) rest
    simp only [List.length_cons]
    omega

/-- Of columns in two parts, repetitions may be dropped from each part beforehand. -/
theorem eraseDups_append_eraseDups (first second : List String) :
    (first.eraseDups ++ second.eraseDups).eraseDups = (first ++ second).eraseDups := by
  have same : (fun column => !first.eraseDups.elem column) =
      fun column => !first.elem column := by
    funext column
    simp
  rw [List.eraseDups_append, List.eraseDups_append, List.removeAll, List.removeAll, same,
    eraseDups_eraseDups, eraseDups_filter, eraseDups_filter, eraseDups_eraseDups]

/-- The rows of a choice are rows of the lists that are chosen from. -/
theorem forall₂_pick {α : Type} {made : α → List Row → Prop} {sources : List α}
    {lists : List (List Row)} (h : List.Forall₂ made sources lists) {choice : List Nat}
    (hchoice : List.Forall₂ (· < ·) choice (lists.map List.length)) :
    List.Forall₂ (fun source row => ∃ rows, made source rows ∧ row ∈ rows) sources
      (pick lists choice) := by
  induction h generalizing choice with
  | nil => exact .nil
  | @cons source rows sources lists first _ ih =>
      obtain ⟨i, others, hi, hothers, rfl⟩ := List.forall₂_cons_right_iff.mp hchoice
      refine .cons ⟨rows, first, ?_⟩ (ih hothers)
      dsimp only
      rw [List.getElem?_eq_getElem hi, Option.getD_some]
      exact List.getElem_mem hi

/-- Whether columns are those that captures fill, each once: of every capture in turn some
columns, and just that of its name when it is not splatted. -/
def Filled (captures : List (String × Capture)) (columns : List String) : Prop :=
  ∃ filled : List (List String),
    List.Forall₂ (fun capture part => capture.2.splat = false → part = [capture.1])
      captures filled ∧ columns = filled.flatten.eraseDups

theorem Filled.append {before after : List (String × Capture)} {first second : List String}
    (hfirst : Filled before first) (hsecond : Filled after second.eraseDups) :
    Filled (before ++ after) (first ++ second).eraseDups := by
  obtain ⟨firsts, hfirsts, rfl⟩ := hfirst
  obtain ⟨seconds, hseconds, hsecond⟩ := hsecond
  refine ⟨firsts ++ seconds, List.rel_append hfirsts hseconds, ?_⟩
  rw [← eraseDups_append_eraseDups, hsecond, eraseDups_eraseDups, eraseDups_append_eraseDups,
    List.flatten_append]

theorem Filled.mem {captures : List (String × Capture)} {columns : List String}
    (h : Filled captures columns) {capture : String × Capture} (hcapture : capture ∈ captures)
    (plain : capture.2.splat = false) : capture.1 ∈ columns := by
  obtain ⟨filled, hfilled, rfl⟩ := h
  rw [List.mem_eraseDups, List.mem_flatten]
  induction hfilled with
  | nil => cases hcapture
  | cons first _ ih =>
      rcases List.mem_cons.mp hcapture with rfl | hrest
      · exact ⟨_, List.mem_cons_self, by simp [first plain]⟩
      · obtain ⟨part, hpart, hmem⟩ := ih hrest
        exact ⟨part, List.mem_cons_of_mem _ hpart, hmem⟩

theorem Filled.eq {captures : List (String × Capture)} {columns : List String}
    (h : Filled captures columns) (plain : ∀ capture ∈ captures, capture.2.splat = false) :
    columns = (captures.map Prod.fst).eraseDups := by
  obtain ⟨filled, hfilled, rfl⟩ := h
  congr 1
  induction hfilled with
  | nil => rfl
  | cons first _ ih =>
      rw [List.forall_mem_cons] at plain
      rw [List.flatten_cons, List.map_cons, first plain.1, ih plain.2, List.singleton_append]

end Row

/-- A capture fills the columns of a splatted value, or the one of its name. -/
theorem Capture.filled_row (capture : Capture) (name : String) (value : Value) :
    Row.Filled [(name, capture)] (capture.row name value).keys := by
  obtain ⟨paths, splat, stages⟩ := capture
  have spread (writes : Fields) :
      Row.Filled [(name, ⟨paths, true, stages⟩)] (Fields.ofWrites writes).keys := by
    refine ⟨[writes.keys], by simp, ?_⟩
    rw [Fields.ofWrites, Fields.keys_merge, List.flatten_singleton]
    simp
  cases splat with
  | false => exact ⟨[[name]], by simp, rfl⟩
  | true =>
      cases value with
      | list items => exact spread _
      | object fields => exact spread _
      | _ => exact ⟨[[name]], by simp, rfl⟩

namespace ExtractNode

mutual

/-- The captures of a tree with their names, in the order of declaration. A capture is a leaf:
nothing below one is ever reached. -/
def captures : ExtractNode → List (String × Capture)
  | ⟨name, .capture capture, _⟩ => [(name, capture)]
  | ⟨_, .interior _, children⟩ => capturesOf children

def capturesOf : List ExtractNode → List (String × Capture)
  | [] => []
  | node :: rest => captures node ++ capturesOf rest

end

mutual

theorem columns_eq_map_captures : (node : ExtractNode) →
    node.columns = node.captures.map Prod.fst
  | ⟨name, .capture capture, children⟩ => by rw [columns, captures]; rfl
  | ⟨name, .interior reach, children⟩ => by
      rw [columns, captures, columnsOf_eq_map_captures children]

theorem columnsOf_eq_map_captures : (children : List ExtractNode) →
    columnsOf children = (capturesOf children).map Prod.fst
  | [] => by rw [columnsOf, capturesOf]; rfl
  | node :: rest => by
      rw [columnsOf, capturesOf, List.map_append, columns_eq_map_captures node,
        columnsOf_eq_map_captures rest]

end

variable {e : Evaluator} {root : Value}

/-- A row of an interior node is merged from one row of each child over one element of its
data. -/
theorem exists_parts_of_mem {name : String} {reach : Reach Path} {children : List ExtractNode}
    {current : Value} {made : List Row}
    (h : rows e root ⟨name, .interior reach, children⟩ current = .ok made) {row : Row}
    (hrow : row ∈ made) :
    ∃ element parts, List.Forall₂ (fun child part =>
        ∃ produced, child.rows e root element = .ok produced ∧ part ∈ produced) children parts ∧
      Row.IsMerge parts row := by
  rw [rows_interior, bind_eq_ok_iff] at h
  obtain ⟨data, -, h⟩ := h
  rw [rowsAmong, Value.rowsOver_eq_elements, map_eq_ok_iff] at h
  obtain ⟨parts, hparts, rfl⟩ := h
  obtain ⟨part, hpart, hrow⟩ := List.mem_flatten.mp hrow
  obtain ⟨element, -, hover⟩ := exists_of_mem_mapM hparts hpart
  rw [rowsFrom_eq_extensions, map_eq_ok_iff] at hover
  obtain ⟨produced, hproduced, rfl⟩ := hover
  obtain ⟨choice, hchoice, rfl⟩ := List.mem_map.mp hrow
  refine ⟨element, Row.pick produced choice, ?_, Row.isMerge_merge _⟩
  exact Row.forall₂_pick (mapM_eq_ok_iff.mp hproduced) (Row.mem_choices.mp hchoice)

mutual

/-- The columns of a row are those that the captures of its tree fill. -/
theorem filled_of_mem : (node : ExtractNode) → {current : Value} → {made : List Row} →
    node.rows e root current = .ok made → {row : Row} → row ∈ made →
      Row.Filled node.captures row.keys
  | ⟨name, .capture capture, children⟩, current, made, h, row, hrow => by
      rw [rows, bind_eq_ok_iff] at h
      obtain ⟨value, -, h⟩ := h
      cases h
      rw [List.mem_singleton.mp hrow, captures]
      exact capture.filled_row name value
  | ⟨name, .interior reach, children⟩, current, made, h, row, hrow => by
      obtain ⟨element, parts, hparts, merged⟩ := exists_parts_of_mem h hrow
      rw [merged.keys, captures]
      exact filled_of_parts children hparts

theorem filled_of_parts : (children : List ExtractNode) → {element : Value} →
    {parts : List Row} → List.Forall₂ (fun child part =>
      ∃ produced, child.rows e root element = .ok produced ∧ part ∈ produced) children parts →
        Row.Filled (capturesOf children) (parts.flatMap Fields.keys).eraseDups
  | [], element, parts, h => by
      rw [List.forall₂_nil_left_iff] at h
      rw [h, capturesOf]
      exact ⟨[], .nil, rfl⟩
  | child :: rest, element, parts, h => by
      obtain ⟨part, others, ⟨produced, hproduced, hpart⟩, hothers, rfl⟩ :=
        List.forall₂_cons_left_iff.mp h
      exact (filled_of_mem child hproduced hpart).append (filled_of_parts rest hothers)

end

end ExtractNode

/-- Rows that all have the same columns are shown under these. -/
theorem Table.columnsOf_eq {rows : List Row} {columns : List String} (nonempty : rows ≠ [])
    (same : ∀ row ∈ rows, row.keys = columns.eraseDups) :
    columnsOf rows = columns.eraseDups := by
  obtain ⟨first, rest, rfl⟩ := List.exists_cons_of_ne_nil nonempty
  rw [List.forall_mem_cons] at same
  have nothing : (rest.flatMap Fields.keys).removeAll columns.eraseDups = [] := by
    rw [List.removeAll, List.filter_eq_nil_iff]
    intro column hcolumn
    obtain ⟨row, hrow, hmem⟩ := List.mem_flatMap.mp hcolumn
    rw [same.2 row hrow] at hmem
    simpa using hmem
  rw [columnsOf, List.flatMap_cons, same.1, List.eraseDups_append, nothing,
    Row.eraseDups_eraseDups, List.eraseDups_nil, List.append_nil]

/-- Columns do not depend on what data are missing. When a document has rows, every row has the
column of every capture that is not splatted. Without splatted captures every row has exactly the
columns of the tree, in the order of declaration and each once, and a table whose header is not
fixed beforehand is shown under these. -/
theorem Extractor.columns_of_rows (x : Extractor) (e : Evaluator) {document : Value}
    {rows : List Row} (h : x.rows e document = .ok rows) :
    (∀ row ∈ rows, ∀ capture ∈ x.root.captures, capture.2.splat = false →
      capture.1 ∈ row.keys) ∧
    ((∀ capture ∈ x.root.captures, capture.2.splat = false) →
      (∀ row ∈ rows, row.keys = x.root.columns.eraseDups) ∧
      (x.header = none → x.table e document = .ok ⟨x.root.columns.eraseDups, rows⟩)) := by
  have filled : ∀ row ∈ rows, Row.Filled x.root.captures row.keys :=
    fun row hrow => x.root.filled_of_mem h hrow
  refine ⟨fun row hrow capture hcapture plain => (filled row hrow).mem hcapture plain, ?_⟩
  intro plain
  have keys : ∀ row ∈ rows, row.keys = x.root.columns.eraseDups := by
    intro row hrow
    rw [(filled row hrow).eq plain, x.root.columns_eq_map_captures]
  refine ⟨keys, ?_⟩
  intro derived
  have nonempty : rows ≠ [] := ExtractNode.rows_ne_nil h
  have more : rows.isEmpty = false := by simpa using nonempty
  rw [table, h, ok_bind, headerFor, derived, more, ← Table.columnsOf_eq nonempty keys]
  rfl

theorem Extractor.columns_of_rows_missing :
    let column (name : String) : ExtractNode :=
      ⟨name, .capture ⟨[.field name none], false, []⟩, []⟩
    let x : Extractor := { root := ⟨"", .interior .here, [column "id",
      ⟨"tags", .interior (.find (.field "tags" none)), [column "name", column "id"]⟩]⟩ }
    let row (id name : Value) : Row := [("id", id), ("name", name)]
    let rows := [row .null .null, row .null .null, row (.int 1) (.string "a"), row .null .null]
    let document : Value := .list [.object [("id", .int 7), ("tags", .list [])], .string "x",
      .object [("tags", .list [.object [("name", .string "a"), ("id", .int 1)], .bool true])]]
    x.rows {} document = .ok rows ∧ x.header = none ∧
      (∀ capture ∈ x.root.captures, capture.2.splat = false) ∧
      (∀ row ∈ rows, ∀ capture ∈ x.root.captures, capture.1 ∈ row.keys) ∧
      (∀ row ∈ rows, row.keys = ["id", "name"]) ∧
      x.table {} document = .ok ⟨["id", "name"], rows⟩ := by
  intro column x row rows document
  have h : x.rows {} document = .ok rows := by rfl
  have plain : ∀ capture ∈ x.root.captures, capture.2.splat = false := by
    simp [x, column, ExtractNode.captures, ExtractNode.capturesOf]
  have columns : x.root.columns.eraseDups = ["id", "name"] := by decide +kernel
  obtain ⟨present, whole⟩ := x.columns_of_rows {} h
  obtain ⟨keys, shown⟩ := whole plain
  rw [columns] at keys shown
  exact ⟨h, rfl, plain, fun row hrow capture hcapture =>
    present row hrow capture hcapture (plain capture hcapture), keys, shown rfl⟩

end TreeTable
