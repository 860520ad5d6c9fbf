import Mathlib.Algebra.GroupWithZero.Nat
import Mathlib.Data.List.Forall2
import TreeTable.Extract.Table
import TreeTable.Proofs.Outcome
import TreeTable.Proofs.Value.Fields

/-! # Rows enumerate choices

Over data that is no list, the rows of an interior node are the merges of all choices of one row
from each child, in lexicographic order. Over a list they are those over its elements, one after
another, however deeply lists are nested. So rows can be counted without making them, and there is
always at least one.
-/

namespace TreeTable

open Outcome

namespace Value

mutual

/-- What rows are made over: everything in nested lists that is no list, and a null for every
list that is empty. -/
def elements : Value → List Value
  | list [] => [null]
  | list (item :: rest) => elements item ++ elementsOf rest
  | other => [other]

def elementsOf : List Value → List Value
  | [] => []
  | item :: rest => elements item ++ elementsOf rest

end

variable {ε : Type} (rows : Value → Except ε (List Row))

/-- The rows over a list are those over its elements, one after another. -/
theorem rowsOverItems_eq (items : List Value) :
    rowsOverItems rows items = (items.mapM (rowsOver rows)).map List.flatten := by
  induction items with
  | nil =>
      rw [rowsOverItems]
      rfl
  | cons item rest ih =>
      rw [rowsOverItems, List.mapM_cons, ih]
      cases rowsOver rows item with
      | error error => rfl
      | ok first => cases rest.mapM (rowsOver rows) <;> rfl

theorem rowsOver_list {items : List Value} (h : items ≠ []) :
    rowsOver rows (list items) = (items.mapM (rowsOver rows)).map List.flatten := by
  rw [← rowsOverItems_eq]
  cases items with
  | nil => exact absurd rfl h
  | cons item rest => rw [rowsOver, rowsOverItems]

theorem rowsOver_of_not_list {data : Value} (h : ∀ items, data ≠ list items) :
    rowsOver rows data = rows data := by
  cases data with
  | list items => exact absurd rfl (h items)
  | _ => rw [rowsOver] <;> nofun

theorem map_flatten_mapM_singleton (data : Value) :
    ([data].mapM rows).map List.flatten = rows data := by
  rw [List.mapM_cons]
  cases rows data with
  | error error => rfl
  | ok made => exact congrArg Except.ok (List.append_nil made)

theorem map_flatten_mapM_append (first second : List Value) :
    ((first ++ second).mapM rows).map List.flatten = do
      let before ← (first.mapM rows).map List.flatten
      let after ← (second.mapM rows).map List.flatten
      return before ++ after := by
  rw [List.mapM_append]
  cases first.mapM rows with
  | error error => rfl
  | ok before =>
      cases second.mapM rows with
      | error error => rfl
      | ok after => exact congrArg Except.ok List.flatten_append

mutual

/-- The rows over nested lists are those over everything in them that is no list. -/
theorem rowsOver_eq_elements :
    (data : Value) → rowsOver rows data = (data.elements.mapM rows).map List.flatten
  | list [] => by rw [rowsOver, elements, map_flatten_mapM_singleton]
  | list (item :: rest) => by
      rw [rowsOver, elements, map_flatten_mapM_append, ← rowsOver_eq_elements item,
        ← rowsOverItems_eq_elements rest]
  | null | bool _ | int _ | float _ | string _ | object _ => by
      rw [rowsOver_of_not_list rows (by nofun), ← map_flatten_mapM_singleton rows]
      simp [elements]

theorem rowsOverItems_eq_elements :
    (items : List Value) →
      rowsOverItems rows items = ((elementsOf items).mapM rows).map List.flatten
  | [] => by
      rw [rowsOverItems, elementsOf]
      rfl
  | item :: rest => by
      rw [rowsOverItems, elementsOf, map_flatten_mapM_append, ← rowsOver_eq_elements item,
        ← rowsOverItems_eq_elements rest]

end

theorem elements_ne_nil : (data : Value) → data.elements ≠ []
  | list [] => by simp [elements]
  | list (item :: rest) => by
      rw [elements]
      exact List.append_ne_nil_of_left_ne_nil (elements_ne_nil item) _
  | null | bool _ | int _ | float _ | string _ | object _ => by simp [elements]

/-- There are rows over nested lists if there are rows over everything that is no list. -/
theorem rowsOver_ne_nil (h : ∀ data made, rows data = .ok made → made ≠ []) {data : Value}
    {made : List Row} (hmade : rowsOver rows data = .ok made) : made ≠ [] := by
  rw [rowsOver_eq_elements, map_eq_ok_iff] at hmade
  obtain ⟨parts, hparts, rfl⟩ := hmade
  obtain ⟨first, rest, helements⟩ := List.exists_cons_of_ne_nil data.elements_ne_nil
  rw [helements, mapM_eq_ok_iff, List.forall₂_cons_left_iff] at hparts
  obtain ⟨part, others, hpart, -, rfl⟩ := hparts
  exact List.append_ne_nil_of_left_ne_nil (h first part hpart) _

end Value

namespace Row

theorem cross_ne_nil {first second : List Row} (hfirst : first ≠ []) (hsecond : second ≠ []) :
    cross first second ≠ [] := by
  rw [← List.length_pos_iff, length_cross]
  exact Nat.mul_pos (List.length_pos_iff.mpr hfirst) (List.length_pos_iff.mpr hsecond)

/-- The choices of one position below each bound, in lexicographic order. -/
def choices : List Nat → List (List Nat)
  | [] => [[]]
  | bound :: rest => (List.range bound).flatMap fun i => (choices rest).map (i :: ·)

theorem mem_choices {bounds choice : List Nat} :
    choice ∈ choices bounds ↔ List.Forall₂ (· < ·) choice bounds := by
  induction bounds generalizing choice with
  | nil => simp [choices]
  | cons bound rest ih =>
      rw [choices, List.mem_flatMap, List.forall₂_cons_right_iff]
      constructor
      · rintro ⟨i, hi, hchoice⟩
        obtain ⟨others, hothers, rfl⟩ := List.mem_map.mp hchoice
        exact ⟨i, others, List.mem_range.mp hi, ih.mp hothers, rfl⟩
      · rintro ⟨i, others, hi, hothers, rfl⟩
        exact ⟨i, List.mem_range.mpr hi, List.mem_map_of_mem (ih.mpr hothers)⟩

theorem pairwise_choices (bounds : List Nat) :
    (choices bounds).Pairwise (List.Lex (· < ·)) := by
  induction bounds with
  | nil => exact List.pairwise_singleton _ _
  | cons bound rest ih =>
      rw [choices, List.pairwise_flatMap]
      constructor
      · intro i _
        rw [List.pairwise_map]
        exact ih.imp .cons
      · apply List.pairwise_lt_range.imp
        intro i j hij first hfirst second hsecond
        obtain ⟨firsts, -, rfl⟩ := List.mem_map.mp hfirst
        obtain ⟨seconds, -, rfl⟩ := List.mem_map.mp hsecond
        exact .rel hij

theorem length_choices (bounds : List Nat) : (choices bounds).length = bounds.prod := by
  induction bounds with
  | nil => rfl
  | cons bound rest ih =>
      simp [choices, List.length_flatMap, ih]

/-- The rows at chosen positions, one of each list. -/
def pick (lists : List (List Row)) (choice : List Nat) : List Row :=
  List.zipWith (fun rows i => rows[i]?.getD []) lists choice

/-- A row, with the rows of a choice merged into it, for every choice of a row from each list. -/
def extensions (row : Row) (lists : List (List Row)) : List Row :=
  (choices (lists.map List.length)).map fun choice => Fields.merge row (pick lists choice).flatten

theorem map_getElem?_range (rows : List Row) :
    (List.range rows.length).map (fun i => rows[i]?.getD []) = rows := by
  apply List.ext_getElem?
  intro i
  rw [List.getElem?_map]
  by_cases h : i < rows.length <;> simp [h]

theorem extensions_cons (row : Row) (rows : List Row) (lists : List (List Row)) :
    extensions row (rows :: lists) =
      rows.flatMap fun other => extensions (Fields.merge row other) lists := by
  have first (i : Nat) : extensions (Fields.merge row (rows[i]?.getD [])) lists =
      (choices (lists.map List.length)).map fun choice =>
        Fields.merge row (pick (rows :: lists) (i :: choice)).flatten := by
    simp [extensions, pick, Fields.merge_append]
  calc extensions row (rows :: lists)
    _ = (List.range rows.length).flatMap fun i =>
          extensions (Fields.merge row (rows[i]?.getD [])) lists := by
        simp only [first]
        simp only [extensions, List.map_cons, choices, List.map_flatMap, List.map_map,
          Function.comp_def]
    _ = ((List.range rows.length).map fun i => rows[i]?.getD []).flatMap fun other =>
          extensions (Fields.merge row other) lists := by rw [List.flatMap_map]
    _ = rows.flatMap fun other => extensions (Fields.merge row other) lists := by
        rw [map_getElem?_range]

theorem flatMap_cross (sofar rows : List Row) (lists : List (List Row)) :
    (cross sofar rows).flatMap (extensions · lists) =
      sofar.flatMap (extensions · (rows :: lists)) := by
  simp only [cross, List.flatMap_assoc, List.flatMap_map, extensions_cons]

/-- What rows come to when they are merged in order: every column once, where it first occurs, with
the value that was written to it last. -/
structure IsMerge (parts : List Row) (row : Row) : Prop where
  keys : row.keys = (parts.flatMap Fields.keys).eraseDups
  value : ∀ column, row.get? column = Fields.get? parts.flatten.reverse column

/-- Whether rows are the merges of all choices of one row from each list, exactly one for every
choice. Choices are given by positions and are in lexicographic order, so that the position in
the first list varies slowest. -/
def Enumerates (lists : List (List Row)) (made : List Row) : Prop :=
  ∃ order : List (List Nat), order.Pairwise (List.Lex (· < ·)) ∧
    (∀ choice, choice ∈ order ↔ List.Forall₂ (fun i rows => i < rows.length) choice lists) ∧
    List.Forall₂ (fun choice row => IsMerge (pick lists choice) row) order made

theorem isMerge_merge (parts : List Row) : IsMerge parts (Fields.merge [] parts.flatten) where
  keys := by
    have all : Fields.keys parts.flatten = parts.flatMap Fields.keys := by
      rw [Fields.keys, List.map_flatten, List.flatMap_def]
      rfl
    rw [Fields.keys_merge, ← all]
    simp
  value column := by
    rw [Fields.get?_merge, Fields.get?_nil, Option.or_none]

theorem enumerates_extensions (lists : List (List Row)) :
    Enumerates lists (extensions [] lists) := by
  refine ⟨choices (lists.map List.length), pairwise_choices _, ?_, ?_⟩
  · intro choice
    rw [mem_choices, List.forall₂_map_right_iff]
  · rw [extensions, List.forall₂_map_right_iff, List.forall₂_same]
    intro choice _
    exact isMerge_merge _

theorem length_extensions (row : Row) (lists : List (List Row)) :
    (extensions row lists).length = (lists.map List.length).prod := by
  rw [extensions, List.length_map, length_choices]

end Row

namespace ExtractNode

theorem rowsFrom_ne_nil {e : Evaluator} {root data : Value} {children : List ExtractNode}
    {sofar made : List Row} (h : sofar ≠ [])
    (hmade : rowsFrom e root sofar children data = .ok made) : made ≠ [] := by
  induction children generalizing sofar with
  | nil =>
      rw [rowsFrom] at hmade
      cases hmade
      exact h
  | cons child rest ih =>
      rw [rowsFrom, bind_eq_ok_iff] at hmade
      obtain ⟨produced, -, hmade⟩ := hmade
      refine ih ?_ hmade
      split
      next => exact h
      next nonempty => exact Row.cross_ne_nil h (by simpa using nonempty)

/-- Every node has at least one row. -/
theorem rows_ne_nil {e : Evaluator} {root current : Value} {node : ExtractNode}
    {made : List Row} (hmade : node.rows e root current = .ok made) : made ≠ [] := by
  obtain ⟨name, _ | capture, children⟩ := node
  · rw [rows, bind_eq_ok_iff] at hmade
    obtain ⟨data, -, hmade⟩ := hmade
    refine Value.rowsOver_ne_nil _ ?_ hmade
    intro data made
    exact rowsFrom_ne_nil (List.cons_ne_nil _ _)
  · rw [rows, bind_eq_ok_iff] at hmade
    obtain ⟨value, -, hmade⟩ := hmade
    cases hmade
    exact List.cons_ne_nil _ _

/-- The rows of each child over data. -/
def rowsOfEach (e : Evaluator) (root : Value) (children : List ExtractNode) (data : Value) :
    Except EvalError (List (List Row)) :=
  children.mapM fun child => child.rows e root data

/-- The rows that an interior node with these children has over its data. -/
def rowsAmong (e : Evaluator) (root : Value) (children : List ExtractNode) (data : Value) :
    Except EvalError (List Row) :=
  data.rowsOver fun element => rowsFrom e root [[]] children element

/-- The number of rows of a node. -/
def rowCount (e : Evaluator) (root data : Value) (node : ExtractNode) : Nat :=
  match node.rows e root data with
  | .ok made => made.length
  | .error _ => 0

variable {e : Evaluator} {root : Value}

theorem rowsFrom_eq (data : Value) (children : List ExtractNode) (sofar : List Row) :
    rowsFrom e root sofar children data =
      (rowsOfEach e root children data).map fun produced =>
        sofar.flatMap (Row.extensions · produced) := by
  induction children generalizing sofar with
  | nil =>
      rw [rowsFrom]
      exact congrArg Except.ok (List.flatMap_singleton' sofar).symm
  | cons child rest ih =>
      rw [rowsFrom, rowsOfEach, List.mapM_cons, ← rowsOfEach]
      cases hmade : child.rows e root data with
      | error error => rfl
      | ok made =>
          -- A child has a row at least, so the rows so far are always crossed with its rows.
          have nonempty : made.isEmpty = false := by simpa using rows_ne_nil hmade
          rw [ok_bind, ok_bind, nonempty, if_neg Bool.false_ne_true, ih]
          cases rowsOfEach e root rest data with
          | error error => rfl
          | ok others => exact congrArg Except.ok (Row.flatMap_cross sofar made others)

/-- Over data that is no list, the rows are the choices of one row from each child. -/
theorem rowsFrom_eq_extensions (data : Value) (children : List ExtractNode) :
    rowsFrom e root [[]] children data =
      (rowsOfEach e root children data).map (Row.extensions []) := by
  rw [rowsFrom_eq]
  simp only [List.flatMap_cons, List.flatMap_nil, List.append_nil]

/-- Over data that is no list, there are as many rows as choices. -/
theorem length_rowsFrom {data : Value} {children : List ExtractNode} {made : List Row}
    (h : rowsFrom e root [[]] children data = .ok made) :
    made.length = (children.map (rowCount e root data)).prod := by
  rw [rowsFrom_eq_extensions, map_eq_ok_iff] at h
  obtain ⟨produced, hproduced, rfl⟩ := h
  have counts : children.map (rowCount e root data) = produced.map List.length := by
    apply map_eq_map_of_mapM hproduced
    intro child rows hrows
    rw [rowCount, hrows]
  rw [Row.length_extensions, counts]

theorem length_rowsAmong {data : Value} {children : List ExtractNode} {made : List Row}
    (h : rowsAmong e root children data = .ok made) :
    made.length =
      (data.elements.map fun element => (children.map (rowCount e root element)).prod).sum := by
  rw [rowsAmong, Value.rowsOver_eq_elements, map_eq_ok_iff] at h
  obtain ⟨parts, hparts, rfl⟩ := h
  have counts : data.elements.map (fun element =>
      (children.map (rowCount e root element)).prod) = parts.map List.length :=
    map_eq_map_of_mapM hparts fun _ _ hpart => (length_rowsFrom hpart).symm
  rw [List.length_flatten, counts]

theorem rows_interior (name : String) (reach : Reach Path) (children : List ExtractNode)
    (current : Value) :
    rows e root ⟨name, .interior reach, children⟩ current =
      reach.follow e root current >>= rowsAmong e root children := by
  rw [rows]
  rfl

/-- The rows of an interior node. Over data that is no list they enumerate the choices of one row
from each child, in lexicographic order, and fail as the first child does that fails; over a list
they are the rows over its elements in order; over an empty list those over null. So they are as
many as the sum over all elements of the products of what each child has, and no extractor leaves
a document without a row. -/
theorem rows_enumerate_choices (e : Evaluator) (root : Value) (name : String)
    (reach : Reach Path) (children : List ExtractNode) :
    (∀ current, rows e root ⟨name, .interior reach, children⟩ current =
      reach.follow e root current >>= rowsAmong e root children) ∧
    (∀ data, (∀ items, data ≠ .list items) →
      (∀ produced, rowsOfEach e root children data = .ok produced →
        ∃ made, rowsAmong e root children data = .ok made ∧ Row.Enumerates produced made) ∧
      ∀ error, rowsOfEach e root children data = .error error →
        rowsAmong e root children data = .error error) ∧
    (∀ items, items ≠ [] → rowsAmong e root children (.list items) =
      (items.mapM (rowsAmong e root children)).map List.flatten) ∧
    rowsAmong e root children (.list []) = rowsAmong e root children .null ∧
    (∀ data made, rowsAmong e root children data = .ok made → made.length =
      (data.elements.map fun element => (children.map (rowCount e root element)).prod).sum) ∧
    ∀ (x : Extractor) document made, x.rows e document = .ok made → made ≠ [] := by
  refine ⟨rows_interior name reach children, ?_, fun _ => Value.rowsOver_list _, ?_,
    fun _ _ => length_rowsAmong, fun _ _ _ => rows_ne_nil⟩
  · intro data noList
    rw [rowsAmong, Value.rowsOver_of_not_list _ noList, rowsFrom_eq_extensions]
    refine ⟨?_, ?_⟩
    · intro produced hproduced
      rw [hproduced]
      exact ⟨_, rfl, Row.enumerates_extensions produced⟩
    · intro error herror
      rw [herror]
      rfl
  · rw [rowsAmong, rowsAmong, Value.rowsOver, Value.rowsOver_of_not_list _ (by nofun)]

-- The second child writes the column of the first again, and an empty list counts as null.
example :
    let column (name : String) : ExtractNode := ⟨name, .capture ⟨[], false, []⟩, []⟩
    let tree : ExtractNode := ⟨"", .interior .here, [
      ⟨"a", .interior (.key "a"), [column "x", column "y"]⟩,
      ⟨"b", .interior (.key "b"), [column "x"]⟩]⟩
    let row (x y : Value) : Row := [("x", x), ("y", y)]
    let document : Value := .object [("a", .list [.int 1, .list [.int 2, .list []]]),
      ("b", .list [.int 3, .int 4])]
    tree.rows {} document document = .ok [row (.int 3) (.int 1), row (.int 4) (.int 1),
      row (.int 3) (.int 2), row (.int 4) (.int 2), row (.int 3) .null, row (.int 4) .null] := by
  rfl

end ExtractNode

end TreeTable
