import Mathlib.Data.List.Forall2
import TreeTable.Extract.Rows

/-! # Values of several paths in rows

Values that are lined up by position fill as many rows as the longest list among them has elements,
and one row when no list has any. Every row has one slot for each value, and every element of a list
stands in exactly one row. A list without elements leaves its slots null, except when there are only
such lists: then each of them stands in the one row itself.
-/

namespace TreeTable.Capture

/-- Whether no list among some values has an element. -/
def Barren (values : List Value) : Prop := ∀ items, .list items ∈ values → items = []

/-- How many rows values fill: as many as the longest list has elements, but at least one. -/
structure IsHeight (values : List Value) (height : Nat) : Prop where
  pos : 0 < height
  length_le : ∀ items, .list items ∈ values → items.length ≤ height
  attained : height = 1 ∨ ∃ items, .list items ∈ values ∧ items.length = height

/-- What a value puts into its slot of a row, beside others. -/
inductive Fills (values : List Value) (row : Nat) : Value → Value → Prop where
  /-- What is no list stands in every row. -/
  | alone {value : Value} (noList : ∀ items, value ≠ .list items) : Fills values row value value
  /-- An element stands in the row of its position. -/
  | element {items : List Value} {item : Value} (found : items[row]? = some item) :
      Fills values row (.list items) item
  /-- Behind the end of a list stands null. -/
  | missing {items : List Value} (ended : items.length ≤ row) (fertile : ¬ Barren values) :
      Fills values row (.list items) .null
  /-- A list without elements beside others of the kind stands in the row itself. -/
  | leftover (barren : Barren values) : Fills values row (.list []) (.list [])

variable {values : List Value}

/-- The length of the longest list among some values. -/
def longest (values : List Value) : Nat := (values.map listLength).foldl max 0

theorem length_le_longest {items : List Value} (h : .list items ∈ values) :
    items.length ≤ longest values := by
  have among : items.length ∈ values.map listLength := List.mem_map_of_mem h
  obtain ⟨m, hm⟩ := Option.isSome_iff_exists.mp (List.isSome_max?_of_mem among)
  have bound := (List.max?_eq_some_iff.mp hm).2 _ among
  rw [longest, List.foldl_max, hm]
  exact Nat.le_trans bound (Nat.le_max_right 0 m)

theorem exists_of_longest_pos (h : 0 < longest values) :
    ∃ items, .list items ∈ values ∧ items.length = longest values := by
  rw [longest, List.foldl_max] at h ⊢
  cases hm : (values.map listLength).max? with
  | none =>
      rw [hm] at h
      cases h
  | some m =>
      rw [hm, Option.getD_some, Nat.zero_max] at h
      rw [Option.getD_some, Nat.zero_max]
      obtain ⟨value, hvalue, hlength⟩ := List.mem_map.mp (List.max?_eq_some_iff.mp hm).1
      cases value with
      | list items => exact ⟨items, hvalue, hlength⟩
      | _ =>
          rw [← hlength] at h
          cases h

theorem longest_eq_zero_iff : longest values = 0 ↔ Barren values := by
  constructor
  · intro h items hitems
    have bound := length_le_longest hitems
    rw [h] at bound
    exact List.length_eq_zero_iff.mp (Nat.le_zero.mp bound)
  · intro barren
    by_contra h
    obtain ⟨items, hitems, hlength⟩ := exists_of_longest_pos (Nat.pos_of_ne_zero h)
    rw [barren items hitems] at hlength
    exact h hlength.symm

theorem collate_of_barren (h : Barren values) : collate values = [.list values] := by
  have none : longest values = 0 := longest_eq_zero_iff.mpr h
  rw [longest] at none
  rw [collate, none]
  rfl

theorem collate_of_not_barren (h : ¬ Barren values) :
    collate values =
      (List.range (longest values)).map fun row => .list (values.map (slot row)) := by
  rw [← longest_eq_zero_iff] at h
  rw [collate]
  split
  next none => exact absurd none h
  next => rfl

theorem fills_of_barren (h : Barren values) {value : Value} (hvalue : value ∈ values) (row : Nat) :
    Fills values row value value := by
  cases value with
  | list items =>
      rw [h items hvalue]
      exact .leftover h
  | _ =>
      apply Fills.alone
      intro items h
      cases h

theorem fills_slot (h : ¬ Barren values) (row : Nat) (value : Value) :
    Fills values row value (slot row value) := by
  cases value with
  | list items =>
      rw [slot]
      cases hitem : items[row]? with
      | none => exact .missing (List.getElem?_eq_none_iff.mp hitem) h
      | some item => exact .element hitem
  | _ =>
      apply Fills.alone
      intro items h
      cases h

theorem isHeight_of_barren (h : Barren values) : IsHeight values 1 where
  pos := Nat.one_pos
  length_le items hitems := by simp [h items hitems]
  attained := .inl rfl

theorem isHeight_longest (h : ¬ Barren values) : IsHeight values (longest values) := by
  have pos : 0 < longest values := Nat.pos_of_ne_zero fun none => h (longest_eq_zero_iff.mp none)
  exact ⟨pos, fun _ => length_le_longest, .inr (exists_of_longest_pos pos)⟩

/-- The slots of a list, row by row, are its elements and nulls behind them. -/
theorem map_slot_range {items : List Value} {height : Nat} (h : items.length ≤ height) :
    (List.range height).map (fun row => slot row (.list items)) =
      items ++ List.replicate (height - items.length) .null := by
  apply List.ext_getElem?
  intro row
  rw [List.getElem?_map, List.getElem?_append]
  split
  next inside =>
    rw [List.getElem?_range (Nat.lt_of_lt_of_le inside h), Option.map_some, slot,
      List.getElem?_eq_getElem inside, Option.getD_some]
  next outside =>
    have ended : items[row]? = none := List.getElem?_eq_none (Nat.le_of_not_lt outside)
    rw [List.getElem?_replicate]
    split
    next further =>
      have inside : row < height := by omega
      rw [List.getElem?_range inside, Option.map_some, slot, ended, Option.getD_none]
    next done =>
      have behind : (List.range height)[row]? = none := by
        rw [List.getElem?_eq_none_iff, List.length_range]
        omega
      rw [behind, Option.map_none]

/-- Values are lined up in as many rows as the longest list has elements, or in one row when no list
has any. A row has a slot for every value, in order: a value that is no list stands in it itself, a
list puts in the element at the position of the row, and null when it has ended. Every element of
every list stands in exactly one row. Only when none of the lists has an element does one of them
stand in the row itself. -/
theorem collate_fills (values : List Value) :
    ∃ rows : List (List Value), collate values = rows.map .list ∧ IsHeight values rows.length ∧
      (∀ (i : Nat) (row : List Value), rows[i]? = some row →
        List.Forall₂ (Fills values i) values row) ∧
      ∀ (j : Nat) (items : List Value), values[j]? = some (.list items) → items ≠ [] →
        rows.filterMap (fun row => row[j]?) =
          items ++ List.replicate (rows.length - items.length) .null := by
  by_cases barren : Barren values
  · refine ⟨[values], collate_of_barren barren, isHeight_of_barren barren, ?_, ?_⟩
    · intro i row hrow
      obtain rfl : row = values := List.mem_singleton.mp (List.mem_of_getElem? hrow)
      exact List.forall₂_same.mpr fun value hvalue => fills_of_barren barren hvalue i
    · intro j items hitems nonempty
      exact absurd (barren items (List.mem_of_getElem? hitems)) nonempty
  · refine ⟨(List.range (longest values)).map fun row => values.map (slot row), ?_, ?_, ?_, ?_⟩
    · rw [collate_of_not_barren barren, List.map_map]
      rfl
    · rw [List.length_map, List.length_range]
      exact isHeight_longest barren
    · intro i row hrow
      rw [List.getElem?_map] at hrow
      obtain ⟨position, hposition, rfl⟩ := Option.map_eq_some_iff.mp hrow
      obtain ⟨-, rfl⟩ := List.getElem?_eq_some_iff.mp hposition
      rw [List.getElem_range, List.forall₂_map_right_iff, List.forall₂_same]
      exact fun value _ => fills_slot barren i value
    · intro j items hitems _
      have bound := length_le_longest (List.mem_of_getElem? hitems)
      have column (row : Nat) : (values.map (slot row))[j]? = some (slot row (.list items)) := by
        rw [List.getElem?_map, hitems, Option.map_some]
      rw [List.filterMap_map, List.length_map, List.length_range, ← map_slot_range bound,
        ← List.filterMap_eq_map]
      congr 1
      funext row
      exact column row

theorem collate_fills_mixed :
    let long : List Value := [.int 1, .list [.int 2], .null]
    let values : List Value := [.list long, .string "x", .list [.bool true], .null, .list []]
    let middle : List Value := [.list [.int 2], .string "x", .null, .null, .null]
    ∃ rows : List (List Value), collate values = rows.map .list ∧ IsHeight values rows.length ∧
      rows.length = 3 ∧ rows[1]? = some middle ∧ List.Forall₂ (Fills values 1) values middle ∧
      values[0]? = some (.list long) ∧ long ≠ [] ∧ rows.filterMap (fun row => row[0]?) = long ∧
      values[2]? = some (.list [.bool true]) ∧
      rows.filterMap (fun row => row[2]?) = [.bool true, .null, .null] := by
  intro long values middle
  obtain ⟨rows, collated, height, slots, columns⟩ := collate_fills values
  have evaluated : collate values = [[.int 1, .string "x", .bool true, .null, .null], middle,
      [.null, .string "x", .null, .null, .null]].map .list := by rfl
  have same : rows.map Value.list = _ := collated.symm.trans evaluated
  have shown := List.map_injective_iff.mpr (fun _ _ => Value.list.inj) same
  have three : rows.length = 3 := by rw [shown]; rfl
  have second : rows[1]? = some middle := by rw [shown]; rfl
  have first := columns 0 long rfl (by decide)
  have short := columns 2 [.bool true] rfl (by decide)
  rw [three] at first short
  exact ⟨rows, collated, height, three, second, slots 1 middle second, rfl, by decide, first, rfl,
    short⟩

/-- Beside a list with elements a list without any leaves null, but alone it stands in the row: a
capture of both paths gives it away. -/
theorem collate_leftover_ne :
    let document : Value := .object [("a", .list []), ("b", .int 1)]
    let capture : Capture := ⟨[.field "a" none, .field "b" none], false, []⟩
    let values : List Value := [.list [], .int 1]
    capture.value {} document document = .ok (.list [.list [], .int 1]) ∧
      collate values = [.list [.list [], .int 1]] ∧ values.map (slot 0) = [.null, .int 1] ∧
      collate values ≠ [.list (values.map (slot 0))] ∧
      collate (values ++ [.list [.int 2]]) = [.list [.null, .int 1, .int 2]] := by
  intro document capture values
  exact ⟨by rfl, by rfl, by rfl, by decide, by rfl⟩

end TreeTable.Capture
