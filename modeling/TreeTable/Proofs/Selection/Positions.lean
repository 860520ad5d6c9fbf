import TreeTable.Path.Location
import TreeTable.Value.Leaves

/-! # Values and positions of selections

The values that a selector picks stand at the positions that it gives, except that a single
position outside the list picks a null and gives no position. Nulls have no leaves, so values
and positions agree on leaves.
-/

namespace TreeTable

namespace Selector

/-- No selector goes beyond the end of the list. -/
theorem bounds_le (length : Nat) (selector : Selector) :
    (selector.bounds length).2 ≤ length := by
  cases selector with
  | position n => exact Nat.min_le_right _ _
  | range first last inclusive => exact Nat.min_le_right _ _
  | onward first => exact Nat.le_refl _

/-- Every position that a selector gives lies in the list. -/
theorem mem_positions_lt {length i : Nat} {selector : Selector}
    (h : i ∈ selector.positions length) : i < length := by
  have part : ∀ first past, past ≤ length → i ∈ List.range' first (past - first) → i < length := by
    intro first past inside h
    rw [List.mem_range'_1] at h
    omega
  have inside := bounds_le length selector
  cases selector with
  | position n =>
      rw [positions] at h
      split at h
      next =>
        rw [List.mem_singleton] at h
        omega
      next => cases h
  | range first last inclusive => exact part _ _ inside h
  | onward first => exact part _ _ inside h

/-- A part of a list is what stands at the positions of the part. -/
theorem drop_take_eq_map {items : List Value} (first : Nat) {past : Nat}
    (inside : past ≤ items.length) :
    (items.take past).drop first =
      (List.range' first (past - first)).map fun i => items[i]?.getD .null := by
  apply List.ext_getElem?
  intro j
  rw [List.getElem?_drop, List.getElem?_take, List.getElem?_map]
  by_cases h : first + j < past
  · have bound : first + j < items.length := by omega
    have there : items[first + j]? = some items[first + j] := List.getElem?_eq_getElem bound
    have position : (List.range' first (past - first))[j]? = some (first + j) := by
      rw [List.getElem?_range' (by omega), Nat.one_mul]
    rw [if_pos h, position, Option.map_some, there, Option.getD_some]
  · have beyond : (List.range' first (past - first))[j]? = none := by
      rw [List.getElem?_eq_none_iff, List.length_range']
      omega
    rw [if_neg h, beyond]
    rfl

/-- What a range picks stands at its positions. -/
theorem picks_eq_map_positions {selector : Selector} (isRange : ∀ n, selector ≠ position n)
    (items : List Value) :
    selector.picks items =
      (selector.positions items.length).map fun i => items[i]?.getD .null := by
  have inside := bounds_le items.length selector
  cases selector with
  | position n => exact absurd rfl (isRange n)
  | range first last inclusive => exact drop_take_eq_map _ inside
  | onward first => exact drop_take_eq_map _ inside

/-- The leaves of what a selector picks are those of the values at its positions. -/
theorem leavesOf_picks (items : List Value) (selector : Selector) :
    Value.leavesOf (selector.picks items) =
      (selector.positions items.length).flatMap fun i => (items[i]?.getD .null).leaves := by
  cases selector with
  | position n =>
      rw [picks, positions]
      by_cases h : 0 ≤ offset items.length n ∧ offset items.length n < items.length
      · simp [h, Int.not_lt.mpr h.1]
      · -- Outside the list a null is picked, on either side of it.
        by_cases hlow : offset items.length n < 0
        · simp [hlow, h]
        · have outside : items.length ≤ (offset items.length n).toNat := by omega
          simp [hlow, h, List.getElem?_eq_none outside]
  | range first last inclusive =>
      rw [picks_eq_map_positions (by simp), Value.leavesOf_eq_flatMap, List.flatMap_map]
  | onward first =>
      rw [picks_eq_map_positions (by simp), Value.leavesOf_eq_flatMap, List.flatMap_map]

/-- A selector gives the only position of a list of one element, or none. -/
theorem positions_one (selector : Selector) :
    selector.positions 1 = [] ∨ selector.positions 1 = [0] := by
  have part : ∀ first past, past ≤ 1 →
      List.range' first (past - first) = [] ∨ List.range' first (past - first) = [0] := by
    intro first past h
    by_cases hpart : first = 0 ∧ past = 1
    · obtain ⟨rfl, rfl⟩ := hpart
      exact .inr rfl
    · have nothing : past - first = 0 := by omega
      rw [nothing]
      exact .inl rfl
  have inside := bounds_le 1 selector
  cases selector with
  | position n =>
      rw [positions]
      split
      next h =>
        have first : (offset 1 n).toNat = 0 := by omega
        rw [first]
        exact .inr rfl
      next => exact .inl rfl
  | range first last inclusive => exact part _ _ inside
  | onward first => exact part _ _ inside

end Selector

namespace Selection

theorem mem_positions_lt {selection : Selection} {length i : Nat}
    (h : i ∈ selection.positions length) : i < length := by
  obtain ⟨selector, -, hi⟩ := List.mem_flatMap.mp h
  exact Selector.mem_positions_lt hi

/-- The leaves of what a selection picks are those of the values at its positions. -/
theorem leaves_resolve (selection : Selection) (items : List Value) :
    (selection.resolve items).leaves =
      (selection.positions items.length).flatMap fun i => (items[i]?.getD .null).leaves := by
  have parts : (fun selector => (Selector.picks items selector).flatMap Value.leaves) =
      fun selector => (Selector.positions items.length selector).flatMap fun i =>
        (items[i]?.getD .null).leaves := by
    funext selector
    rw [← Value.leavesOf_eq_flatMap]
    exact selector.leavesOf_picks items
  rw [resolve, Value.leaves_sequester, positions, Value.leavesOf_eq_flatMap, List.flatMap_assoc,
    List.flatMap_assoc, parts]

end Selection

theorem Path.mem_childPositions_lt {selection : Option Selection} {length i : Nat}
    (h : i ∈ childPositions selection length) : i < length := by
  cases selection with
  | none => exact List.mem_range.mp h
  | some selection => exact Selection.mem_positions_lt h

end TreeTable
