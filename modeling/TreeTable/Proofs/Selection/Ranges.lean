import Mathlib.Data.List.Basic
import TreeTable.Proofs.Selection.Positions

/-! # What ranges select

A range means the positions between its bounds, a negative bound being counted from the end of
the list. Each bound is brought into the list on its own, and only then is the last position
taken in. So a bound before the list is no longer told from the first position: a range that
ends before the list, its last position included, selects the first element all the same, unless
it begins behind it.
-/

namespace TreeTable

namespace Selector

/-- Whether a range includes a last position that lies before the list, and begins at the first
position or before it. -/
def EndsBefore (length : Nat) : Selector → Prop
  | range first last true => offset length first ≤ 0 ∧ offset length last < 0
  | _ => False

variable {length : Nat}

/-- Bringing a bound into the list keeps which positions of the list lie behind it. -/
theorem clamp_le_iff {i : Nat} (inside : i < length) (n : Int64) :
    clamp length n ≤ i ↔ offset length n ≤ i := by
  simp only [clamp, Nat.min_def]
  split <;> omega

/-- Taking in the last position of a range happens within the list, so that a bound before the
list counts as the first position. -/
theorem lt_clamp_succ_iff {i : Nat} (inside : i < length) (n : Int64) :
    i < clamp length n + 1 ↔ i ≤ offset length n ∨ (i = 0 ∧ offset length n < 0) := by
  simp only [clamp, Nat.min_def]
  split <;> omega

theorem lt_min_iff_of_lt {i : Nat} (inside : i < length) (past : Nat) :
    i < Nat.min past length ↔ i < past := by
  simp only [Nat.min_def]
  split <;> omega

/-- A range selects the positions from its first bound up to where it is past. -/
theorem mem_positions_iff_bounds {selector : Selector} (isRange : ∀ n, selector ≠ position n)
    (i : Nat) : i ∈ selector.positions length ↔
      (selector.bounds length).1 ≤ i ∧ i < (selector.bounds length).2 := by
  have part (first past : Nat) :
      i ∈ List.range' first (past - first) ↔ first ≤ i ∧ i < past := by
    rw [List.mem_range'_1]
    omega
  cases selector with
  | position n => exact absurd rfl (isRange n)
  | range first last inclusive => exact part _ _
  | onward first => exact part _ _

theorem pairwise_positions {selector : Selector} (isRange : ∀ n, selector ≠ position n) :
    (selector.positions length).Pairwise (· < ·) := by
  cases selector with
  | position n => exact absurd rfl (isRange n)
  | range first last inclusive => exact List.pairwise_lt_range'
  | onward first => exact List.pairwise_lt_range'

/-- A range selects a position when it lies between the bounds; and it selects the first one when
it ends before the list. -/
theorem mem_positions_iff {selector : Selector} (isRange : ∀ n, selector ≠ position n) (i : Nat) :
    i ∈ selector.positions length ↔
      selector.Selects length i ∨ (i = 0 ∧ 0 < length ∧ selector.EndsBefore length) := by
  rw [mem_positions_iff_bounds isRange]
  -- Within the list the bounds may be compared before they are brought into it.
  by_cases inside : i < length
  · cases selector with
    | position n => exact absurd rfl (isRange n)
    | onward first => simp [bounds, Selects, EndsBefore, inside, clamp_le_iff inside]
    | range first last inclusive =>
        rw [bounds, clamp_le_iff inside first, lt_min_iff_of_lt inside]
        cases inclusive with
        | false =>
            have behind : clamp length last ≤ i ↔ offset length last ≤ i := clamp_le_iff inside last
            simp only [Selects, EndsBefore, Bool.false_eq_true, if_false, inside, true_and,
              and_false, or_false]
            omega
        | true =>
            have upTo := lt_clamp_succ_iff inside last
            simp only [Selects, EndsBefore, if_true, inside, true_and]
            omega
  · have beyond : ¬ i < (selector.bounds length).2 := by
      have bound := bounds_le length selector
      omega
    have unmeant : ¬ selector.Selects length i := by
      intro h
      cases selector with
      | position n => exact inside h.1
      | onward first => exact inside h.1
      | range first last inclusive => cases inclusive <;> exact inside h.1
    constructor
    · rintro ⟨-, h⟩
      exact absurd h beyond
    · rintro (h | ⟨rfl, h, -⟩)
      · exact absurd h unmeant
      · exact absurd h inside

end Selector

namespace Selection

/-- What stands at positions of a list. -/
theorem map_getD_eq_filterMap (items : List Value) {chosen : List Nat}
    (inside : ∀ i ∈ chosen, i < items.length) :
    (chosen.map fun i => items[i]?.getD .null) = chosen.filterMap (items[·]?) := by
  symm
  rw [List.filterMap_eq_map_iff_forall_eq_some]
  intro i hi
  rw [List.getElem?_eq_getElem (inside i hi), Option.getD_some]

/-- A range in a selection picks in ascending order what stands at the positions between its
bounds, and of these positions it gives the addresses; all but a range that ends before the list,
its last position included, and does not begin behind the first position: that one selects the
first position, if there is one, although none lies between its bounds. -/
theorem resolve_range (items : List Value) {selector : Selector}
    (isRange : ∀ n, selector ≠ .position n) :
    ∃ chosen : List Nat, chosen.Pairwise (· < ·) ∧
      (∀ i, i ∈ chosen ↔ selector.Selects items.length i ∨
        (i = 0 ∧ 0 < items.length ∧ selector.EndsBefore items.length)) ∧
      ∀ before after : Selection,
        resolve (before ++ selector :: after) items =
          .sequester (before.flatMap (Selector.picks items) ++
            (chosen.filterMap (items[·]?) ++ after.flatMap (Selector.picks items))) ∧
        positions (before ++ selector :: after) items.length =
          positions before items.length ++ (chosen ++ positions after items.length) := by
  have inside : ∀ i ∈ selector.positions items.length, i < items.length := by
    intro i hi
    have bound := Selector.bounds_le items.length selector
    have within := (Selector.mem_positions_iff_bounds isRange i).mp hi
    omega
  refine ⟨selector.positions items.length, Selector.pairwise_positions isRange,
    Selector.mem_positions_iff isRange, ?_⟩
  intro before after
  constructor
  · rw [resolve, List.flatMap_append, List.flatMap_cons, Selector.picks_eq_map_positions isRange,
      map_getD_eq_filterMap items inside]
  · rw [positions, List.flatMap_append, List.flatMap_cons]
    rfl

theorem resolve_range_backward :
    let items : List Value := [.int 10, .int 20, .int 30, .int 40]
    let selector : Selector := .range (-3) 7 true
    (∀ n, selector ≠ .position n) ∧
      (∀ i, i ∈ [1, 2, 3] ↔
        selector.Selects 4 i ∨ (i = 0 ∧ 0 < 4 ∧ selector.EndsBefore 4)) ∧
      resolve [.position 9, selector] items = .list [.null, .int 20, .int 30, .int 40] := by
  intro items selector
  have isRange : ∀ n, selector ≠ .position n := nofun
  obtain ⟨chosen, -, meant, picked⟩ := resolve_range items isRange
  have alone : positions [selector] 4 = [] ++ (chosen ++ []) := (picked [] []).2
  have placed : [1, 2, 3] = chosen := by
    rw [List.nil_append, List.append_nil] at alone
    rw [← alone]
    decide
  refine ⟨isRange, ?_, ?_⟩
  · rw [placed]
    exact meant
  · have behind := (picked [.position 9] []).1
    rw [← placed] at behind
    exact behind

/-- No position lies between the bounds of a range that ends before the list, yet the first
element is selected. The same range without its last position selects nothing. -/
theorem resolve_range_before_ne :
    let items : List Value := [.int 10, .int 20, .int 30]
    let selector : Selector := .range (-9) (-5) true
    (∀ i, ¬ selector.Selects 3 i) ∧ positions [selector] 3 = [0] ∧
      resolve [selector] items = .int 10 ∧ positions [.range (-9) (-5) false] 3 = [] := by
  intro items selector
  refine ⟨?_, by decide, by decide, by decide⟩
  intro i h
  have upTo : (i : Int) ≤ -2 := h.2.2
  omega

end Selection

end TreeTable
