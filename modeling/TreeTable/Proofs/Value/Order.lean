import TreeTable.Proofs.Numeric.RoundedIntegers
import TreeTable.Proofs.Value.Equality
import TreeTable.Stage.Basic

/-! # The order of sorting

Sorting compares integers with one another as they are, and an integer with a float after it has
been rounded to a double. Rounding keeps the order of integers, so the comparison is an order up to
ties, except where a float ties with two different integers because both are rounded to it: it then
stands behind the greater one and before the lesser one.
-/

namespace TreeTable

open Numeric

namespace Value

/-- A float at which integers change places: the first integer is greater than the last, and both
are rounded to the float between them. -/
def Inverted (a b c : Value) : Prop :=
  ∃ (m n : Int64) (x : Binary64), a = int m ∧ b = float x ∧ c = int n ∧ n.toInt < m.toInt ∧
    (Binary64.ofInt m.toInt).eq x = true ∧ (Binary64.ofInt n.toInt).eq x = true

/-- The double as which a number is compared with floats. -/
def rounded? : Value → Option Binary64
  | int n => some (Binary64.ofInt n.toInt)
  | float x => some x
  | _ => none

section Floats

variable {x y : Binary64}

theorem compareFloats_of_numbers (hx : x.isNaN = false) (hy : y.isNaN = false) :
    compareFloats x y = Ord.compare x.orderKey y.orderKey := by
  simp [compareFloats, Binary64.compare?, hx, hy]

theorem compareFloats_of_nan (h : x.isNaN = true ∨ y.isNaN = true) :
    compareFloats x y = .eq := by
  have some : (x.isNaN || y.isNaN) = true := by simpa using h
  rw [compareFloats, Binary64.compare?, if_pos some, Option.getD_none]

theorem compareFloats_swap (x y : Binary64) :
    compareFloats y x = (compareFloats x y).swap := by
  by_cases h : x.isNaN = true ∨ y.isNaN = true
  · rw [compareFloats_of_nan h, compareFloats_of_nan h.symm]
    rfl
  · simp only [not_or, Bool.not_eq_true] at h
    rw [compareFloats_of_numbers h.1 h.2, compareFloats_of_numbers h.2 h.1]
    exact Std.OrientedOrd.eq_swap

theorem orderKey_le_of_isLE (hx : x.isNaN = false) (hy : y.isNaN = false)
    (h : (compareFloats x y).isLE = true) : x.orderKey ≤ y.orderKey := by
  rw [compareFloats_of_numbers hx hy] at h
  exact Int.isLE_compare.mp h

theorem isLE_of_orderKey_le (h : x.orderKey ≤ y.orderKey) :
    (compareFloats x y).isLE = true := by
  by_cases nan : x.isNaN = true ∨ y.isNaN = true
  · rw [compareFloats_of_nan nan]
    rfl
  · simp only [not_or, Bool.not_eq_true] at nan
    rw [compareFloats_of_numbers nan.1 nan.2]
    exact Int.isLE_compare.mpr h

theorem compareFloats_of_eq (h : x.eq y = true) : compareFloats x y = .eq := by
  simp only [Binary64.eq, Bool.and_eq_true, Bool.not_eq_true', decide_eq_true_iff] at h
  rw [compareFloats_of_numbers h.1.1 h.1.2, h.2]
  exact Std.ReflOrd.compare_self

end Floats

/-- Changing the sides reverses the order. -/
theorem compare_swap (a b : Value) : b.compare a = (a.compare b).swap := by
  cases a with
  | null | list _ | object _ => cases b <;> rfl
  | bool p =>
      cases b with
      | bool q => exact Std.OrientedOrd.eq_swap
      | _ => rfl
  | string s =>
      cases b with
      | string t => exact Std.OrientedOrd.eq_swap
      | _ => rfl
  | int m =>
      cases b with
      | int n => exact Std.OrientedOrd.eq_swap
      | float y => exact compareFloats_swap _ y
      | _ => rfl
  | float x =>
      cases b with
      | int n => exact compareFloats_swap x _
      | float y => exact compareFloats_swap x y
      | _ => rfl

section Ranks

variable {a b : Value}

theorem compare_of_rank_lt (h : a.rank < b.rank) : a.compare b = .lt := by
  have ranks : Ord.compare a.rank b.rank = .lt := Nat.compare_eq_lt.mpr h
  cases a <;> cases b <;> simp_all [rank, compare]

theorem rank_le_of_isLE (h : (a.compare b).isLE = true) : a.rank ≤ b.rank := by
  by_contra behind
  rw [compare_swap b a, compare_of_rank_lt (Nat.lt_of_not_le behind)] at h
  cases h

theorem exists_rounded_of_rank (h : a.rank = 2) : ∃ x, a.rounded? = some x := by
  cases a with
  | int n => exact ⟨_, rfl⟩
  | float x => exact ⟨x, rfl⟩
  | _ => cases h

end Ranks

section Numbers

variable {a b c : Value} {x y z : Binary64}

/-- Numbers are compared as doubles, but for two integers. -/
theorem compare_rounded (ha : a.rounded? = some x) (hb : b.rounded? = some y)
    (mixed : ¬ ∃ m n, a = int m ∧ b = int n) : a.compare b = compareFloats x y := by
  cases a with
  | int m =>
      cases ha
      cases b with
      | int n => exact absurd ⟨m, n, rfl, rfl⟩ mixed
      | float y =>
          cases hb
          rfl
      | _ => cases hb
  | float x =>
      cases ha
      cases b with
      | int n =>
          cases hb
          rfl
      | float y =>
          cases hb
          rfl
      | _ => cases hb
  | _ => cases ha

/-- Numbers in order are at doubles in order, two integers because rounding keeps their order. -/
theorem orderKey_le_of_compare (ha : a.rounded? = some x) (hb : b.rounded? = some y)
    (hx : x.isNaN = false) (hy : y.isNaN = false) (h : (a.compare b).isLE = true) :
    x.orderKey ≤ y.orderKey := by
  by_cases integers : ∃ m n, a = int m ∧ b = int n
  · obtain ⟨m, n, rfl, rfl⟩ := integers
    cases ha
    cases hb
    exact Binary64.orderKey_ofInt_mono (Int.isLE_compare.mp h)
  · rw [compare_rounded ha hb integers] at h
    exact orderKey_le_of_isLE hx hy h

theorem inverted_of_lt {m n : Int64} (hx : x.isNaN = false) (greater : n.toInt < m.toInt)
    (hab : ((int m).compare (float x)).isLE = true)
    (hbc : ((float x).compare (int n)).isLE = true) : Inverted (int m) (float x) (int n) := by
  have first := orderKey_le_of_compare rfl rfl (Binary64.isNaN_ofInt m.toInt) hx hab
  have last := orderKey_le_of_compare rfl rfl hx (Binary64.isNaN_ofInt n.toInt) hbc
  have rounded := Binary64.orderKey_ofInt_mono (Int.le_of_lt greater)
  refine ⟨m, n, x, rfl, rfl, rfl, greater, ?_, ?_⟩
  · have same : (Binary64.ofInt m.toInt).orderKey = x.orderKey := by omega
    simp [Binary64.eq, Binary64.isNaN_ofInt, hx, same]
  · have same : (Binary64.ofInt n.toInt).orderKey = x.orderKey := by omega
    simp [Binary64.eq, Binary64.isNaN_ofInt, hx, same]

/-- The order of numbers carries over from one to another, but for inverted integers. -/
theorem isLE_trans_numbers (ha : a.rounded? = some x) (hb : b.rounded? = some y)
    (hc : c.rounded? = some z) (hy : y.isNaN = false) (hab : (a.compare b).isLE = true)
    (hbc : (b.compare c).isLE = true) (straight : ¬ Inverted a b c) :
    (a.compare c).isLE = true := by
  by_cases integers : ∃ m n, a = int m ∧ c = int n
  · obtain ⟨m, n, rfl, rfl⟩ := integers
    cases b with
    | int k => exact Std.TransOrd.isLE_trans hab hbc
    | float x =>
        cases hb
        apply Int.isLE_compare.mpr
        by_contra greater
        exact straight (inverted_of_lt hy (Int.lt_of_not_ge greater) hab hbc)
    | _ => cases hb
  · rw [compare_rounded ha hc integers]
    -- What is not a number ties with everything, so it cannot break the order at either end.
    by_cases nan : x.isNaN = true ∨ z.isNaN = true
    · rw [compareFloats_of_nan nan]
      rfl
    · simp only [not_or, Bool.not_eq_true] at nan
      have first := orderKey_le_of_compare ha hb nan.1 hy hab
      have last := orderKey_le_of_compare hb hc hy nan.2 hbc
      exact isLE_of_orderKey_le (Int.le_trans first last)

theorem not_isNaN_of_nanFree (free : b.nanFree = true) (hb : b.rounded? = some y) :
    y.isNaN = false := by
  cases b with
  | int n =>
      cases hb
      exact Binary64.isNaN_ofInt n.toInt
  | float y =>
      cases hb
      simpa [nanFree, allFloats] using free
  | _ => cases hb

end Numbers

variable {a b c : Value}

/-- The order carries over from one document to another, but for inverted integers and what is not
a number. -/
theorem isLE_trans_of_number (number : ∀ y, b.rounded? = some y → y.isNaN = false)
    (hab : (a.compare b).isLE = true) (hbc : (b.compare c).isLE = true)
    (straight : ¬ Inverted a b c) : (a.compare c).isLE = true := by
  have first := rank_le_of_isLE hab
  have last := rank_le_of_isLE hbc
  rcases Nat.lt_or_eq_of_le (Nat.le_trans first last) with apart | alike
  · rw [compare_of_rank_lt apart]
    rfl
  -- All three are of one kind now, numbers counting as one.
  have between : b.rank = a.rank := by omega
  by_cases numbers : a.rank = 2
  · obtain ⟨x, hx⟩ := exists_rounded_of_rank numbers
    obtain ⟨y, hy⟩ := exists_rounded_of_rank (between.trans numbers)
    obtain ⟨z, hz⟩ := exists_rounded_of_rank (alike.symm.trans numbers)
    exact isLE_trans_numbers hx hy hz (number y hy) hab hbc straight
  · cases a with
    | int _ | float _ => exact absurd rfl numbers
    | null =>
        cases c with
        | null => rfl
        | _ => cases alike
    | list as =>
        cases c with
        | list cs => rfl
        | _ => cases alike
    | object as =>
        cases c with
        | object cs => rfl
        | _ => cases alike
    | bool p =>
        cases b with
        | bool q =>
            cases c with
            | bool r => exact Std.TransOrd.isLE_trans hab hbc
            | _ => cases alike
        | _ => cases between
    | string s =>
        cases b with
        | string t =>
            cases c with
            | string u => exact Std.TransOrd.isLE_trans hab hbc
            | _ => cases alike
        | _ => cases between

theorem isLE_trans_of_not_inverted (free : b.nanFree = true) (hab : (a.compare b).isLE = true)
    (hbc : (b.compare c).isLE = true) (straight : ¬ Inverted a b c) :
    (a.compare c).isLE = true :=
  isLE_trans_of_number (fun _ => not_isNaN_of_nanFree free) hab hbc straight

/-- Inverted integers tie with the float between them, and the first one stands behind the last. -/
theorem compare_of_inverted (h : Inverted a b c) :
    a.compare b = .eq ∧ b.compare c = .eq ∧ a.compare c = .gt := by
  obtain ⟨m, n, x, rfl, rfl, rfl, greater, hm, hn⟩ := h
  refine ⟨compareFloats_of_eq hm, ?_, Int.compare_eq_gt.mpr greater⟩
  rw [Binary64.eq_comm] at hn
  exact compareFloats_of_eq hn

/-- Of two integers that are rounded to one double, one is held by no double. -/
theorem not_integersHeld_of_inverted (h : Inverted a b c) :
    ¬ (a.IntegersHeld ∧ c.IntegersHeld) := by
  obtain ⟨m, n, x, rfl, rfl, rfl, greater, hm, hn⟩ := h
  have differ : m ≠ n := by
    rintro rfl
    exact Int.lt_irrefl _ greater
  exact not_integersHeld_of_clash ⟨[], m, n, x, rfl, rfl, rfl, differ⟩ hm hn

/-- Changing the sides reverses the order of any two documents. Where no NaN stands in the middle,
the order carries over from one document to another exactly if these are not two integers inverted
at a float: such integers tie with the float, the first stands behind the last, and there is no
double for one of them. -/
theorem compare_isLE_trans_iff (a b c : Value) :
    b.compare a = (a.compare b).swap ∧
      (b.nanFree = true → (a.compare b).isLE = true → (b.compare c).isLE = true →
        ((a.compare c).isLE = true ↔ ¬ Inverted a b c)) ∧
      (Inverted a b c → a.compare b = .eq ∧ b.compare c = .eq ∧ a.compare c = .gt ∧
        ¬ (a.IntegersHeld ∧ c.IntegersHeld)) := by
  refine ⟨compare_swap a b, ?_, ?_⟩
  · intro free hab hbc
    constructor
    · intro hac inverted
      rw [(compare_of_inverted inverted).2.2] at hac
      cases hac
    · exact isLE_trans_of_not_inverted free hab hbc
  · intro inverted
    obtain ⟨first, last, ends⟩ := compare_of_inverted inverted
    exact ⟨first, last, ends, not_integersHeld_of_inverted inverted⟩

theorem compare_isLE_trans_iff_neighbours :
    let high := int 9007199254740993
    let x := float (Binary64.ofNat (twoPow 53))
    let low := int 9007199254740992
    x.nanFree = true ∧ (high.compare x).isLE = true ∧ (x.compare low).isLE = true ∧
      Inverted high x low ∧ ((high.compare low).isLE = true ↔ ¬ Inverted high x low) ∧
      high.compare low = .gt ∧ ¬ (high.IntegersHeld ∧ low.IntegersHeld) := by
  intro high x low
  have free : x.nanFree = true := by decide +kernel
  have first : (high.compare x).isLE = true := by decide +kernel
  have last : (x.compare low).isLE = true := by decide +kernel
  have inverted : Inverted high x low := by
    refine ⟨9007199254740993, 9007199254740992, Binary64.ofNat (twoPow 53), rfl, rfl, rfl, ?_⟩
    decide +kernel
  obtain ⟨-, carries, ties⟩ := compare_isLE_trans_iff high x low
  obtain ⟨-, -, behind, unheld⟩ := ties inverted
  exact ⟨free, first, last, inverted, carries free first last, behind, unheld⟩

/-- The integer one above `2 ^ 53` ties with the float `2 ^ 53`, and so does the integer `2 ^ 53`,
but the first integer is greater than the second. So how the three are sorted depends on the order
in which they come. -/
theorem compare_isLE_trans_ne :
    let a := int 9007199254740993
    let b := float (Binary64.ofNat (twoPow 53))
    let c := int 9007199254740992
    let sort := (Stage.sort false).apply
    a.nanFree = true ∧ b.nanFree = true ∧ c.nanFree = true ∧ (a.compare b).isLE = true ∧
      (b.compare c).isLE = true ∧ (a.compare c).isLE = false ∧
      sort (list [a, b, c]) = list [a, b, c] ∧ sort (list [b, c, a]) = list [b, c, a] ∧
      sort (list [a, c, b]) = list [c, a, b] := by
  decide +kernel

end Value

end TreeTable
