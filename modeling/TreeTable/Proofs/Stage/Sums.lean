import Mathlib.Algebra.BigOperators.Group.List.Basic
import Mathlib.Algebra.Ring.Int.Defs
import TreeTable.Proofs.Numeric.IntegerText
import TreeTable.Proofs.Numeric.WholeDecimals
import TreeTable.Stage.Basic

/-! # Sums of integers

The sum of a list without floats and texts is the exact one: an integer when it fits in 64 bits, and
the double next to it otherwise. Sums on the way to it may leave the 64 bits and come back; only
when one of them leaves 96 bits the result is a double that need not be the next one. In no case is
it an integer other than the sum.
-/

namespace TreeTable

open Numeric

namespace Value

/-- The integer that a value counts as in sums, unless it is a float or a text. -/
def addend : Value → Int
  | int n => n.toInt
  | _ => 0

/-- Whether a value counts as an integer in sums. -/
def isAddend : Value → Bool
  | float _ => false
  | string _ => false
  | _ => true

/-- The exact sum of a start and of values that count as integers. -/
def addAll (start : Int) (items : List Value) : Int := start + (items.map addend).sum

/-- Every sum on the way from a start through the values takes at most 96 bits. -/
def SumsInRange (start : Int) (items : List Value) : Prop :=
  ∀ part, part <+: items → (addAll start part).natAbs < twoPow 96

variable {start : Int} {item : Value} {items : List Value}

theorem addAll_nil (start : Int) : addAll start [] = start := Int.add_zero start

theorem addAll_cons (start : Int) (item : Value) (rest : List Value) :
    addAll start (item :: rest) = addAll (start + item.addend) rest := by
  rw [addAll, addAll, List.map_cons, List.sum_cons, Int.add_assoc]

theorem addAll_perm {others : List Value} (h : others.Perm items) (start : Int) :
    addAll start others = addAll start items := by
  rw [addAll, addAll, (h.map addend).sum_eq]

theorem whole_toTotal (h : item.isAddend = true) : item.toTotal.Whole item.addend := by
  cases item with
  | int n => exact Decimal.whole_ofInt64 n
  | float x => cases h
  | string s => cases h
  | _ => exact Total.whole_zero

theorem natAbs_addend_le (item : Value) : item.addend.natAbs ≤ twoPow 63 := by
  cases item with
  | int n =>
      have bound : twoPow 63 = 9223372036854775808 := rfl
      have lower := n.le_toInt
      have upper := n.toInt_lt
      rw [addend, bound]
      omega
  | _ => exact Nat.zero_le _

theorem natAbs_addAll_le (start : Int) (items : List Value) :
    (addAll start items).natAbs ≤ start.natAbs + items.length * twoPow 63 := by
  induction items generalizing start with
  | nil =>
      rw [addAll_nil]
      exact Nat.le_add_right _ _
  | cons item rest ih =>
      have first := Int.natAbs_add_le start item.addend
      have bound := natAbs_addend_le item
      have others := ih (start + item.addend)
      rw [addAll_cons, List.length_cons, Nat.succ_mul]
      omega

/-- Lists of fewer than 2 ^ 33 elements never get out of range. -/
theorem sumsInRange_of_length
    (h : start.natAbs + items.length * twoPow 63 < twoPow 96) : SumsInRange start items := by
  intro part hpart
  have fewer := Nat.mul_le_mul_right (twoPow 63) hpart.length_le
  have bound := natAbs_addAll_le start part
  omega

theorem sumsInRange_nil (h : start.natAbs < twoPow 96) : SumsInRange start [] := by
  intro part hpart
  rwa [List.prefix_nil.mp hpart, addAll_nil]

theorem sumsInRange_cons {rest : List Value} : SumsInRange start (item :: rest) ↔
    start.natAbs < twoPow 96 ∧ SumsInRange (start + item.addend) rest := by
  constructor
  · intro h
    refine ⟨by simpa [addAll_nil] using h [] List.nil_prefix, ?_⟩
    intro part hpart
    rw [← addAll_cons]
    exact h (item :: part) (List.cons_prefix_cons.mpr ⟨rfl, hpart⟩)
  · rintro ⟨first, others⟩ part hpart
    rcases List.prefix_cons_iff.mp hpart with rfl | ⟨inner, rfl, hinner⟩
    · rwa [addAll_nil]
    · rw [addAll_cons]
      exact others inner hinner

/-- A running total of integers is exact while it is in range. -/
theorem whole_sum {total : Total} (begins : total.Whole start)
    (whole : ∀ item ∈ items, item.isAddend = true) (inRange : SumsInRange start items) :
    (total.sum (items.map toTotal)).Whole (addAll start items) := by
  induction items generalizing total start with
  | nil => rwa [addAll_nil]
  | cons item rest ih =>
      rw [List.forall_mem_cons] at whole
      rw [sumsInRange_cons] at inRange
      have fits : (start + item.addend).natAbs < twoPow 96 := by
        simpa [addAll_nil] using inRange.2 [] List.nil_prefix
      rw [List.map_cons, Total.sum_cons, addAll_cons]
      apply ih _ whole.2 inRange.2
      exact begins.add (whole_toTotal whole.1) fits

/-- A running total that gets out of range is a double from then on. -/
theorem sum_eq_approximate {total : Total} (begins : total.Whole start)
    (whole : ∀ item ∈ items, item.isAddend = true) (beyond : ¬ SumsInRange start items) :
    ∃ x, total.sum (items.map toTotal) = .approximate x := by
  induction items generalizing total start with
  | nil => exact absurd (sumsInRange_nil begins.natAbs_lt) beyond
  | cons item rest ih =>
      rw [List.forall_mem_cons] at whole
      rw [List.map_cons, Total.sum_cons]
      have term := whole_toTotal whole.1
      by_cases fits : (start + item.addend).natAbs < twoPow 96
      · apply ih (begins.add term fits) whole.2
        intro inRange
        exact beyond (sumsInRange_cons.mpr ⟨begins.natAbs_lt, inRange⟩)
      · obtain ⟨x, hx⟩ := begins.add_eq_approximate term fits
        rw [hx]
        exact Total.sum_approximate x _

end Value

namespace Stage

variable {total : Total} {i : Int}

theorem totalValue_of_whole (h : total.Whole i) {n : Int64} (fits : n.toInt = i) :
    totalValue total = .int n := by
  rw [totalValue, h.toInt64?, ← fits, int64OfInt?_toInt]

theorem totalValue_of_not_fits (h : total.Whole i) (wide : ∀ n : Int64, n.toInt ≠ i) :
    totalValue total = .float (Binary64.ofInt i) := by
  have none : int64OfInt? i = none := by
    rw [Option.eq_none_iff_forall_ne_some]
    intro n hn
    exact wide n (toInt_of_int64OfInt? hn)
  rw [totalValue, h.toInt64?, none, h.toBinary64]

/-- The sum of a list without floats and texts, from an integer on, is the exact sum whenever that
fits in 64 bits and the sums on the way to it take at most 96 bits, and the double next to it when
it does not fit. So the order of the elements makes no difference, provided the sums on the way stay
in range in both orders, as they do in every order of a list that is not too long for it. Where they
do not the result is a double; so it is never another integer than the sum. -/
theorem sum_exact {begin : Total} {start : Int} (begins : begin.Whole start) {items : List Value}
    (whole : ∀ item ∈ items, item.isAddend = true) :
    (Value.SumsInRange start items →
      (∀ n : Int64, n.toInt = Value.addAll start items →
        (sum begin).apply (.list items) = .int n) ∧
      ((∀ n : Int64, n.toInt ≠ Value.addAll start items) →
        (sum begin).apply (.list items) = .float (Binary64.ofInt (Value.addAll start items))) ∧
      ∀ others, others.Perm items → Value.SumsInRange start others →
        (sum begin).apply (.list others) = (sum begin).apply (.list items)) ∧
    (start.natAbs + items.length * twoPow 63 < twoPow 96 →
      ∀ others, others.Perm items → Value.SumsInRange start others) ∧
    (¬ Value.SumsInRange start items → ∃ x, (sum begin).apply (.list items) = .float x) := by
  have applied (items : List Value) : (sum begin).apply (.list items) =
      totalValue (begin.sum (items.map Value.toTotal)) := rfl
  refine ⟨?_, ?_, ?_⟩
  · intro inRange
    have exact := Value.whole_sum begins whole inRange
    refine ⟨fun n fits => totalValue_of_whole exact fits, totalValue_of_not_fits exact, ?_⟩
    intro others same othersInRange
    have othersExact := Value.whole_sum begins
      (fun item hitem => whole item (same.subset hitem)) othersInRange
    rw [Value.addAll_perm same] at othersExact
    rw [applied, applied]
    by_cases fits : ∃ n : Int64, n.toInt = Value.addAll start items
    · obtain ⟨n, fits⟩ := fits
      rw [totalValue_of_whole exact fits, totalValue_of_whole othersExact fits]
    · rw [not_exists] at fits
      rw [totalValue_of_not_fits exact fits, totalValue_of_not_fits othersExact fits]
  · intro short others same
    apply Value.sumsInRange_of_length
    rwa [same.length_eq]
  · intro beyond
    obtain ⟨x, hx⟩ := Value.sum_eq_approximate begins whole beyond
    exact ⟨x, by rw [applied, hx]; rfl⟩

theorem sum_exact_returning :
    let top : Value := .int Int64.maxValue
    let bottom : Value := .int Int64.minValue
    let items : List Value := [top, .null, top, .list [.int 5], bottom, .bool true, bottom, .int 3]
    let wide : List Value := [.int 1, top]
    Total.zero.Whole 0 ∧ (∀ item ∈ items, item.isAddend = true) ∧
      Value.SumsInRange 0 items ∧ Value.addAll 0 items = 1 ∧
      (sum .zero).apply (.list items) = .int 1 ∧
      (sum .zero).apply (.list items.reverse) = .int 1 ∧
      (∀ item ∈ wide, item.isAddend = true) ∧ Value.SumsInRange 0 wide ∧
      (sum .zero).apply (.list wide) = .float (Binary64.ofInt (twoPow 63)) := by
  intro top bottom items wide
  have whole : ∀ item ∈ items, item.isAddend = true := by
    simp [items, top, bottom, Value.isAddend]
  have wideWhole : ∀ item ∈ wide, item.isAddend = true := by simp [wide, top, Value.isAddend]
  have total : Value.addAll 0 items = 1 := by decide +kernel
  have wideTotal : Value.addAll 0 wide = twoPow 63 := by decide +kernel
  have tooWide (n : Int64) : n.toInt ≠ Value.addAll 0 wide := by
    rw [wideTotal]
    exact Int.ne_of_lt n.toInt_lt
  obtain ⟨inOrder, short, -⟩ := sum_exact Total.whole_zero whole
  obtain ⟨wideInOrder, wideShort, -⟩ := sum_exact Total.whole_zero wideWhole
  have allInRange := short (by decide +kernel)
  have inRange := allInRange items (.refl items)
  have wideInRange := wideShort (by decide +kernel) wide (.refl wide)
  obtain ⟨exact, -, anyOrder⟩ := inOrder inRange
  have result := exact 1 total.symm
  have reversed := anyOrder items.reverse items.reverse_perm
    (allInRange items.reverse items.reverse_perm)
  have wideResult := (wideInOrder wideInRange).2.1 tooWide
  rw [wideTotal] at wideResult
  exact ⟨Total.whole_zero, whole, inRange, total, result, reversed.trans result, wideWhole,
    wideInRange, wideResult⟩

end Stage

end TreeTable
