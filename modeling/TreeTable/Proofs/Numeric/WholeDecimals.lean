import TreeTable.Numeric.Total

/-! # Decimals that stand for integers

A decimal without digits after the point stands for an integer. The sum of two of them is one that
stands for the sum of the integers, and there is none exactly when that takes more than 96 bits. So
a running total of integers is exact until it leaves that range, and a double from then on.
-/

namespace TreeTable.Numeric

namespace Decimal

/-- A decimal stands for an integer and has no digits after the point. -/
structure Whole (d : Decimal) (i : Int) : Prop where
  scale : d.scale = 0
  value : (if d.negative then -(d.mantissa : Int) else d.mantissa) = i

variable {x y : Decimal} {i j : Int}

theorem Whole.natAbs_eq (h : x.Whole i) : i.natAbs = x.mantissa := by
  rw [← h.value]
  split <;> omega

theorem Whole.natAbs_lt (h : x.Whole i) : i.natAbs < twoPow 96 := by
  rw [h.natAbs_eq]
  exact x.mantissa_lt

theorem whole_ofInt64 (n : Int64) : (ofInt64 n).Whole n.toInt where
  scale := rfl
  value := by
    simp only [ofInt64, decide_eq_true_eq]
    split <;> omega

theorem whole_zero : zero.Whole 0 := ⟨rfl, rfl⟩

theorem Whole.signed (h : x.Whole i) : x.signed 0 = i := by
  rw [Decimal.signed, h.scale, tenPow_zero, Nat.mul_one]
  exact h.value

/-- Without digits after the point there are none to round off. -/
theorem fit?_zero (negative : Bool) (mantissa : Nat) :
    fit? negative mantissa 0 = ofParts? negative mantissa 0 := by
  have exact : roundHalfEven mantissa (tenPow 0) = mantissa :=
    roundHalfEven_of_eq_mul (tenPow_pos 0) (Nat.mul_one mantissa).symm
  rw [fit?, fit?.go, exact]
  cases ofParts? negative mantissa 0 <;> rfl

theorem Whole.add?_eq (hx : x.Whole i) (hy : y.Whole j) (hi : i ≠ 0) (hj : j ≠ 0) :
    x.add? y = ofParts? (decide (i + j < 0)) (i + j).natAbs 0 := by
  have first : x.mantissa ≠ 0 := by
    rw [← hx.natAbs_eq]
    exact Int.natAbs_ne_zero.mpr hi
  have second : y.mantissa ≠ 0 := by
    rw [← hy.natAbs_eq]
    exact Int.natAbs_ne_zero.mpr hj
  have common : max x.scale y.scale = 0 := by rw [hx.scale, hy.scale, Nat.max_self]
  simp only [add?, if_neg first, if_neg second, common, hx.signed, hy.signed, fit?_zero]

/-- A sum of integers within 96 bits is exact. -/
theorem Whole.add? (hx : x.Whole i) (hy : y.Whole j) (fits : (i + j).natAbs < twoPow 96) :
    ∃ sum, x.add? y = some sum ∧ sum.Whole (i + j) := by
  by_cases hi : i = 0
  · have nothing : x.mantissa = 0 := by rw [← hx.natAbs_eq, hi, Int.natAbs_zero]
    exact ⟨y, add?_of_mantissa_eq_zero y nothing, by rwa [hi, Int.zero_add]⟩
  · by_cases hj : j = 0
    · have something : x.mantissa ≠ 0 := by
        rw [← hx.natAbs_eq]
        exact Int.natAbs_ne_zero.mpr hi
      have nothing : y.mantissa = 0 := by rw [← hy.natAbs_eq, hj, Int.natAbs_zero]
      exact ⟨x, by rw [Decimal.add?, if_neg something, if_pos nothing], by rwa [hj, Int.add_zero]⟩
    · have inRange : (i + j).natAbs < twoPow 96 ∧ 0 ≤ 28 := ⟨fits, Nat.zero_le 28⟩
      refine ⟨⟨decide (i + j < 0), (i + j).natAbs, 0, inRange.1, inRange.2⟩, ?_, rfl, ?_⟩
      · rw [hx.add?_eq hy hi hj, ofParts?, dif_pos inRange]
      · simp only [decide_eq_true_eq]
        split <;> omega

/-- A sum of integers beyond 96 bits is none of the decimals. -/
theorem Whole.add?_eq_none (hx : x.Whole i) (hy : y.Whole j)
    (beyond : ¬ (i + j).natAbs < twoPow 96) : x.add? y = none := by
  have hi : i ≠ 0 := by
    rintro rfl
    exact beyond (by simpa using hy.natAbs_lt)
  have hj : j ≠ 0 := by
    rintro rfl
    exact beyond (by simpa using hx.natAbs_lt)
  rw [hx.add?_eq hy hi hj, ofParts?, dif_neg fun inRange => beyond inRange.1]

theorem Whole.toInt64? (h : x.Whole i) : x.toInt64? = int64OfInt? i := by
  have whole : x.isWhole = true := by
    rw [isWhole, h.scale, tenPow_zero, Nat.mod_one]
    rfl
  rw [Decimal.toInt64?, if_pos whole, h.scale, tenPow_zero, Nat.div_one]
  exact congrArg int64OfInt? h.value

theorem Whole.toBinary64 (h : x.Whole i) : x.toBinary64 = Binary64.ofInt i := by
  rw [Decimal.toBinary64, if_pos h.scale, h.value]

end Decimal

namespace Total

/-- A total is exact and stands for an integer. -/
def Whole : Total → Int → Prop
  | exact d, i => d.Whole i
  | approximate _, _ => False

variable {a b : Total} {i j : Int}

theorem whole_zero : zero.Whole 0 := Decimal.whole_zero

theorem Whole.natAbs_lt (h : a.Whole i) : i.natAbs < twoPow 96 := by
  cases a with
  | approximate x => cases h
  | exact d => exact Decimal.Whole.natAbs_lt h

/-- Adding an integer keeps a total exact as long as it stays within 96 bits. -/
theorem Whole.add (ha : a.Whole i) (hb : b.Whole j) (fits : (i + j).natAbs < twoPow 96) :
    (a.add b).Whole (i + j) := by
  cases a with
  | approximate x => cases ha
  | exact c =>
      cases b with
      | approximate x => cases hb
      | exact d =>
          obtain ⟨sum, hsum, whole⟩ := Decimal.Whole.add? ha hb fits
          rw [add_exact hsum]
          exact whole

theorem Whole.add_eq_approximate (ha : a.Whole i) (hb : b.Whole j)
    (beyond : ¬ (i + j).natAbs < twoPow 96) : ∃ x, a.add b = approximate x := by
  cases a with
  | approximate x => cases ha
  | exact c =>
      cases b with
      | approximate x => cases hb
      | exact d =>
          have none : c.add? d = none := Decimal.Whole.add?_eq_none ha hb beyond
          exact ⟨c.toBinary64.add d.toBinary64, by simp only [Total.add, none, Total.toBinary64]⟩

/-- A total that is no longer exact stays so. -/
theorem sum_approximate (x : Binary64) (terms : List Total) :
    ∃ y, sum (approximate x) terms = approximate y := by
  induction terms generalizing x with
  | nil => exact ⟨x, rfl⟩
  | cons term rest ih => exact ih _

theorem sum_cons (start term : Total) (rest : List Total) :
    sum start (term :: rest) = sum (start.add term) rest := rfl

theorem Whole.toInt64? (h : a.Whole i) : a.toInt64? = int64OfInt? i := by
  cases a with
  | approximate x => cases h
  | exact d => exact Decimal.Whole.toInt64? h

theorem Whole.toBinary64 (h : a.Whole i) : a.toBinary64 = Binary64.ofInt i := by
  cases a with
  | approximate x => cases h
  | exact d => exact Decimal.Whole.toBinary64 h

end Total

end TreeTable.Numeric
