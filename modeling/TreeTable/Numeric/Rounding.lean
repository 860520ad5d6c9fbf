import TreeTable.Numeric.Power

/-! # Rounding quotients of natural numbers

A quotient that is not whole is rounded to one of its two whole neighbours.
Halves go to the even neighbour or away from zero, as the caller asks.
-/

namespace TreeTable.Numeric

/-- The whole number nearest to `num / den`; a half goes to the even neighbour. -/
def roundHalfEven (num den : Nat) : Nat :=
  let quotient := num / den
  let twice := 2 * (num % den)
  if twice < den then quotient
  else if den < twice then quotient + 1
  else if quotient % 2 = 0 then quotient
  else quotient + 1

/-- The whole number nearest to `num / den`; a half goes up. -/
def roundHalfUp (num den : Nat) : Nat :=
  if den ≤ 2 * (num % den) then num / den + 1 else num / den

theorem roundHalfEven_of_dvd {num den : Nat} (hpos : 0 < den) (hdvd : den ∣ num) :
    roundHalfEven num den = num / den := by
  have hrem : num % den = 0 := Nat.mod_eq_zero_of_dvd hdvd
  simp [roundHalfEven, hrem, hpos]

theorem roundHalfEven_of_eq_mul {num den quotient : Nat} (hpos : 0 < den)
    (h : num = quotient * den) : roundHalfEven num den = quotient := by
  rw [h, roundHalfEven_of_dvd hpos ⟨quotient, Nat.mul_comm ..⟩, Nat.mul_div_cancel _ hpos]

/-- Splits a signed whole exponent of two into a factor above and a factor below the bar. -/
def scaleByPowerOfTwo (coefficient : Nat) (exponent : Int) : Nat × Nat :=
  (coefficient * twoPow exponent.toNat, twoPow (-exponent).toNat)

/-- Splits a signed whole exponent of ten into a factor above and a factor below the bar. -/
def scaleByPowerOfTen (coefficient : Nat) (exponent : Int) : Nat × Nat :=
  (coefficient * tenPow exponent.toNat, tenPow (-exponent).toNat)

/-- The largest `l` with `2 ^ l ≤ num / den`, for a positive quotient. -/
def floorLogTwo (num den : Nat) : Int :=
  let guess : Int := (num.log2 : Int) - (den.log2 : Int)
  if den * twoPow guess.toNat ≤ num * twoPow (-guess).toNat then guess else guess - 1

theorem floorLogTwo_one {n : Nat} (hn : n ≠ 0) : floorLogTwo n 1 = n.log2 := by
  have below : twoPow n.log2 ≤ n := Nat.log2_self_le hn
  have guess : ((n.log2 : Int) - (Nat.log2 1 : Int)) = n.log2 := Int.sub_zero _
  simp only [floorLogTwo, guess]
  rw [if_pos]
  have none : (-(n.log2 : Int)).toNat = 0 := by omega
  rw [Int.toNat_natCast, none, twoPow_zero]
  omega

end TreeTable.Numeric
