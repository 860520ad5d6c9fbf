import TreeTable.Json.NumberReader
import TreeTable.Proofs.Numeric.RoundedIntegers
import TreeTable.Proofs.Outcome
import TreeTable.Value.Floats

/-! # Floats that are read

A float is read by scaling its digits with powers of ten. The digits make a number, and the powers
that are used are neither zero nor infinite, so a float that is read is a number as well.
-/

namespace TreeTable

open Numeric Outcome

namespace Numeric.Binary64

variable {x y : Binary64}

theorem isNaN_neg (x : Binary64) : x.neg.isNaN = x.isNaN := by
  have small : x.magnitude < twoPow 63 := Nat.mod_lt _ (twoPow_pos 63)
  rw [neg, isNaN, magnitude_ofMagnitude _ small, isNaN]

theorem isNaN_infinity (negative : Bool) : (infinity negative).isNaN = false :=
  isNaN_ofMagnitude negative (Nat.le_refl _)

/-- A finite float other than zero. -/
structure IsFactor (x : Binary64) : Prop where
  isNaN : x.isNaN = false
  isInfinite : x.isInfinite = false
  isZero : x.isZero = false

theorem IsFactor.isNaN_mul (hy : y.IsFactor) (hx : x.isNaN = false) :
    (x.mul y).isNaN = false := by
  simp only [mul, hx, hy.isNaN, hy.isInfinite, hy.isZero, Bool.or_false, Bool.false_eq_true,
    if_false]
  split
  next infinite =>
    have nonzero : x.isZero = false := by
      simp only [Binary64.isInfinite, decide_eq_true_iff] at infinite
      rw [Binary64.isZero, infinite]
      rfl
    rw [nonzero]
    exact isNaN_infinity _
  next => exact isNaN_ofRatio _ _ _

theorem IsFactor.isNaN_div (hy : y.IsFactor) (hx : x.isNaN = false) :
    (x.div y).isNaN = false := by
  simp only [div, hx, hy.isNaN, hy.isInfinite, hy.isZero, Bool.or_false, Bool.false_eq_true,
    if_false]
  split
  · exact isNaN_infinity _
  · exact isNaN_ofRatio _ _ _

theorem magnitude_ofNat (n : Nat) : (ofNat n).magnitude = roundedMagnitude n := by
  rw [ofNat, ofRatio_one, magnitude_ofMagnitude _ (roundedMagnitude_lt_twoPow n)]

/-- Rounding keeps the order, and neither 1 nor the greatest of these powers is out of range. -/
theorem isFactor_tenPow {k : Nat} (h : k ≤ 308) : (ofNat (tenPow k)).IsFactor := by
  have one : 0 < roundedMagnitude 1 := by decide +kernel
  have last : roundedMagnitude (tenPow 308) < infinityMagnitude := by decide +kernel
  have least : roundedMagnitude 1 ≤ roundedMagnitude (tenPow k) :=
    roundedMagnitude_mono (tenPow_pos k)
  have greatest : roundedMagnitude (tenPow k) ≤ roundedMagnitude (tenPow 308) :=
    roundedMagnitude_mono (tenPow_le h)
  refine ⟨isNaN_ofRatio _ _ _, ?_, ?_⟩
  · rw [isInfinite, magnitude_ofNat]
    exact decide_eq_false (Nat.ne_of_lt (Nat.lt_of_le_of_lt greatest last))
  · rw [isZero, magnitude_ofNat]
    exact decide_eq_false (Nat.ne_of_gt (Nat.lt_of_lt_of_le one least))

end Numeric.Binary64

namespace Json

namespace NumberReader

theorem isNaN_of_scale? {fuel : Nat} {x y : Binary64} {exponent : Int}
    (h : scale? fuel x exponent = some y) (hx : x.isNaN = false) : y.isNaN = false := by
  induction fuel generalizing x exponent with
  | zero =>
      cases h
      exact hx
  | succ fuel ih =>
      rw [scale?] at h
      split at h
      next =>
        split at h
        · cases h
          exact hx
        · exact ih h ((Binary64.isFactor_tenPow (Nat.le_refl 308)).isNaN_div hx)
      next least =>
        split at h
        next =>
          cases h
          exact (Binary64.isFactor_tenPow (by omega)).isNaN_div hx
        next =>
          split at h
          next =>
            split at h
            · cases h
              exact hx
            · cases h
          next greatest =>
            dsimp only at h
            split at h
            · cases h
            · cases h
              exact (Binary64.isFactor_tenPow (by omega)).isNaN_mul hx

theorem isNaN_of_float {negative : Bool} {significand : Nat} {exponent : Int} {number : Number}
    (h : float negative significand exponent = .ok number) : number.toBinary64.isNaN = false := by
  rw [float] at h
  split at h
  next x hx =>
    have scaled := isNaN_of_scale? hx (Binary64.isNaN_ofRatio _ _ _)
    cases h
    cases negative with
    | false => exact scaled
    | true => exact (Binary64.isNaN_neg x).trans scaled
  next => cases h

theorem isNaN_whole (negative : Bool) (significand : Nat) :
    (whole negative significand).toBinary64.isNaN = false := by
  rw [whole]
  split
  · split
    · exact (Binary64.isNaN_neg _).trans (Binary64.isNaN_ofRatio _ _ _)
    · exact Binary64.isNaN_ofInt _
  · exact Binary64.isNaN_ofInt _

variable {negative : Bool} {cs rest : List Char} {number : Number}

theorem isNaN_of_exponentPart {significand : Nat} {start : Int}
    (h : exponentPart negative significand start cs = .ok (number, rest)) :
    number.toBinary64.isNaN = false := by
  rw [exponentPart.eq_def] at h
  split at h
  next down after _ =>
    obtain ⟨digits, -, h⟩ := bind_eq_ok_iff.mp h
    dsimp only at h
    split at h
    next =>
      obtain ⟨read, hread, h⟩ := bind_eq_ok_iff.mp h
      cases h
      exact isNaN_of_float hread
    next =>
      split at h
      · cases h
        exact Binary64.isNaN_ofMagnitude negative (Nat.zero_le _)
      · cases h

theorem isNaN_of_afterDigits {significand : Nat} {exponent : Int} {isWhole : Bool}
    (h : afterDigits negative significand exponent isWhole cs = .ok (number, rest)) :
    number.toBinary64.isNaN = false := by
  rw [afterDigits.eq_def] at h
  split at h
  · exact isNaN_of_exponentPart h
  · exact isNaN_of_exponentPart h
  · split at h
    · cases h
      exact isNaN_whole negative significand
    · obtain ⟨read, hread, h⟩ := map_eq_ok_iff.mp h
      cases h
      exact isNaN_of_float hread

theorem isNaN_of_unsigned (h : unsigned negative cs = .ok (number, rest)) :
    number.toBinary64.isNaN = false := by
  rw [unsigned] at h
  obtain ⟨digits, -, h⟩ := bind_eq_ok_iff.mp h
  dsimp only at h
  split at h
  · obtain ⟨fraction, -, h⟩ := bind_eq_ok_iff.mp h
    exact isNaN_of_afterDigits h
  · exact isNaN_of_afterDigits h

end NumberReader

theorem isNaN_of_readNumber {cs rest : List Char} {number : Number}
    (h : readNumber cs = .ok (number, rest)) : number.toBinary64.isNaN = false := by
  rw [readNumber.eq_def] at h
  split at h
  · exact NumberReader.isNaN_of_unsigned h
  · exact NumberReader.isNaN_of_unsigned h

theorem Number.nanFree_toValue {number : Number} (h : number.toBinary64.isNaN = false) :
    number.toValue.nanFree = true := by
  cases number with
  | whole i =>
      rw [toValue]
      split
      · rfl
      · exact congrArg not h
  | float x => exact congrArg not h

end Json

end TreeTable
