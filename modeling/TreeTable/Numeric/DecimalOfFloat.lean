import TreeTable.Numeric.Decimal

/-! # Decimals nearest to doubles

The binary exponent of a double is traded for a decimal one inside 96 bits: a factor of
a half becomes a factor of five and a tenth, a factor of two becomes a tenth fewer. When
the bits run out, low digits are given up. What is left is cut to the digits that a
double can vouch for and freed of zeros at its end.
-/

namespace TreeTable.Numeric.Decimal

/-- A number `mantissa * 10 ^ power` on its way into a decimal. -/
structure Scaling where
  mantissa : Nat
  power : Int

namespace Scaling

/-- Pays for `count` factors of a half. -/
def halve : Nat → Scaling → Scaling
  | 0, s => s
  | count + 1, s =>
      halve count <|
        if s.mantissa % 2 = 0 then ⟨s.mantissa / 2, s.power + 1⟩
        else if s.mantissa * 5 < twoPow 96 then ⟨s.mantissa * 5, s.power⟩
        else ⟨s.mantissa / 2, s.power + 1⟩

/-- Pays for `count` factors of two; none when the decimal exponent left could never be
multiplied out. -/
def double? : Nat → Scaling → Option Scaling
  | 0, s => some s
  | count + 1, s =>
      if s.mantissa < twoPow 95 then double? count ⟨s.mantissa * 2, s.power - 1⟩
      else if (count + 1 : Int) < s.power * 2 then none
      else double? count ⟨s.mantissa / 5, s.power⟩

/-- Multiplies a positive decimal exponent out, when 96 bits hold the result. -/
def expand? (s : Scaling) : Option Scaling :=
  let mantissa := s.mantissa * tenPow s.power.toNat
  if mantissa < twoPow 96 then some ⟨mantissa, min s.power 0⟩ else none

/-- Gives up one digit, a half going up. -/
def dropDigit (s : Scaling) : Scaling := ⟨roundHalfUp s.mantissa 10, s.power + 1⟩

/-- Gives up digits until the scale is at most 28; zero when none is left. -/
def limitScale : Nat → Scaling → Scaling
  | 0, s => s
  | fuel + 1, s =>
      if s.power < -28 then
        if s.mantissa / 10 = 0 then ⟨0, 0⟩ else limitScale fuel s.dropDigit
      else s

/-- Gives up digits after the point that lie beyond 52 bits. -/
def limitPrecision : Nat → Scaling → Scaling
  | 0, s => s
  | fuel + 1, s =>
      if s.power < 0 ∧ twoPow 52 ≤ s.mantissa then limitPrecision fuel s.dropDigit else s

end Scaling

/-- The decimal that stands for a double; none for infinities, for what is not a number
and for doubles beyond 96 bits. -/
def ofBinary64? (x : Binary64) : Option Decimal :=
  if !x.isFinite then none
  else if x.isZero then ofParts? x.isNegative 0 0
  else
    let start : Scaling := ⟨x.significand, x.exponent⟩
    let scaled :=
      if x.exponent < 0 then some (start.halve (-x.exponent).toNat)
      else start.double? x.exponent.toNat
    scaled.bind Scaling.expand? |>.bind fun s =>
      let s := s.limitScale 1200
      let s := s.limitPrecision 40
      trim x.isNegative s.mantissa (-s.power).toNat

end TreeTable.Numeric.Decimal
