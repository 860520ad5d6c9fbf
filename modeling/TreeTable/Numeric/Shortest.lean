import TreeTable.Numeric.Binary64

/-! # Shortest decimal digits of a double

Every positive finite double owns an interval of reals that read back as it. The
digits chosen are those of the coarsest decimal grid with a point in that
interval, and among two such points the nearer one. The search runs over the
grids from coarse to fine and is exact.
-/

namespace TreeTable.Numeric

/-- A positive decimal number `coefficient * 10 ^ exponent`. -/
structure DecimalDigits where
  coefficient : Nat
  exponent : Int
  deriving DecidableEq

namespace DecimalDigits

/-- The digits from the most significant one on. -/
def digits (d : DecimalDigits) : List Char := (toString d.coefficient).toList

/-- The exponent that stands beside the first digit when a point follows it. -/
def leadingExponent (d : DecimalDigits) : Int := d.exponent + d.digits.length - 1

/-- The same number without zeros at the end of its coefficient. -/
def trimmed : Nat → DecimalDigits → DecimalDigits
  | 0, d => d
  | fuel + 1, d =>
      if d.coefficient ≠ 0 ∧ d.coefficient % 10 = 0 then
        trimmed fuel ⟨d.coefficient / 10, d.exponent + 1⟩
      else d

end DecimalDigits

/-- Where the digits go when two points of a grid are equally near. -/
inductive Tie where
  | toEven
  | upward
  deriving DecidableEq

namespace Binary64

/-- The reals that read back as a positive finite double, as quotients over one
denominator. -/
structure ReadingInterval where
  lower : Nat
  value : Nat
  upper : Nat
  den : Nat
  closed : Bool

/-- Half the distance to each neighbour belongs to the double; the ends do when its
significand is even. Below a power of two the neighbour is at half the distance. -/
def readingInterval (x : Binary64) : ReadingInterval :=
  let narrow := x.significand = twoPow 52 ∧ -1074 < x.exponent
  let (value, den) := scaleByPowerOfTwo (4 * x.significand) (x.exponent - 2)
  let (unit, _) := scaleByPowerOfTwo 1 (x.exponent - 2)
  { lower := value - (if narrow then unit else 2 * unit)
    value
    upper := value + 2 * unit
    den
    closed := x.significand % 2 = 0 }

namespace ReadingInterval

/-- Whether `num / den'` reads back as the double, both denominators being multiplied out. -/
def contains (i : ReadingInterval) (num den : Nat) : Bool :=
  let point := num * i.den
  if i.closed then decide (i.lower * den ≤ point) && decide (point ≤ i.upper * den)
  else decide (i.lower * den < point) && decide (point < i.upper * den)

/-- The point of the grid of step `10 ^ exponent` that reads back and is nearest to
the value, if one reads back. -/
def gridPoint? (i : ReadingInterval) (tie : Tie) (exponent : Int) : Option Nat :=
  let (step, den) := scaleByPowerOfTen 1 exponent
  let below := i.value * den / (i.den * step)
  let above := below + 1
  let reads n := i.contains (n * step) den
  match reads below && decide (0 < below), reads above with
  | false, false => none
  | true, false => some below
  | false, true => some above
  | true, true =>
      let twice := 2 * (i.value * den)
      let middle := (below + above) * (i.den * step)
      if twice < middle then some below
      else if middle < twice then some above
      else match tie with
        | .upward => some above
        | .toEven => if below % 2 = 0 then some below else some above

end ReadingInterval

/-- The largest `k` with `10 ^ k ≤ num / den`, found from a guess that is at most one
too great. -/
def floorLogTen (num den : Nat) : Int :=
  let guess : Int := floorLogTwo num den * 1233 / 4096 + 1
  let (step, under) := scaleByPowerOfTen 1 guess
  if den * step ≤ num * under then guess
  else
    let (step, under) := scaleByPowerOfTen 1 (guess - 1)
    if den * step ≤ num * under then guess - 1 else guess - 2

/-- Tries grids of `count`, `count + 1`, … digits. Seventeen digits always suffice. -/
def searchGrids (i : ReadingInterval) (tie : Tie) (top : Int) : Nat → DecimalDigits
  | 0 => ⟨i.value / i.den, 0⟩
  | fuel + 1 =>
      let exponent := top - (17 - (fuel : Int))
      match i.gridPoint? tie exponent with
      | some n => DecimalDigits.trimmed 20 ⟨n, exponent⟩
      | none => searchGrids i tie top fuel

/-- The shortest digits that read back as a positive finite double, and of those the
nearest. -/
def shortest (tie : Tie) (x : Binary64) : DecimalDigits :=
  let i := x.readingInterval
  searchGrids i tie (floorLogTen i.value i.den + 1) 18

end Binary64

end TreeTable.Numeric
