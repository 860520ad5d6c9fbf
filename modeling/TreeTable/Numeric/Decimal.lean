import TreeTable.Numeric.FloatText

/-! # Scaled decimals

A scaled decimal is a 96-bit mantissa over a power of ten of at most 28, with a sign
that a zero keeps too. Sums are exact until they need more than 96 bits; then digits
after the point are rounded off, half to even, and a sum whose whole part does not fit
has no result.
-/

namespace TreeTable.Numeric

/-- The number `mantissa / 10 ^ scale`, negated when `negative`. -/
structure Decimal where
  negative : Bool
  mantissa : Nat
  scale : Nat
  mantissa_lt : mantissa < twoPow 96
  scale_le : scale ≤ 28
  deriving DecidableEq

namespace Decimal

/-- The decimal of the given parts, when they are in range. -/
def ofParts? (negative : Bool) (mantissa scale : Nat) : Option Decimal :=
  if h : mantissa < twoPow 96 ∧ scale ≤ 28 then
    some ⟨negative, mantissa, scale, h.1, h.2⟩
  else none

def zero : Decimal := ⟨false, 0, 0, by decide, by decide⟩

instance : Inhabited Decimal := ⟨zero⟩

/-- Whole numbers of 64 bits are decimals of scale zero. -/
def ofInt64 (i : Int64) : Decimal :=
  ⟨decide (i.toInt < 0), i.toInt.natAbs, 0, by
    have := Int64.toInt_lt i
    have := Int64.le_toInt i
    have bound : twoPow 96 = 79228162514264337593543950336 := rfl
    omega, by decide⟩

/-- Drops the fewest digits after the point, rounding half to even, so that the mantissa
fits; none when the whole part does not fit. -/
def fit? (negative : Bool) (mantissa scale : Nat) : Option Decimal :=
  go (scale + 1) 0
where
  go : Nat → Nat → Option Decimal
    | 0, _ => none
    | fuel + 1, dropped =>
        match ofParts? negative (roundHalfEven mantissa (tenPow dropped)) (scale - dropped) with
        | some d => some d
        | none => go fuel (dropped + 1)

def signed (d : Decimal) (common : Nat) : Int :=
  let whole := (d.mantissa * tenPow (common - d.scale) : Nat)
  if d.negative then -(whole : Int) else whole

/-- The sum on the greater of both scales. A zero leaves the other operand as it is, scale
and sign included, and numbers that cancel out leave a zero without a sign. -/
def add? (x y : Decimal) : Option Decimal :=
  if x.mantissa = 0 then some y
  else if y.mantissa = 0 then some x
  else
    let common := max x.scale y.scale
    let total := x.signed common + y.signed common
    fit? (decide (total < 0)) total.natAbs common

theorem add?_of_mantissa_eq_zero {x : Decimal} (y : Decimal) (h : x.mantissa = 0) :
    x.add? y = some y := by
  simp [add?, h]

@[simp] theorem zero_add? (y : Decimal) : zero.add? y = some y :=
  add?_of_mantissa_eq_zero y rfl

/-- The same number without zeros at the end of its fraction. -/
def trim (negative : Bool) (mantissa : Nat) : Nat → Option Decimal
  | 0 => ofParts? negative mantissa 0
  | scale + 1 =>
      if mantissa % 10 = 0 then trim negative (mantissa / 10) scale
      else ofParts? negative mantissa (scale + 1)

/-- Drops `count` zeros at the end of a fraction that has that many. -/
def dropZeros (count : Nat) : Nat × Nat → Nat × Nat
  | (mantissa, scale) =>
      if count ≤ scale ∧ mantissa % tenPow count = 0 then
        (mantissa / tenPow count, scale - count)
      else (mantissa, scale)

/-- Drops zeros by eight for as long as the low word of the mantissa is zero. -/
def dropWords : Nat → Nat × Nat → Nat × Nat
  | 0, parts => parts
  | fuel + 1, parts =>
      if parts.1 % twoPow 32 = 0 then dropWords fuel (dropZeros 8 parts) else parts

/-- The same number with fewer zeros at the end of its fraction: up to seven are dropped,
and more only while a whole word of zeros shows that they are there. -/
def shorten (parts : Nat × Nat) : Nat × Nat :=
  dropZeros 1 (dropZeros 2 (dropZeros 4 (dropWords 3 parts)))

/-- How many digits a quotient may grow by in one step: nine, or as many as fit. -/
def room (quotient scale : Nat) : Nat :=
  (List.range (min 9 (28 - scale))).countP fun p =>
    decide (quotient * tenPow (p + 1) < twoPow 96)

/-- The quotient of `num` and `den` as the mantissa of a decimal, half to even, with one
digit less when it does not fit. -/
def settle? (negative : Bool) (num den scale : Nat) : Option Decimal :=
  let rounded := roundHalfEven num den
  if rounded < twoPow 96 then
    let parts := shorten (rounded, scale)
    ofParts? negative parts.1 parts.2
  else if scale = 0 then none
  else
    let parts := shorten (roundHalfEven num (den * 10), scale - 1)
    ofParts? negative parts.1 parts.2

/-- The quotient by a positive whole number. One without remainder keeps the scale; any
other grows step by step until it has none or as many digits as fit. -/
def divNat? (x : Decimal) (n : Nat) : Option Decimal :=
  if n = 0 then none
  else if x.mantissa = 0 then some zero
  else if x.mantissa % n = 0 then ofParts? x.negative (x.mantissa / n) x.scale
  else go 29 x.scale
where
  go : Nat → Nat → Option Decimal
    | 0, _ => none
    | fuel + 1, scale =>
        let num := x.mantissa * tenPow (scale - x.scale)
        let more := room (num / n) scale
        if num % n = 0 ∨ twoPow 96 ≤ num / n ∨ more = 0 then
          settle? x.negative num n scale
        else go fuel (scale + more)

def isWhole (d : Decimal) : Bool := decide (d.mantissa % tenPow d.scale = 0)

/-- The integer that a whole decimal denotes, when it fits in 64 bits. -/
def toInt64? (d : Decimal) : Option Int64 :=
  if d.isWhole then
    let whole := d.mantissa / tenPow d.scale
    int64OfInt? (if d.negative then -(whole : Int) else whole)
  else none

/-- The double of a decimal. The whole part and the fraction are converted apart and
added; the sum is brought back to the grid of the scale by a multiplication, a rounding
and a division, each of them rounded. -/
def toBinary64 (d : Decimal) : Binary64 :=
  if d.scale = 0 then
    Binary64.ofInt (if d.negative then -(d.mantissa : Int) else d.mantissa)
  else
    let whole := Binary64.ofNat (d.mantissa / tenPow d.scale)
    let fraction := d.mantissa % tenPow d.scale
    let size :=
      if fraction = 0 then whole
      else
        let step := (Binary64.ofNat 10).pow d.scale
        let sum := whole.add ((Binary64.ofNat fraction).div (Binary64.ofNat (tenPow d.scale)))
        ((sum.mul step).round).div step
    if d.negative then size.neg else size

/-- All digits of the scale after the point, zeros too. -/
def render (d : Decimal) : String :=
  let digits := (toString d.mantissa).toList
  let padded := List.replicate (d.scale + 1 - digits.length) '0' ++ digits
  let whole := padded.length - d.scale
  let body :=
    if d.scale = 0 then String.ofList padded
    else String.ofList (padded.take whole ++ '.' :: padded.drop whole)
  if d.negative then "-" ++ body else body

end Decimal

end TreeTable.Numeric
