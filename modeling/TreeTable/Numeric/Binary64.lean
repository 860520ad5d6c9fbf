import TreeTable.Numeric.Rounding

/-! # Double-precision numbers

A number is its 64-bit word. Arithmetic decodes the operands to a whole
significand times a power of two, computes exactly, and rounds once, so every
operation is correctly rounded and can be evaluated by the kernel. Comparison
goes through an integer key that puts both zeros at the same place.
-/

namespace TreeTable.Numeric

/-- A double-precision number, stored as its word. -/
structure Binary64 where
  bits : UInt64
  deriving DecidableEq

namespace Binary64

/-- The word with the given sign and the given 63 lower bits. -/
def ofMagnitude (negative : Bool) (magnitude : Nat) : Binary64 :=
  ⟨UInt64.ofNat (if negative then twoPow 63 + magnitude else magnitude)⟩

/-- The lower 63 bits of an infinity; greater ones are not numbers. -/
def infinityMagnitude : Nat := 2047 * twoPow 52

def zero : Binary64 := ofMagnitude false 0
def infinity (negative : Bool) : Binary64 := ofMagnitude negative infinityMagnitude
def nan : Binary64 := ofMagnitude false (infinityMagnitude + twoPow 51)

instance : Inhabited Binary64 := ⟨zero⟩

def magnitude (x : Binary64) : Nat := x.bits.toNat % twoPow 63
def isNegative (x : Binary64) : Bool := decide (twoPow 63 ≤ x.bits.toNat)
def isNaN (x : Binary64) : Bool := decide (infinityMagnitude < x.magnitude)
def isInfinite (x : Binary64) : Bool := decide (x.magnitude = infinityMagnitude)
def isFinite (x : Binary64) : Bool := decide (x.magnitude < infinityMagnitude)
def isZero (x : Binary64) : Bool := decide (x.magnitude = 0)

/-- The whole factor of a finite number. -/
def significand (x : Binary64) : Nat :=
  if x.magnitude < twoPow 52 then x.magnitude else twoPow 52 + x.magnitude % twoPow 52

/-- The power of two beside the significand of a finite number. -/
def exponent (x : Binary64) : Int :=
  if x.magnitude < twoPow 52 then -1074 else (x.magnitude / twoPow 52 : Nat) - 1075

/-- The opposite number. -/
def neg (x : Binary64) : Binary64 := ofMagnitude (!x.isNegative) x.magnitude

/-- Places numbers on the integer line in their own order; both zeros are at 0. -/
def orderKey (x : Binary64) : Int :=
  if x.isNegative then -(x.magnitude : Int) else x.magnitude

/-- The order of two numbers, none when one of them is not a number. -/
def compare? (x y : Binary64) : Option Ordering :=
  if x.isNaN || y.isNaN then none else some (compare x.orderKey y.orderKey)

/-- Numeric equality: the zeros are equal, and what is not a number equals nothing. -/
def eq (x y : Binary64) : Bool :=
  !x.isNaN && !y.isNaN && decide (x.orderKey = y.orderKey)

/-- The number nearest to the exact quotient `num / den`, halves going to the
even significand, with infinity beyond the greatest finite number. -/
def ofRatio (negative : Bool) (num den : Nat) : Binary64 :=
  if num = 0 then ofMagnitude negative 0
  else
    let power : Int := max (floorLogTwo num den - 52) (-1074)
    let rounded := roundHalfEven (num * twoPow (-power).toNat) (den * twoPow power.toNat)
    ofMagnitude negative (min ((power + 1074).toNat * twoPow 52 + rounded) infinityMagnitude)

/-- The number nearest to `coefficient * 2 ^ exponent`. -/
def ofScaled (negative : Bool) (coefficient : Nat) (exponent : Int) : Binary64 :=
  let (num, den) := scaleByPowerOfTwo coefficient exponent
  ofRatio negative num den

def ofNat (n : Nat) : Binary64 := ofRatio false n 1
def ofInt (i : Int) : Binary64 := ofRatio (decide (i < 0)) i.natAbs 1

/-- A finite number as a signed multiple of `2 ^ exponent`, for an exponent that is
at most its own. -/
def signedMultiple (x : Binary64) (exponent : Int) : Int :=
  let whole := (x.significand * twoPow (x.exponent - exponent).toNat : Nat)
  if x.isNegative then -(whole : Int) else whole

def add (x y : Binary64) : Binary64 :=
  if x.isNaN || y.isNaN then nan
  else if x.isInfinite then
    if y.isInfinite && x.isNegative != y.isNegative then nan else x
  else if y.isInfinite then y
  else
    let exponent := min x.exponent y.exponent
    let total := x.signedMultiple exponent + y.signedMultiple exponent
    if total = 0 then ofMagnitude (x.isNegative && y.isNegative) 0
    else ofScaled (decide (total < 0)) total.natAbs exponent

def mul (x y : Binary64) : Binary64 :=
  let negative := x.isNegative != y.isNegative
  if x.isNaN || y.isNaN then nan
  else if x.isInfinite || y.isInfinite then
    if x.isZero || y.isZero then nan else infinity negative
  else ofScaled negative (x.significand * y.significand) (x.exponent + y.exponent)

def div (x y : Binary64) : Binary64 :=
  let negative := x.isNegative != y.isNegative
  if x.isNaN || y.isNaN then nan
  else if x.isInfinite then if y.isInfinite then nan else infinity negative
  else if y.isInfinite then ofMagnitude negative 0
  else if y.isZero then if x.isZero then nan else infinity negative
  else
    let (num, den) := scaleByPowerOfTwo x.significand (x.exponent - y.exponent)
    ofRatio negative num (den * y.significand)

/-- The nearest whole number, halves going away from zero. -/
def round (x : Binary64) : Binary64 :=
  if !x.isFinite || decide (0 ≤ x.exponent) then x
  else ofRatio x.isNegative (roundHalfUp x.significand (twoPow (-x.exponent).toNat)) 1

/-- The power by repeated squaring: the factor is squared once for every binary digit
of the exponent and multiplied in where the digit is one, each step rounded. -/
def pow (base : Binary64) (exponent : Nat) : Binary64 :=
  go exponent base (ofNat 1)
where
  go (exponent : Nat) (factor result : Binary64) : Binary64 :=
    let result := if exponent % 2 = 1 then result.mul factor else result
    if exponent / 2 = 0 then result else go (exponent / 2) (factor.mul factor) result
  termination_by exponent
  decreasing_by omega

theorem eq_comm (x y : Binary64) : x.eq y = y.eq x := by
  unfold eq
  rw [Bool.and_comm (!x.isNaN), decide_eq_decide.mpr (Eq.comm : x.orderKey = y.orderKey ↔ _)]

theorem eq_self {x : Binary64} (hx : x.isNaN = false) : x.eq x = true := by
  simp [eq, hx]

theorem eq_trans {x y z : Binary64} (hxy : x.eq y = true) (hyz : y.eq z = true) :
    x.eq z = true := by
  simp only [eq, Bool.and_eq_true, decide_eq_true_iff] at hxy hyz ⊢
  exact ⟨⟨hxy.1.1, hyz.1.2⟩, hxy.2.trans hyz.2⟩

end Binary64

end TreeTable.Numeric
