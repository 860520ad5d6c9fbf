import TreeTable.Json.Tree

/-! # Reading JSON numbers

The digits of a number are gathered in 64 bits. Whole digits that no longer fit only
raise the exponent, and digits after the point that no longer fit are dropped. A float is
the gathered number times a power of ten or divided by one, each step rounded; so it may
differ from the nearest double in its last bit.
-/

namespace TreeTable.Json

open Numeric

namespace NumberReader

/-- Appends digits as long as the number stays within 64 bits, and gives the digits that
were left. -/
def gather : Nat → List Char → Nat × List Char
  | total, [] => (total, [])
  | total, c :: rest =>
      let next := digitsValue total [c]
      if next < twoPow 64 then gather next rest else (total, c :: rest)

/-- Scales a double by a power of ten that is one double away from exact. Exponents below
-308 are paid for in steps of 308; none when the result is infinite. -/
def scale? : Nat → Binary64 → Int → Option Binary64
  | 0, x, _ => some x
  | fuel + 1, x, exponent =>
      if exponent < -308 then
        if x.isZero then some x
        else scale? fuel (x.div (Binary64.ofNat (tenPow 308))) (exponent + 308)
      else if exponent < 0 then some (x.div (Binary64.ofNat (tenPow exponent.natAbs)))
      else if 308 < exponent then if x.isZero then some x else none
      else
        let product := x.mul (Binary64.ofNat (tenPow exponent.natAbs))
        if product.isInfinite then none else some product

/-- The float with the gathered digits and exponent. -/
def float (negative : Bool) (significand : Nat) (exponent : Int) : Except Error Number :=
  match scale? 5 (Binary64.ofNat significand) exponent with
  | some x => .ok (.float (if negative then x.neg else x))
  | none => .error .malformed

/-- The number without fraction and exponent. Minus zero is a float. -/
def whole (negative : Bool) (significand : Nat) : Number :=
  if negative then
    if significand = 0 ∨ twoPow 63 < significand then .float (Binary64.ofNat significand).neg
    else .whole (-(significand : Int))
  else .whole significand

/-- At least one digit; otherwise the text is at its end or not a number. -/
def someDigits (cs : List Char) : Except Error (List Char × List Char) :=
  match cs.takeWhile Char.isDigit, cs.dropWhile Char.isDigit with
  | [], [] => .error .truncated
  | [], _ :: _ => .error .malformed
  | digits, rest => .ok (digits, rest)

/-- The exponent part after its mark. An exponent beyond 31 bits makes zero of a number
that is zero or has a negative exponent, and is out of range otherwise. -/
def exponentPart (negative : Bool) (significand : Nat) (start : Int) (cs : List Char) :
    Except Error (Number × List Char) := do
  let (down, cs) := match cs with
    | '-' :: rest => (true, rest)
    | '+' :: rest => (false, rest)
    | all => (false, all)
  let (digits, rest) ← someDigits cs
  let size := digitsValue 0 digits
  if size < twoPow 31 then
    let number ← float negative significand (if down then start - size else start + size)
    return (number, rest)
  else if significand = 0 ∨ down then
    return (.float (Binary64.ofMagnitude negative 0), rest)
  else throw .malformed

/-- What follows the digits gathered so far: an exponent, or the end of the number. -/
def afterDigits (negative : Bool) (significand : Nat) (exponent : Int) (isWhole : Bool)
    (cs : List Char) : Except Error (Number × List Char) :=
  match cs with
  | 'e' :: rest => exponentPart negative significand exponent rest
  | 'E' :: rest => exponentPart negative significand exponent rest
  | _ =>
      if isWhole then .ok (whole negative significand, cs)
      else (float negative significand exponent).map (·, cs)

/-- The whole digits: a zero alone, or digits that do not start with zero. -/
def wholeDigits (cs : List Char) : Except Error (List Char × List Char) := do
  let (digits, rest) ← someDigits cs
  match digits with
  | '0' :: _ :: _ => throw .malformed
  | _ => return (digits, rest)

/-- A number without its sign. -/
def unsigned (negative : Bool) (cs : List Char) : Except Error (Number × List Char) := do
  let (digits, rest) ← wholeDigits cs
  let (significand, beyond) := gather 0 digits
  match rest with
  | '.' :: after => do
      let (fraction, rest) ← someDigits after
      let (significand, dropped) := gather significand fraction
      let exponent : Int := beyond.length - (fraction.length - dropped.length : Nat)
      afterDigits negative significand exponent false rest
  | _ => afterDigits negative significand beyond.length beyond.isEmpty rest

end NumberReader

/-- Reads a number at its first character. -/
def readNumber : List Char → Except Error (Number × List Char)
  | '-' :: rest => NumberReader.unsigned true rest
  | cs => NumberReader.unsigned false cs

end TreeTable.Json
