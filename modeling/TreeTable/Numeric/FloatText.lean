import TreeTable.Numeric.Shortest
import TreeTable.Numeric.Integer

/-! # Texts of doubles

A double is written with its shortest digits in one of three layouts, and read from
a decimal text with one correct rounding.
-/

namespace TreeTable.Numeric

/-- How the digits of a double are laid out. -/
structure FloatStyle where
  /-- Which of two equally near digit strings is taken. -/
  tie : Tie
  /-- Smallest exponent of the first digit that is still written in place, if any is too small. -/
  lowest : Option Int
  /-- Greatest exponent of the first digit that is still written in place, if any is too great. -/
  highest : Option Int
  /-- What follows a whole number that is written in place. -/
  wholeEnd : String
  /-- What stands before a nonnegative exponent. -/
  plus : String

namespace FloatStyle

/-- Numbers of documents: a float never looks like an integer, and very great and very
small numbers carry a signed exponent. -/
def document : FloatStyle := ⟨.toEven, some (-5), some 15, ".0", "+"⟩

/-- Plain text: all digits in place. -/
def plain : FloatStyle := ⟨.upward, none, none, "", ""⟩

/-- Diagnostic text: very great and very small numbers carry an exponent. -/
def diagnostic : FloatStyle := ⟨.upward, some (-4), some 15, ".0", ""⟩

/-- Whether a number with this exponent of its first digit is written in place. -/
def inPlace (style : FloatStyle) (leading : Int) : Bool :=
  style.lowest.all (· ≤ leading) && style.highest.all (leading ≤ ·)

def layDigits (style : FloatStyle) (d : DecimalDigits) : String :=
  let digits := d.digits
  if style.inPlace d.leadingExponent then
    if 0 ≤ d.exponent then
      String.ofList (digits ++ List.replicate d.exponent.toNat '0') ++ style.wholeEnd
    else
      let places := (-d.exponent).toNat
      if places < digits.length then
        let whole := digits.length - places
        String.ofList (digits.take whole ++ '.' :: digits.drop whole)
      else
        "0." ++ String.ofList (List.replicate (places - digits.length) '0' ++ digits)
  else
    let fraction := match digits with
      | first :: second :: rest => first :: '.' :: second :: rest
      | short => short
    let sign := if d.leadingExponent < 0 then "" else style.plus
    String.ofList fraction ++ "e" ++ sign ++ toString d.leadingExponent

end FloatStyle

namespace Binary64

/-- The text of a double in a layout. -/
def render (style : FloatStyle) (x : Binary64) : String :=
  if x.isNaN then "NaN"
  else
    let body :=
      if x.isInfinite then "inf"
      else if x.isZero then "0" ++ style.wholeEnd
      else style.layDigits ((ofMagnitude false x.magnitude).shortest style.tie)
    if x.isNegative then "-" ++ body else body

/-- The double nearest to `coefficient * 10 ^ exponent`. Exponents far outside the range
are decided by the number of digits alone. -/
def ofDecimal (negative : Bool) (coefficient : Nat) (exponent : Int) : Binary64 :=
  let top := exponent + (toString coefficient).length
  if coefficient = 0 ∨ top < -330 then ofMagnitude negative 0
  else if 320 < top then infinity negative
  else
    let (num, den) := scaleByPowerOfTen coefficient exponent
    ofRatio negative num den

/-- The exponent part of a decimal text, zero when there is none. -/
def exponentOfChars? : List Char → Option Int
  | [] => some 0
  | mark :: rest =>
      if mark = 'e' ∨ mark = 'E' then
        match rest with
        | '-' :: digits => (naturalOfChars? digits).map fun n => -(n : Int)
        | '+' :: digits => (naturalOfChars? digits).map Int.ofNat
        | digits => (naturalOfChars? digits).map Int.ofNat
      else none

/-- Digits with at most one point, and an exponent part. -/
def unsignedOfChars? (negative : Bool) (cs : List Char) : Option Binary64 :=
  let whole := cs.takeWhile Char.isDigit
  let rest := cs.dropWhile Char.isDigit
  let (fraction, rest) := match rest with
    | '.' :: after => (after.takeWhile Char.isDigit, after.dropWhile Char.isDigit)
    | other => ([], other)
  if whole = [] ∧ fraction = [] then none
  else
    (exponentOfChars? rest).map fun exponent =>
      ofDecimal negative (digitsValue (digitsValue 0 whole) fraction) (exponent - fraction.length)

/-- A decimal text, or the name of an infinity or of what is not a number in any case of
letters, after an optional sign. -/
def ofText? (text : String) : Option Binary64 :=
  let (negative, body) := match text.toList with
    | '-' :: rest => (true, rest)
    | '+' :: rest => (false, rest)
    | all => (false, all)
  let name := String.ofList (body.map Char.toLower)
  if name = "inf" ∨ name = "infinity" then some (infinity negative)
  else if name = "nan" then some nan
  else unsignedOfChars? negative body

end Binary64

end TreeTable.Numeric
