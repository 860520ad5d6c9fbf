import TreeTable.Numeric.Decimal

/-! # Reading decimals

A decimal text is an optional sign and digits with at most one point; underscores may
stand after the first digit. Digits that the scale or the mantissa cannot hold are
rounded off at the first of them, half up. An exponent may follow, which moves the point.
-/

namespace TreeTable.Numeric.Decimal

/-- What has been read of a decimal text. -/
structure Reading where
  negative : Bool
  mantissa : Nat
  scale : Nat
  pastPoint : Bool
  sawDigit : Bool

namespace Reading

def finish? (r : Reading) : Option Decimal :=
  if r.sawDigit then ofParts? r.negative r.mantissa r.scale else none

/-- Ends the reading at the first character beyond the mantissa or the scale. What follows
does not count, but it must be digits and underscores. -/
def roundAt? (r : Reading) (next : Char) (rest : List Char) : Option Decimal :=
  let up? :=
    if !rest.all (fun c => c.isDigit || c == '_') then none
    else if next.isDigit then some (decide ('5' ≤ next))
    else if next = '_' ∨ (next = '.' ∧ r.pastPoint) then some false
    else none
  up?.bind fun up =>
    let mantissa := if up then r.mantissa + 1 else r.mantissa
    if mantissa < twoPow 96 then ofParts? r.negative mantissa r.scale
    else if r.scale = 0 then none
    else ofParts? r.negative ((mantissa + 4) / 10) (r.scale - 1)

/-- Whether no further digit may be appended because the scale is used up. Short texts
cannot reach that point. -/
def isFull (r : Reading) : Bool := r.pastPoint && decide (28 ≤ r.scale)

/-- Whether a further digit may take the mantissa past 64 bits. From there on an underscore
behind the last digit gives way to the character that follows. -/
def isWide (r : Reading) : Bool := decide (twoPow 64 / 10 - 255 ≤ r.mantissa)

def read? : List Char → Reading → Option Decimal
  | [], r => r.finish?
  | c :: rest, r =>
      if r.isFull then
        match rest with
        | next :: others =>
            if c = '_' && r.isWide then r.roundAt? next others else r.roundAt? c rest
        | [] => r.roundAt? c []
      else if c.isDigit then
        let mantissa := digitsValue r.mantissa [c]
        if mantissa < twoPow 96 then
          read? rest
            { r with mantissa, scale := if r.pastPoint then r.scale + 1 else 0, sawDigit := true }
        else if r.pastPoint then r.roundAt? c rest
        else none
      else if c = '.' ∧ !r.pastPoint then read? rest { r with pastPoint := true }
      else if c = '_' ∧ r.sawDigit then read? rest r
      else none

end Reading

/-- The decimal of a text without exponent. -/
def ofDigits? (text : List Char) : Option Decimal :=
  let start (negative : Bool) : Reading := ⟨negative, 0, 0, false, false⟩
  match text with
  | '-' :: rest => (start true).read? rest
  | '+' :: rest => (start false).read? rest
  | all => (start false).read? all

/-- The number of places in an exponent, a plus sign before it or not. It has 32 bits. -/
def places? (text : List Char) : Option Nat :=
  let digits := match text with
    | '+' :: rest => rest
    | all => all
  if digits.isEmpty || !digits.all Char.isDigit then none
  else
    let places := digitsValue 0 digits
    if places < twoPow 32 then some places else none

/-- Moves the point to the left. Digits beyond the greatest scale are rounded off, half up;
no mantissa has more than 29. -/
def shiftLeft? (x : Decimal) (places : Nat) : Option Decimal :=
  let dropped := min (x.scale + places - 28) 30
  ofParts? x.negative (roundHalfUp x.mantissa (tenPow dropped)) (min (x.scale + places) 28)

/-- Moves the point to the right, none when the whole part gets too great. -/
def shiftRight? (x : Decimal) (places : Nat) : Option Decimal :=
  if places ≤ x.scale then ofParts? x.negative x.mantissa (x.scale - places)
  else if x.mantissa = 0 then some zero
  else if places - x.scale ≤ 28 then
    ofParts? x.negative (x.mantissa * tenPow (places - x.scale)) 0
  else none

/-- The decimal of a text, none when the text is no decimal or too great. -/
def ofText? (text : String) : Option Decimal :=
  match text.toList.span fun c => c != 'e' && c != 'E' with
  | (digits, []) => ofDigits? digits
  | (digits, _ :: '-' :: exponent) => do (← ofDigits? digits).shiftLeft? (← places? exponent)
  | (digits, _ :: exponent) => do (← ofDigits? digits).shiftRight? (← places? exponent)

end TreeTable.Numeric.Decimal
