import TreeTable.Numeric.Power

/-! # Decimal texts of 64-bit integers

An integer is written with an optional sign and at least one ASCII digit, and is
refused when it does not fit in 64 bits.
-/

namespace TreeTable.Numeric

/-- The number that a run of decimal digits denotes, continuing from `start`. -/
def digitsValue (start : Nat) (digits : List Char) : Nat :=
  digits.foldl (fun total c => 10 * total + (c.toNat - 48)) start

/-- An unsigned number: at least one digit and nothing else. -/
def naturalOfChars? (cs : List Char) : Option Nat :=
  if cs ≠ [] ∧ cs.all Char.isDigit then some (digitsValue 0 cs) else none

/-- The integer as 64 bits, when it fits. -/
def int64OfInt? (i : Int) : Option Int64 :=
  if -(twoPow 63) ≤ i ∧ i < twoPow 63 then some (Int64.ofInt i) else none

/-- A signed integer: an optional sign, then an unsigned number, within 64 bits. -/
def int64OfChars? : List Char → Option Int64
  | '-' :: digits => (naturalOfChars? digits).bind fun n => int64OfInt? (-(n : Int))
  | '+' :: digits => (naturalOfChars? digits).bind fun n => int64OfInt? n
  | digits => (naturalOfChars? digits).bind fun n => int64OfInt? n

def int64OfText? (text : String) : Option Int64 := int64OfChars? text.toList

/-- A position that counts up from zero: an optional plus sign, then digits, within
64 bits. -/
def positionOfText? (text : String) : Option Nat :=
  let digits := match text.toList with
    | '+' :: rest => rest
    | all => all
  (naturalOfChars? digits).filter (· < twoPow 64)

/-- The digits of an integer, with a sign before a negative one. -/
def int64Text (n : Int64) : String := toString n.toInt

theorem toInt_of_int64OfInt? {i : Int} {n : Int64} (h : int64OfInt? i = some n) :
    n.toInt = i := by
  unfold int64OfInt? at h
  split at h
  · next hrange =>
      cases h
      have bound : (twoPow 63 : Int) = 9223372036854775808 := rfl
      rw [bound] at hrange
      exact Int64.toInt_ofInt_of_le hrange.1 hrange.2
  · cases h

end TreeTable.Numeric
