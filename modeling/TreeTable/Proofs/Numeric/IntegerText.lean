import TreeTable.Numeric.Integer

/-! # Integers are read as they are written

The text of an integer is a run of digits with a sign before a negative one. Its digits denote
the number, so reading it gives the integer back.
-/

namespace TreeTable.Numeric

theorem digitsValue_toDigits (n : Nat) : digitsValue 0 (Nat.toDigits 10 n) = n := by
  have h := Nat.ofDigitChars_ten_toDigits (n := n)
  rwa [Nat.ofDigitChars_eq_foldl] at h

theorem int64OfInt?_toInt (n : Int64) : int64OfInt? n.toInt = some n := by
  have bound : (twoPow 63 : Int) = 9223372036854775808 := rfl
  have lower := n.le_toInt
  have upper := n.toInt_lt
  rw [int64OfInt?, if_pos (by rw [bound]; omega), Int64.ofInt_toInt]

/-- The sign of the text of an integer. -/
def signChars (n : Int64) : List Char := if 0 ≤ n.toInt then [] else ['-']

theorem toList_int64Text (n : Int64) :
    (int64Text n).toList = signChars n ++ Nat.toDigits 10 n.toInt.natAbs := by
  rw [int64Text, Int.toString_eq_repr, Int.repr_eq_if, signChars]
  split
  next h =>
    have magnitude : n.toInt.natAbs = n.toInt.toNat := by omega
    rw [Nat.toList_repr, magnitude, List.nil_append]
  next h =>
    have magnitude : n.toInt.natAbs = (-n.toInt).toNat := by omega
    rw [String.toList_append, Nat.toList_repr, magnitude]
    rfl

/-- The text of an integer is made of digits and a minus sign. -/
theorem mem_int64Text {n : Int64} {c : Char} (h : c ∈ (int64Text n).toList) :
    c.isDigit = true ∨ c = '-' := by
  rw [toList_int64Text, List.mem_append] at h
  rcases h with h | h
  · rw [signChars] at h
    split at h
    · cases h
    · exact .inr (List.mem_singleton.mp h)
  · exact .inl (Nat.isDigit_of_mem_toDigits (by decide) (by decide) h)

end TreeTable.Numeric
