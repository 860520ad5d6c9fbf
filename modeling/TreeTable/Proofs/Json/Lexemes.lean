import Mathlib.Data.List.DropRight
import Mathlib.Data.List.TakeWhile
import TreeTable.Json.Printer
import TreeTable.Json.Reader
import TreeTable.Proofs.Numeric.IntegerText
import TreeTable.Proofs.Outcome
import TreeTable.Proofs.Text.Span

/-! # Blanks, numbers and strings within a text

A number ends where no digit, point or exponent mark follows, and a string ends at its quote. So
what stands behind them in a text is left as it is.
-/

namespace TreeTable.Json

open Numeric Outcome Text

/-- A blank between the parts of a text. -/
def isSpace (c : Char) : Bool := c = ' ' || c = '\n' || c = '\t' || c = '\r'

theorem skipBlanks_append {blanks : List Char} (h : ∀ c ∈ blanks, isSpace c = true)
    (cs : List Char) : skipBlanks (blanks ++ cs) = skipBlanks cs :=
  List.dropWhile_append_of_pos h

theorem skipBlanks_cons {c : Char} (h : isSpace c = false) (cs : List Char) :
    skipBlanks (c :: cs) = c :: cs :=
  List.dropWhile_cons_of_neg (by rw [← isSpace, h]; exact Bool.false_ne_true)

theorem skipBlanks_skipBlanks (cs : List Char) : skipBlanks (skipBlanks cs) = skipBlanks cs :=
  List.dropWhile_idempotent _ cs

/-- Whether a text that stands behind a number does not go on with it. -/
def EndsNumber (tail : List Char) : Prop :=
  ∀ c ∈ tail.head?, c.isDigit = false ∧ c ≠ '.' ∧ c ≠ 'e' ∧ c ≠ 'E'

namespace NumberReader

variable {negative : Bool} {cs digits rest tail : List Char} {number : Number}

theorem someDigits_eq_ok_iff : someDigits cs = .ok (digits, rest) ↔
    digits ≠ [] ∧ cs.takeWhile Char.isDigit = digits ∧ cs.dropWhile Char.isDigit = rest := by
  rw [someDigits]
  cases cs.takeWhile Char.isDigit with
  | nil => cases cs.dropWhile Char.isDigit <;> simp +contextual [eq_comm]
  | cons c taken =>
      constructor
      · rintro ⟨⟩
        exact ⟨List.cons_ne_nil c taken, rfl, rfl⟩
      · rintro ⟨-, rfl, rfl⟩
        rfl

theorem someDigits_append (h : someDigits cs = .ok (digits, rest)) (ends : EndsNumber tail) :
    someDigits (cs ++ tail) = .ok (digits, rest ++ tail) := by
  obtain ⟨nonempty, rfl, rfl⟩ := someDigits_eq_ok_iff.mp h
  have stop : ∀ c ∈ (cs.dropWhile Char.isDigit ++ tail).head?, c.isDigit = false := by
    have first := List.head?_dropWhile_not Char.isDigit cs
    cases hrest : cs.dropWhile Char.isDigit with
    | nil => exact fun c hc => (ends c hc).1
    | cons d rest =>
        rw [hrest] at first
        simpa using first
  have all : ∀ c ∈ cs.takeWhile Char.isDigit, c.isDigit = true :=
    fun c hc => List.all_eq_true.mp List.all_takeWhile c hc
  have split : cs ++ tail =
      cs.takeWhile Char.isDigit ++ (cs.dropWhile Char.isDigit ++ tail) := by
    rw [← List.append_assoc, List.takeWhile_append_dropWhile]
  rw [someDigits_eq_ok_iff, split]
  exact ⟨nonempty, takeWhile_append_stop all stop, dropWhile_append_stop all stop⟩

theorem exponentPart_append {significand : Nat} {start : Int}
    (h : exponentPart negative significand start cs = .ok (number, rest))
    (ends : EndsNumber tail) :
    exponentPart negative significand start (cs ++ tail) = .ok (number, rest ++ tail) := by
  rw [exponentPart.eq_def] at h ⊢
  split at h
  next down after sign =>
    obtain ⟨⟨digits, left⟩, hdigits, h⟩ := bind_eq_ok_iff.mp h
    split
    next down' after' sign' =>
      -- The sign is told apart by the first character, and there is one.
      have same : down' = down ∧ after' = after ++ tail := by
        cases cs with
        | nil =>
            cases sign
            cases hdigits
        | cons c cs =>
            rw [List.cons_append] at sign'
            by_cases minus : c = '-'
            · subst minus
              cases sign
              cases sign'
              exact ⟨rfl, rfl⟩
            by_cases plus : c = '+'
            · subst plus
              cases sign
              cases sign'
              exact ⟨rfl, rfl⟩
            · simp only [minus, plus, List.cons.injEq, false_and, imp_self, implies_true,
                Prod.mk.injEq, Bool.false_eq] at sign sign'
              obtain ⟨rfl, rfl⟩ := sign
              exact ⟨sign'.1, sign'.2.symm⟩
      obtain ⟨rfl, rfl⟩ := same
      rw [someDigits_append hdigits ends, ok_bind]
      dsimp only at h ⊢
      split at h
      next small =>
        obtain ⟨read, hread, h⟩ := bind_eq_ok_iff.mp h
        cases h
        rw [if_pos small, hread]
        rfl
      next great =>
        rw [if_neg great]
        split at h
        next zero =>
          cases h
          rw [if_pos zero]
          rfl
        next => cases h

theorem afterDigits_append {significand : Nat} {exponent : Int} {isWhole : Bool}
    (h : afterDigits negative significand exponent isWhole cs = .ok (number, rest))
    (ends : EndsNumber tail) :
    afterDigits negative significand exponent isWhole (cs ++ tail) =
      .ok (number, rest ++ tail) := by
  rw [afterDigits.eq_def] at h
  split at h
  · exact exponentPart_append h ends
  · exact exponentPart_append h ends
  next small great =>
    -- Neither what is left of the text nor what stands behind it begins with an exponent mark.
    rw [afterDigits.eq_def]
    split
    next after heq =>
      exfalso
      cases cs with
      | nil => exact (ends 'e' (by simp_all)).2.2.1 rfl
      | cons c cs => simp_all
    next after heq =>
      exfalso
      cases cs with
      | nil => exact (ends 'E' (by simp_all)).2.2.2 rfl
      | cons c cs => simp_all
    next =>
      split at h
      next whole =>
        cases h
        rw [if_pos whole]
      next fraction =>
        obtain ⟨read, hread, h⟩ := map_eq_ok_iff.mp h
        cases h
        rw [if_neg fraction, hread]
        rfl

theorem wholeDigits_append (h : wholeDigits cs = .ok (digits, rest)) (ends : EndsNumber tail) :
    wholeDigits (cs ++ tail) = .ok (digits, rest ++ tail) := by
  rw [wholeDigits, bind_eq_ok_iff] at h
  obtain ⟨⟨taken, left⟩, htaken, h⟩ := h
  rw [wholeDigits, someDigits_append htaken ends, ok_bind]
  dsimp only at h ⊢
  split at h
  · cases h
  next =>
    cases h
    rfl

theorem unsigned_append (h : unsigned negative cs = .ok (number, rest)) (ends : EndsNumber tail) :
    unsigned negative (cs ++ tail) = .ok (number, rest ++ tail) := by
  rw [unsigned, bind_eq_ok_iff] at h
  obtain ⟨⟨digits, left⟩, hdigits, h⟩ := h
  rw [unsigned, wholeDigits_append hdigits ends, ok_bind]
  dsimp only at h ⊢
  split at h
  next after =>
    obtain ⟨⟨fraction, behind⟩, hfraction, h⟩ := bind_eq_ok_iff.mp h
    change (someDigits (after ++ tail) >>= _) = _
    rw [someDigits_append hfraction ends, ok_bind]
    exact afterDigits_append h ends
  next noPoint =>
    split
    next after heq =>
      exfalso
      cases left with
      | nil => exact (ends '.' (by simp_all)).2.1 rfl
      | cons c left => simp_all
    next => exact afterDigits_append h ends

/-- A number other than zero is not written with zeros in front. -/
theorem head?_toDigits {n : Nat} (h : 0 < n) : (Nat.toDigits 10 n).head? ≠ some '0' := by
  induction n using Nat.strongRecOn with
  | ind n ih =>
      rcases Nat.lt_or_ge n 10 with small | great
      · have digit : ∀ d < 10, 0 < d → Nat.digitChar d ≠ '0' := by decide
        rw [Nat.toDigits_of_lt_base small, List.head?_cons]
        exact fun heq => digit n small h (Option.some.inj heq)
      · rw [Nat.toDigits_of_base_le (by decide) great,
          List.head?_append_of_ne_nil _ Nat.toDigits_ne_nil]
        exact ih (n / 10) (Nat.div_lt_self h (by decide)) (Nat.div_pos great (by decide))

theorem wholeDigits_toDigits (n : Nat) :
    wholeDigits (Nat.toDigits 10 n) = .ok (Nat.toDigits 10 n, []) := by
  have all : ∀ c ∈ Nat.toDigits 10 n, c.isDigit = true :=
    fun c hc => Nat.isDigit_of_mem_toDigits (by decide) (by decide) hc
  have some : someDigits (Nat.toDigits 10 n) = .ok (Nat.toDigits 10 n, []) := by
    rw [someDigits_eq_ok_iff, List.takeWhile_eq_self_iff.mpr all, List.dropWhile_eq_nil_iff.mpr all]
    exact ⟨Nat.toDigits_ne_nil, rfl, rfl⟩
  rw [wholeDigits, some, ok_bind]
  dsimp only
  split
  next zeros =>
    exfalso
    rcases Nat.eq_zero_or_pos n with rfl | positive
    · cases zeros
    · exact head?_toDigits positive (by rw [zeros]; rfl)
  next => rfl

theorem le_digitsValue (total : Nat) (digits : List Char) : total ≤ digitsValue total digits := by
  induction digits generalizing total with
  | nil => exact Nat.le_refl total
  | cons c digits ih =>
      have := ih (10 * total + (c.toNat - 48))
      rw [digitsValue, List.foldl_cons]
      exact Nat.le_trans (by omega) this

/-- Digits that denote a number of 64 bits are all gathered. -/
theorem gather_of_lt {total : Nat} {digits : List Char}
    (h : digitsValue total digits < twoPow 64) :
    gather total digits = (digitsValue total digits, []) := by
  induction digits generalizing total with
  | nil => rfl
  | cons c digits ih =>
      have next : digitsValue total [c] < twoPow 64 :=
        Nat.lt_of_le_of_lt (le_digitsValue (digitsValue total [c]) digits) h
      rw [gather, if_pos next]
      exact ih h

theorem unsigned_toDigits {n : Nat} (h : n < twoPow 64) (negative : Bool) :
    unsigned negative (Nat.toDigits 10 n) = .ok (whole negative n, []) := by
  have value := digitsValue_toDigits n
  have gathered : gather 0 (Nat.toDigits 10 n) = (n, []) := by
    rw [gather_of_lt (by rwa [value]), value]
  rw [unsigned, wholeDigits_toDigits, ok_bind]
  dsimp only
  rw [gathered]
  rfl

end NumberReader

/-- A number is read in the same way whatever stands behind it. -/
theorem readNumber_append {cs rest tail : List Char} {number : Number}
    (h : readNumber cs = .ok (number, rest)) (ends : EndsNumber tail) :
    readNumber (cs ++ tail) = .ok (number, rest ++ tail) := by
  rw [readNumber.eq_def] at h
  split at h
  · exact NumberReader.unsigned_append h ends
  next unsigned =>
    have read := NumberReader.unsigned_append h ends
    rw [readNumber.eq_def]
    split
    next after heq =>
      exfalso
      cases cs with
      | nil => cases h
      | cons c cs => simp_all
    next => exact read

/-- Integers are read as they are written. -/
theorem readNumber_int64Text (n : Int64) :
    readNumber (int64Text n).toList = .ok (.whole n.toInt, []) := by
  have lower := n.le_toInt
  have upper := n.toInt_lt
  have bound : twoPow 63 = 9223372036854775808 := rfl
  have greater : twoPow 64 = 18446744073709551616 := rfl
  have read (negative : Bool) :=
    NumberReader.unsigned_toDigits (show n.toInt.natAbs < twoPow 64 by omega) negative
  rw [toList_int64Text, signChars]
  split
  next positive =>
    have value : (n.toInt.natAbs : Int) = n.toInt := Int.natAbs_of_nonneg positive
    rw [List.nil_append, readNumber.eq_def]
    split
    next rest heq =>
      exfalso
      have digit := Nat.isDigit_of_mem_toDigits (by decide) (by decide)
        (show '-' ∈ Nat.toDigits 10 n.toInt.natAbs by simp [heq])
      cases digit
    next =>
      rw [read, NumberReader.whole, if_neg Bool.false_ne_true, value]
  next negative =>
    have value : -(n.toInt.natAbs : Int) = n.toInt := by omega
    have small : ¬ (n.toInt.natAbs = 0 ∨ twoPow 63 < n.toInt.natAbs) := by omega
    change NumberReader.unsigned true (Nat.toDigits 10 n.toInt.natAbs) = _
    rw [read, NumberReader.whole, if_pos rfl, if_neg small, value]

/-- The four hexadecimal digits of a control character denote it. -/
theorem hexDigits_of_control : ∀ n < 32,
    hexDigits 4 n = ['0', '0', (n / 16).digitChar, (n % 16).digitChar] ∧
      hexUnit? '0' '0' (n / 16).digitChar (n % 16).digitChar = some n := by
  decide

/-- An escaped character is read as this character. -/
theorem readString_escapeChar (c : Char) (read cs : List Char) :
    readString read (escapeChar c ++ cs) = readString (c :: read) cs := by
  rw [escapeChar]
  -- The characters whose escape is one letter.
  iterate 7
    split
    · subst_vars
      rfl
  split
  next control =>
    obtain ⟨digits, unit⟩ := hexDigits_of_control c.toNat control
    have noTrail : ¬ (0xDC00 ≤ c.toNat ∧ c.toNat < 0xE000) := by omega
    have noLead : ¬ (0xD800 ≤ c.toNat ∧ c.toNat < 0xDC00) := by omega
    rw [digits]
    simp [readString, unit, noTrail, noLead]
  next _ backslash _ _ _ _ _ plain =>
    simp [readString, backslash, plain]

theorem readString_flatMap (s read tail : List Char) :
    readString read (s.flatMap escapeChar ++ '"' :: tail) =
      .ok (String.ofList (read.reverse ++ s), tail) := by
  induction s generalizing read with
  | nil =>
      rw [List.flatMap_nil, List.nil_append, List.append_nil]
      rfl
  | cons c s ih =>
      rw [List.flatMap_cons, List.append_assoc, readString_escapeChar, ih, List.reverse_cons,
        List.append_assoc, List.singleton_append]

theorem stringChars_append (s : String) (tail : List Char) :
    stringChars s ++ tail = '"' :: (s.toList.flatMap escapeChar ++ '"' :: tail) := by
  rw [stringChars, List.cons_append, List.append_assoc, List.singleton_append]

/-- A string is read up to its quote. -/
theorem readString_stringChars (s : String) (tail : List Char) :
    readString [] (s.toList.flatMap escapeChar ++ '"' :: tail) = .ok (s, tail) := by
  rw [readString_flatMap, List.reverse_nil, List.nil_append, String.ofList_toList]

end TreeTable.Json
