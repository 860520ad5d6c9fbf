import TreeTable.Path.Selector
import TreeTable.Proofs.Numeric.IntegerText
import TreeTable.Proofs.Text.Span

/-! # The grammar of selections

A selection is written as parts between commas, each of them an integer, two integers with an
operator between them, or an integer with a plus sign behind it. A minus sign may begin an integer
and may stand between two of them: digits are read as far as they go, so the first sign behind them
is the operator. Reading accepts exactly the texts of this form, with blanks around the parts, and
blames the first part that is none.
-/

namespace TreeTable

open Numeric Text

theorem Numeric.naturalOfChars?_eq_some_iff {cs : List Char} {n : Nat} :
    naturalOfChars? cs = some n ↔
      cs ≠ [] ∧ (∀ c ∈ cs, c.isDigit = true) ∧ n = Nat.ofDigitChars 10 cs 0 := by
  have value : digitsValue 0 cs = Nat.ofDigitChars 10 cs 0 := Nat.ofDigitChars_eq_foldl.symm
  rw [naturalOfChars?, value]
  split
  next h =>
    rw [Option.some.injEq]
    exact ⟨fun hn => ⟨h.1, List.all_eq_true.mp h.2, hn.symm⟩, fun hn => hn.2.2.symm⟩
  next h =>
    refine iff_of_false (by simp) ?_
    rintro ⟨ne, digits, -⟩
    exact h ⟨ne, List.all_eq_true.mpr digits⟩

theorem Numeric.int64OfInt?_eq_some_iff {i : Int} {n : Int64} :
    int64OfInt? i = some n ↔ n.toInt = i := by
  constructor
  · exact toInt_of_int64OfInt?
  · rintro rfl
    exact int64OfInt?_toInt n

namespace Selector

/-- Texts of integers of 64 bits: ASCII digits, and a minus sign before them or none. -/
inductive Numeral : List Char → Int64 → Prop where
  | unsigned {digits : List Char} {n : Int64} (ne : digits ≠ [])
      (ascii : ∀ c ∈ digits, c.isDigit = true) (value : n.toInt = Nat.ofDigitChars 10 digits 0) :
      Numeral digits n
  | negative {digits : List Char} {n : Int64} (ne : digits ≠ [])
      (ascii : ∀ c ∈ digits, c.isDigit = true)
      (value : n.toInt = -(Nat.ofDigitChars 10 digits 0 : Int)) : Numeral ('-' :: digits) n

/-- Texts of selectors. -/
inductive Denotes : List Char → Selector → Prop where
  | position {cs : List Char} {n : Int64} (h : Numeral cs n) : Denotes cs (.position n)
  | hyphen {first last : List Char} {n m : Int64} (hfirst : Numeral first n)
      (hlast : Numeral last m) : Denotes (first ++ '-' :: last) (.range n m true)
  | inclusive {first last : List Char} {n m : Int64} (hfirst : Numeral first n)
      (hlast : Numeral last m) : Denotes (first ++ '.' :: '.' :: last) (.range n m true)
  | exclusive {first last : List Char} {n m : Int64} (hfirst : Numeral first n)
      (hlast : Numeral last m) : Denotes (first ++ '.' :: '.' :: '.' :: last) (.range n m false)
  | onward {cs : List Char} {n : Int64} (h : Numeral cs n) : Denotes (cs ++ ['+']) (.onward n)

/-- Behind a minus sign, an integer is its negated digits. -/
theorem readInteger_minus (cs : List Char) :
    readInteger ('-' :: cs) = (naturalOfChars? (cs.takeWhile Char.isDigit)).bind fun n =>
      (int64OfInt? (-(n : Int))).map (·, cs.dropWhile Char.isDigit) := rfl

/-- Without a sign, an integer is its digits. -/
theorem readInteger_of_head_ne {cs : List Char} (h : ∀ c ∈ cs.head?, c ≠ '-') :
    readInteger cs = (naturalOfChars? (cs.takeWhile Char.isDigit)).bind fun n =>
      (int64OfInt? n).map (·, cs.dropWhile Char.isDigit) := by
  unfold readInteger
  split
  next negative digits heq =>
    split at heq
    next rest => exact absurd rfl (h '-' rfl)
    next =>
      cases heq
      rfl

theorem digit_ne_minus {c : Char} (h : c.isDigit = true) : c ≠ '-' := by
  rintro rfl
  cases h

/-- An integer begins with a digit or a minus sign. -/
theorem Numeral.head {cs : List Char} {n : Int64} (h : Numeral cs n) :
    ∃ c rest, cs = c :: rest ∧ (c.isDigit = true ∨ c = '-') := by
  cases h with
  | unsigned ne ascii _ =>
      obtain ⟨c, rest, rfl⟩ := List.exists_cons_of_ne_nil ne
      exact ⟨c, rest, rfl, .inl (ascii c List.mem_cons_self)⟩
  | negative => exact ⟨'-', _, rfl, .inr rfl⟩

/-- Reading an integer takes the text of one, as many digits as there are. -/
theorem readInteger_eq_some_iff {cs rest : List Char} {n : Int64} :
    readInteger cs = some (n, rest) ↔
      ∃ text, cs = text ++ rest ∧ Numeral text n ∧ ∀ c ∈ rest.head?, c.isDigit = false := by
  constructor
  · intro h
    have stop (cs : List Char) : ∀ c ∈ (cs.dropWhile Char.isDigit).head?, c.isDigit = false := by
      intro c hc
      have first := List.head?_dropWhile_not Char.isDigit cs
      rw [hc] at first
      simpa using first
    by_cases minus : ∃ tail, cs = '-' :: tail
    · obtain ⟨tail, rfl⟩ := minus
      rw [readInteger_minus] at h
      obtain ⟨k, hk, h⟩ := Option.bind_eq_some_iff.mp h
      obtain ⟨m, hm, heq⟩ := Option.map_eq_some_iff.mp h
      cases heq
      obtain ⟨ne, ascii, rfl⟩ := naturalOfChars?_eq_some_iff.mp hk
      refine ⟨'-' :: tail.takeWhile Char.isDigit, ?_, ?_, stop tail⟩
      · rw [List.cons_append, List.takeWhile_append_dropWhile]
      · exact .negative ne ascii (int64OfInt?_eq_some_iff.mp hm)
    · have unsigned : ∀ c ∈ cs.head?, c ≠ '-' := by
        rintro c hc rfl
        obtain ⟨tail, rfl⟩ := List.head?_eq_some_iff.mp hc
        exact minus ⟨tail, rfl⟩
      rw [readInteger_of_head_ne unsigned] at h
      obtain ⟨k, hk, h⟩ := Option.bind_eq_some_iff.mp h
      obtain ⟨m, hm, heq⟩ := Option.map_eq_some_iff.mp h
      cases heq
      obtain ⟨ne, ascii, rfl⟩ := naturalOfChars?_eq_some_iff.mp hk
      refine ⟨cs.takeWhile Char.isDigit, List.takeWhile_append_dropWhile.symm, ?_, stop cs⟩
      exact .unsigned ne ascii (int64OfInt?_eq_some_iff.mp hm)
  · rintro ⟨text, rfl, numeral, stop⟩
    cases numeral with
    | unsigned ne ascii value =>
        have noSign : ∀ c ∈ (text ++ rest).head?, c ≠ '-' := by
          obtain ⟨d, digits, rfl⟩ := List.exists_cons_of_ne_nil ne
          rintro c ⟨⟩
          exact digit_ne_minus (ascii _ List.mem_cons_self)
        rw [readInteger_of_head_ne noSign, takeWhile_append_stop ascii stop,
          dropWhile_append_stop ascii stop, naturalOfChars?_eq_some_iff.mpr ⟨ne, ascii, rfl⟩,
          Option.bind_some, int64OfInt?_eq_some_iff.mpr value]
        rfl
    | @negative digits _ ne ascii value =>
        rw [List.cons_append, readInteger_minus, takeWhile_append_stop ascii stop,
          dropWhile_append_stop ascii stop, naturalOfChars?_eq_some_iff.mpr ⟨ne, ascii, rfl⟩,
          Option.bind_some, int64OfInt?_eq_some_iff.mpr value]
        rfl

theorem wholeInteger?_eq_some_iff {cs : List Char} {n : Int64} :
    wholeInteger? cs = some n ↔ Numeral cs n := by
  rw [wholeInteger?]
  constructor
  · intro h
    split at h
    next m hread =>
      cases h
      obtain ⟨text, rfl, numeral, -⟩ := readInteger_eq_some_iff.mp hread
      rwa [List.append_nil]
    next => cases h
  · intro numeral
    have read : readInteger cs = some (n, []) :=
      readInteger_eq_some_iff.mpr ⟨cs, (List.append_nil cs).symm, numeral, nofun⟩
    rw [read]

theorem denotes_of_ofChars? {cs : List Char} {s : Selector} (h : ofChars? cs = some s) :
    Denotes cs s := by
  rw [ofChars?] at h
  obtain ⟨⟨n, rest⟩, hread, hrest⟩ := Option.bind_eq_some_iff.mp h
  obtain ⟨first, rfl, hfirst, -⟩ := readInteger_eq_some_iff.mp hread
  dsimp only at hrest
  split at hrest
  next =>
    cases hrest
    rw [List.append_nil]
    exact .position hfirst
  next =>
    cases hrest
    exact .onward hfirst
  next last =>
    obtain ⟨m, hlast, rfl⟩ := Option.map_eq_some_iff.mp hrest
    exact .exclusive hfirst (wholeInteger?_eq_some_iff.mp hlast)
  next last _ =>
    obtain ⟨m, hlast, rfl⟩ := Option.map_eq_some_iff.mp hrest
    exact .inclusive hfirst (wholeInteger?_eq_some_iff.mp hlast)
  next last =>
    obtain ⟨m, hlast, rfl⟩ := Option.map_eq_some_iff.mp hrest
    exact .hyphen hfirst (wholeInteger?_eq_some_iff.mp hlast)
  next => cases hrest

theorem ofChars?_of_denotes {cs : List Char} {s : Selector} (h : Denotes cs s) :
    ofChars? cs = some s := by
  -- An operator is no digit, so the integer before it is read up to it.
  have read {first rest : List Char} {n : Int64} (hfirst : Numeral first n)
      (stop : ∀ c ∈ rest.head?, c.isDigit = false) :
      readInteger (first ++ rest) = some (n, rest) :=
    readInteger_eq_some_iff.mpr ⟨first, rfl, hfirst, stop⟩
  cases h with
  | position h =>
      have alone : readInteger (cs ++ []) = some (_, []) := read h nofun
      rw [List.append_nil] at alone
      rw [ofChars?, alone]
      rfl
  | onward h =>
      rw [ofChars?, read h (by rintro c ⟨⟩; rfl)]
      rfl
  | hyphen hfirst hlast =>
      rw [ofChars?, read hfirst (by rintro c ⟨⟩; rfl)]
      simp [wholeInteger?_eq_some_iff.mpr hlast]
  | exclusive hfirst hlast =>
      rw [ofChars?, read hfirst (by rintro c ⟨⟩; rfl)]
      simp [wholeInteger?_eq_some_iff.mpr hlast]
  | inclusive hfirst hlast =>
      -- Two dots before an integer are not three.
      obtain ⟨c, rest, rfl, hc⟩ := hlast.head
      have noDot : c ≠ '.' := by
        rintro rfl
        rcases hc with hc | hc <;> cases hc
      rw [ofChars?, read hfirst (by rintro c ⟨⟩; rfl)]
      simp [wholeInteger?_eq_some_iff.mpr hlast, noDot]

/-- No text denotes two selectors. -/
theorem Denotes.unique {cs : List Char} {s other : Selector} (h : Denotes cs s)
    (hother : Denotes cs other) : s = other :=
  Option.some.inj ((ofChars?_of_denotes h).symm.trans (ofChars?_of_denotes hother))

end Selector

end TreeTable
