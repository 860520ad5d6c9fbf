import TreeTable.Path.Lexer
import TreeTable.Proofs.Outcome

/-! # The lexemes of a text as a relation

One lexeme is read at a time: what stands at the place decides which, together with whether a
step may begin there, and the lexeme alone decides whether a step may begin behind it. Nothing
here depends on how far into the text the place is, so positions are left out.
-/

namespace TreeTable.Path

open Outcome Text

/-- Whether a step may begin behind a lexeme. -/
def Lexeme.opensStep : Lexeme → Bool
  | name _ => false
  | literal _ => false
  | pattern _ => false
  | index _ => false
  | lookupEnd => false
  | _ => true

/-- The first lexeme of characters that do not begin with a blank, and the characters behind
it. -/
inductive ReadsAs (atStep : Bool) : List Char → Lexeme → List Char → Prop where
  | finish : ReadsAs atStep [] .finish []
  | dot (rest : List Char) : ReadsAs atStep ('.' :: rest) .dot rest
  | comma (rest : List Char) : ReadsAs atStep (',' :: rest) .comma rest
  | ampersand (rest : List Char) : ReadsAs atStep ('&' :: rest) .ampersand rest
  | bar (rest : List Char) : ReadsAs atStep ('|' :: rest) .bar rest
  | lookupStart (rest : List Char) : ReadsAs atStep ('<' :: rest) .lookupStart rest
  | lookupEnd (rest : List Char) : ReadsAs atStep ('>' :: rest) .lookupEnd rest
  | index {rest text after : List Char} (h : readIndex rest = .ok (text, after)) :
      ReadsAs atStep ('[' :: rest) (.index (String.ofList text)) after
  | literal (rest : List Char) (step : atStep = true) :
      ReadsAs atStep ('#' :: rest) (.literal (String.ofList (readLiteral rest).1))
        (readLiteral rest).2
  | pattern {rest source after : List Char} (step : atStep = true)
      (h : readPattern rest = some (source, after)) :
      ReadsAs atStep ('/' :: rest) (.pattern (String.ofList source)) after
  | bang (rest : List Char) (step : atStep = true) : ReadsAs atStep ('!' :: rest) .bang rest
  | name {c : Char} {rest : List Char} (isKey : isDelimiter c = false)
      (noSign : atStep = true → c ≠ '#' ∧ c ≠ '/' ∧ c ≠ '!') :
      ReadsAs atStep (c :: rest)
        (.name (String.ofList (trimEnd ((c :: rest).takeWhile (!isDelimiter ·)))))
        ((c :: rest).dropWhile (!isDelimiter ·))

namespace Cursor

/-- A character that is no delimiter, and no sign where a step may begin, begins a key. -/
theorem read_key {c : Char} {rest : List Char} {atStep : Bool} (position : Nat)
    (isKey : isDelimiter c = false) (noSign : atStep = true → c ≠ '#' ∧ c ≠ '/' ∧ c ≠ '!') :
    read ⟨position, c :: rest, atStep⟩ =
      .ok (.name (String.ofList (trimEnd ((c :: rest).takeWhile (!isDelimiter ·)))),
        moveTo ⟨position, c :: rest, atStep⟩ ((c :: rest).dropWhile (!isDelimiter ·)) false) := by
  simp only [isDelimiter, Bool.or_eq_false_iff, beq_eq_false_iff_ne] at isKey
  obtain ⟨⟨⟨⟨⟨⟨⟨⟨⟨h1, h2⟩, h3⟩, h4⟩, h5⟩, h6⟩, h7⟩, h8⟩, h9⟩, h10⟩ := isKey
  unfold read
  dsimp only
  rw [if_neg h8, if_neg h7, if_neg h6, if_neg h5, if_neg h9, if_neg h10, if_neg h1,
    if_neg (by simp [h2, h3, h4])]
  cases atStep with
  | false => rfl
  | true =>
      obtain ⟨hash, slash, bang⟩ := noSign rfl
      rw [if_pos rfl, if_neg hash, if_neg slash, if_neg bang]

theorem read_index (position : Nat) (rest : List Char) (atStep : Bool) :
    read ⟨position, '[' :: rest, atStep⟩ =
      match readIndex rest with
      | .ok (text, after) =>
          .ok (.index (String.ofList text), moveTo ⟨position, '[' :: rest, atStep⟩ after false)
      | .error (.nestedIndex, after) =>
          .error ⟨.nestedIndex, position + (('[' :: rest).length - after.length)⟩
      | .error (cause, _) => .error ⟨cause, position⟩ := rfl

theorem read_pattern (position : Nat) (rest : List Char) :
    read ⟨position, '/' :: rest, true⟩ =
      match readPattern rest with
      | some (source, after) =>
          .ok (.pattern (String.ofList source), moveTo ⟨position, '/' :: rest, true⟩ after false)
      | none => .error ⟨.openPattern, position⟩ := rfl

theorem isDelimiter_iff {c : Char} : isDelimiter c = true ↔
    c = '[' ∨ c = ']' ∨ c = '\x7b' ∨ c = '\x7d' ∨ c = '|' ∨ c = '&' ∨ c = ',' ∨ c = '.' ∨
      c = '<' ∨ c = '>' := by
  simp [isDelimiter, or_assoc]

theorem readsAs_of_read {cursor next : Cursor} {l : Lexeme} (h : cursor.read = .ok (l, next)) :
    ReadsAs cursor.atStep cursor.rest l next.rest ∧ next.atStep = l.opensStep := by
  obtain ⟨position, rest, atStep⟩ := cursor
  cases rest with
  | nil =>
      cases h
      exact ⟨.finish, rfl⟩
  | cons c rest =>
      -- A delimiter is a lexeme, opens a selection or is an error; anything else begins a key,
      -- unless it is a sign where a step may begin.
      by_cases hdelimiter : isDelimiter c = true
      · rcases isDelimiter_iff.mp hdelimiter with
          rfl | rfl | rfl | rfl | rfl | rfl | rfl | rfl | rfl | rfl
        · rw [read_index] at h
          split at h
          next text after hindex =>
            cases h
            exact ⟨.index hindex, rfl⟩
          next => cases h
          next => cases h
        · cases h
        · cases h
        · cases h
        · cases h
          exact ⟨.bar rest, rfl⟩
        · cases h
          exact ⟨.ampersand rest, rfl⟩
        · cases h
          exact ⟨.comma rest, rfl⟩
        · cases h
          exact ⟨.dot rest, rfl⟩
        · cases h
          exact ⟨.lookupStart rest, rfl⟩
        · cases h
          exact ⟨.lookupEnd rest, rfl⟩
      · rw [Bool.not_eq_true] at hdelimiter
        by_cases hsign : atStep = true ∧ (c = '#' ∨ c = '/' ∨ c = '!')
        · obtain ⟨rfl, rfl | rfl | rfl⟩ := hsign
          · cases h
            exact ⟨.literal rest rfl, rfl⟩
          · rw [read_pattern] at h
            split at h
            next source after hpattern =>
              cases h
              exact ⟨.pattern rfl hpattern, rfl⟩
            next => cases h
          · cases h
            exact ⟨.bang rest rfl, rfl⟩
        · have noSign : atStep = true → c ≠ '#' ∧ c ≠ '/' ∧ c ≠ '!' := by
            intro hstep
            simpa [hstep, not_or] using hsign
          rw [read_key position hdelimiter noSign] at h
          cases h
          exact ⟨.name hdelimiter noSign, rfl⟩

theorem read_of_readsAs {cursor : Cursor} {l : Lexeme} {rest : List Char}
    (h : ReadsAs cursor.atStep cursor.rest l rest) :
    cursor.read = .ok (l, cursor.moveTo rest l.opensStep) := by
  obtain ⟨position, cs, atStep⟩ := cursor
  cases h with
  | index h =>
      rw [read_index, h]
      rfl
  | literal rest step =>
      obtain rfl : atStep = true := step
      rfl
  | pattern step h =>
      obtain rfl : atStep = true := step
      rw [read_pattern, h]
      rfl
  | bang rest step =>
      obtain rfl : atStep = true := step
      rfl
  | name isKey noSign => exact read_key position isKey noSign
  | _ => rfl

end Cursor

theorem readLiteral_suffix (cs : List Char) : (readLiteral cs).2 <:+ cs := by
  fun_induction readLiteral cs with
  | case1 => exact List.suffix_refl []
  | case2 => exact List.nil_suffix
  | case3 c rest text after hread ih =>
      rw [hread] at ih
      exact (ih.trans (List.suffix_cons c rest)).trans (List.suffix_cons '\\' _)
  | case4 c rest => exact List.suffix_refl _
  | case5 c rest _ _ _ text after hread ih =>
      rw [hread] at ih
      exact ih.trans (List.suffix_cons c rest)

/-- A pattern is read up to a slash. -/
theorem readPattern_eq {cs source after : List Char} (h : readPattern cs = some (source, after)) :
    ∃ inner, cs = inner ++ '/' :: after := by
  fun_induction readPattern cs generalizing source with
  | case1 => cases h
  | case2 rest =>
      cases h
      exact ⟨[], rfl⟩
  | case3 => cases h
  | case4 c rest ih =>
      obtain ⟨⟨source, after⟩, hread, heq⟩ := Option.map_eq_some_iff.mp h
      cases heq
      obtain ⟨inner, rfl⟩ := ih hread
      exact ⟨'\\' :: c :: inner, rfl⟩
  | case5 c rest _ _ _ ih =>
      obtain ⟨⟨source, after⟩, hread, heq⟩ := Option.map_eq_some_iff.mp h
      cases heq
      obtain ⟨inner, rfl⟩ := ih hread
      exact ⟨c :: inner, rfl⟩

theorem readPattern_suffix {cs source after : List Char}
    (h : readPattern cs = some (source, after)) : after <:+ cs := by
  obtain ⟨inner, rfl⟩ := readPattern_eq h
  exact (List.suffix_cons '/' after).trans (List.suffix_append inner _)

/-- A selection is what stands before its closing bracket. -/
theorem readIndex_eq {cs text after : List Char} (h : readIndex cs = .ok (text, after)) :
    cs = text ++ ']' :: after := by
  fun_induction readIndex cs generalizing text with
  | case1 => cases h
  | case2 rest =>
      cases h
      rfl
  | case3 => cases h
  | case4 c rest _ _ ih =>
      obtain ⟨⟨text, after⟩, hread, heq⟩ := map_eq_ok_iff.mp h
      cases heq
      rw [List.cons_append, ← ih hread]

theorem readIndex_suffix {cs text after : List Char} (h : readIndex cs = .ok (text, after)) :
    after <:+ cs := by
  rw [readIndex_eq h]
  exact (List.suffix_cons ']' after).trans (List.suffix_append text _)

/-- What a lexeme leaves is the end of what it was read from. -/
theorem ReadsAs.suffix {atStep : Bool} {cs rest : List Char} {l : Lexeme}
    (h : ReadsAs atStep cs l rest) : rest <:+ cs := by
  cases h with
  | finish => exact List.suffix_refl []
  | index h => exact (readIndex_suffix h).trans (List.suffix_cons '[' _)
  | literal rest step => exact (readLiteral_suffix rest).trans (List.suffix_cons '#' rest)
  | pattern step h => exact (readPattern_suffix h).trans (List.suffix_cons '/' _)
  | name isKey noSign => exact List.dropWhile_suffix _
  | _ => exact List.suffix_cons _ _

/-- Every lexeme but the end of the text takes a character. -/
theorem ReadsAs.length_lt {atStep : Bool} {cs rest : List Char} {l : Lexeme}
    (h : ReadsAs atStep cs l rest) (notEnd : l ≠ .finish) : rest.length < cs.length := by
  cases h with
  | finish => exact absurd rfl notEnd
  | index h => exact Nat.lt_succ_of_le (readIndex_suffix h).length_le
  | literal rest step => exact Nat.lt_succ_of_le (readLiteral_suffix rest).length_le
  | pattern step h => exact Nat.lt_succ_of_le (readPattern_suffix h).length_le
  | @name c rest isKey noSign =>
      rw [List.dropWhile_cons_of_pos (by simp [isKey])]
      exact Nat.lt_succ_of_le (List.dropWhile_suffix _).length_le
  | _ => exact Nat.lt_succ_self _

/-- Lexemes that stand one after another, blanks between them, up to some rest. -/
inductive Lexes : Bool → List Char → List Lexeme → Bool → List Char → Prop where
  | nil (atStep : Bool) (cs : List Char) : Lexes atStep cs [] atStep cs
  | cons {atStep after : Bool} {cs middle rest : List Char} {l : Lexeme} {lexemes : List Lexeme}
      (h : ReadsAs atStep (trimStart cs) l middle) (notEnd : l ≠ .finish)
      (more : Lexes l.opensStep middle lexemes after rest) :
      Lexes atStep cs (l :: lexemes) after rest

theorem Lexes.append {first middle last : Bool} {cs between rest : List Char}
    {lexemes more : List Lexeme} (h : Lexes first cs lexemes middle between)
    (hmore : Lexes middle between more last rest) :
    Lexes first cs (lexemes ++ more) last rest := by
  induction h with
  | nil => exact hmore
  | cons h notEnd _ ih => exact .cons h notEnd (ih hmore)

namespace Stream

/-- Blanks up to the end of the text end the stream. -/
theorem read_of_blank (fuel : Nat) {cursor : Cursor} (h : trimStart cursor.rest = []) :
    ∃ position, read (fuel + 1) cursor = finish position := by
  have readsAs : ReadsAs cursor.skipBlanks.atStep cursor.skipBlanks.rest .finish [] := by
    change ReadsAs _ (trimStart cursor.rest) _ _
    rw [h]
    exact .finish
  rw [read, Cursor.read_of_readsAs readsAs]
  exact ⟨_, rfl⟩

/-- A lexeme behind blanks is the head of the stream. -/
theorem read_of_readsAs (fuel : Nat) {cursor : Cursor} {l : Lexeme} {rest : List Char}
    (h : ReadsAs cursor.atStep (trimStart cursor.rest) l rest) (notEnd : l ≠ .finish) :
    ∃ head next, head.lexeme = l ∧ next.rest = rest ∧ next.atStep = l.opensStep ∧
      read (fuel + 1) cursor = cons head (read fuel next) := by
  have readsAs : ReadsAs cursor.skipBlanks.atStep cursor.skipBlanks.rest l rest := h
  rw [read, Cursor.read_of_readsAs readsAs]
  cases l with
  | finish => exact absurd rfl notEnd
  | _ => exact ⟨_, _, rfl, rfl, rfl, rfl⟩

/-- A stream that is no fault begins with a lexeme or has none. -/
theorem read_cases (fuel : Nat) (cursor : Cursor) :
    (∃ error, read (fuel + 1) cursor = fault error) ∨ trimStart cursor.rest = [] ∨
      ∃ l rest, ReadsAs cursor.atStep (trimStart cursor.rest) l rest ∧ l ≠ .finish := by
  cases hread : cursor.skipBlanks.read with
  | error error =>
      left
      rw [read, hread]
      exact ⟨error, rfl⟩
  | ok result =>
      obtain ⟨l, next⟩ := result
      right
      obtain ⟨readsAs, -⟩ := Cursor.readsAs_of_read hread
      by_cases hl : l = .finish
      · subst hl
        left
        generalize hrest : next.rest = rest at readsAs
        generalize hcs : cursor.skipBlanks.rest = cs at readsAs
        cases readsAs
        exact hcs
      · exact .inr ⟨l, next.rest, readsAs, hl⟩

/-- What a lexeme leaves is shorter than what the stream was read from. -/
theorem length_lt_of_readsAs {atStep : Bool} {cs rest : List Char} {l : Lexeme}
    (h : ReadsAs atStep (trimStart cs) l rest) (notEnd : l ≠ .finish) :
    rest.length < cs.length := by
  have shorter := h.length_lt notEnd
  have trimmed : (trimStart cs).length ≤ cs.length := (List.dropWhile_suffix isBlank).length_le
  omega

theorem toLexemes_of_lexes {fuel : Nat} {cursor : Cursor} {lexemes : List Lexeme} {after : Bool}
    {rest : List Char} (enough : cursor.rest.length < fuel)
    (h : Lexes cursor.atStep cursor.rest lexemes after rest) (blank : trimStart rest = []) :
    (read fuel cursor).toLexemes = .ok (lexemes ++ [.finish]) := by
  induction fuel generalizing cursor lexemes with
  | zero => exact absurd enough (Nat.not_lt_zero _)
  | succ fuel ih =>
      obtain ⟨position, cs, atStep⟩ := cursor
      cases h with
      | nil =>
          obtain ⟨position, hread⟩ := read_of_blank fuel blank
          rw [hread]
          rfl
      | cons h notEnd more =>
          have shorter := length_lt_of_readsAs h notEnd
          obtain ⟨head, next, rfl, rfl, hnext, hread⟩ := read_of_readsAs fuel h notEnd
          rw [← hnext] at more
          have tail := ih (Nat.lt_of_lt_of_le shorter (Nat.le_of_lt_succ enough)) more
          rw [hread, toLexemes, tail]
          rfl

/-- The lexemes of a stream without a fault stand in the text up to its end. -/
theorem lexes_of_toLexemes {fuel : Nat} {cursor : Cursor} {lexemes : List Lexeme}
    (enough : cursor.rest.length < fuel)
    (h : (read fuel cursor).toLexemes = .ok (lexemes ++ [.finish])) :
    ∃ after rest, Lexes cursor.atStep cursor.rest lexemes after rest ∧ trimStart rest = [] := by
  induction fuel generalizing cursor lexemes with
  | zero => exact absurd enough (Nat.not_lt_zero _)
  | succ fuel ih =>
      rcases read_cases fuel cursor with ⟨error, hfault⟩ | hblank | ⟨l, middle, hl, notEnd⟩
      · rw [hfault] at h
        cases h
      · obtain ⟨position, hread⟩ := read_of_blank fuel hblank
        rw [hread] at h
        have alone : [Lexeme.finish] = lexemes ++ [.finish] := Except.ok.inj h
        obtain rfl : lexemes = [] := by simpa using alone
        exact ⟨_, _, .nil _ _, hblank⟩
      · have shorter := length_lt_of_readsAs hl notEnd
        obtain ⟨head, next, rfl, rfl, hnext, hread⟩ := read_of_readsAs fuel hl notEnd
        rw [hread, toLexemes, map_eq_ok_iff] at h
        obtain ⟨tail, htail, hcons⟩ := h
        cases lexemes with
        | nil => exact absurd (List.cons.inj hcons).1 notEnd
        | cons first others =>
            obtain ⟨rfl, rfl⟩ := List.cons.inj hcons
            obtain ⟨after, rest, hmore, blank⟩ :=
              ih (Nat.lt_of_lt_of_le shorter (Nat.le_of_lt_succ enough)) htail
            rw [hnext] at hmore
            exact ⟨after, rest, .cons hl notEnd hmore, blank⟩

end Stream

/-- The lexemes of a text are those that stand in it up to its end. -/
theorem tokenize_eq_ok_iff {text : String} {lexemes : List Lexeme} :
    tokenize text = .ok (lexemes ++ [.finish]) ↔
      ∃ after rest, Lexes true text.toList lexemes after rest ∧ trimStart rest = [] := by
  constructor
  · exact Stream.lexes_of_toLexemes (Nat.lt_succ_self _)
  · rintro ⟨after, rest, h, blank⟩
    exact Stream.toLexemes_of_lexes (Nat.lt_succ_self _) h blank

end TreeTable.Path
