import Mathlib.Data.List.TakeWhile
import TreeTable.Proofs.Path.Lexing
import TreeTable.Proofs.Path.Running

/-! # Where errors point

A cursor stands in a text when what is left is what the text has from its position on. Reading a
lexeme moves it to a later place in the same text, so every lexeme of a stream stands between its
two places, and the end of the text is met behind its last character. An error of the parser is
about the lexeme that it takes in, and an error of the lexer about one character. So every position
that is reported is that of a character which the error is about, or the end of the text.
-/

namespace TreeTable.Path

open Outcome Text

/-- A character stands at a place in a text. -/
def HasAt (text : List Char) (position : Nat) (c : Char) : Prop :=
  ∃ inside : position < text.length, text[position] = c

theorem hasAt_of_drop {text rest : List Char} {position : Nat} {c : Char}
    (h : text.drop position = c :: rest) : HasAt text position c := by
  have found : text[position]? = some c := by rw [← List.head?_drop, h, List.head?_cons]
  exact List.getElem?_eq_some_iff.mp found

/-- The characters that a lexer error is about. -/
def LexCause.Blames : LexCause → Char → Prop
  | openPattern, c => c = '/'
  | nestedIndex, c => c = '['
  | openIndex, c => c = '['
  | strayCharacter found, c => c = found ∧ (c = ']' ∨ c = '\x7b' ∨ c = '\x7d')

def LexError.PointsInto (text : List Char) (error : LexError) : Prop :=
  ∃ c, HasAt text error.position c ∧ error.cause.Blames c

/-- An error names the whole text, and its position is that of a character which it is about. The
end of the text is unexpected behind the last character, and anything else before it. -/
def ParseError.PointsInto (text : String) : ParseError → Prop
  | lex path error => path = text ∧ error.PointsInto text.toList
  | unexpected path found position =>
      path = text ∧ position ≤ text.length ∧
        (position = text.length ↔ found.describe = "end of input")
  | empty => ∀ c ∈ text.toList, isBlank c = true
  | invalidIndex path _ position => path = text ∧ HasAt text.toList position '['
  | pattern path _ => path = text
  | unsupported path position => path = text ∧ HasAt text.toList position '!'

/-- A selection does not end when the text ends first, or when another one begins in it. -/
theorem readIndex_error {cs after : List Char} {cause : LexCause}
    (h : readIndex cs = .error (cause, after)) : cause = .openIndex ∨
      cause = .nestedIndex ∧ after <:+ cs ∧ ∃ rest, after = '[' :: rest := by
  fun_induction readIndex cs with
  | case1 =>
      cases h
      exact .inl rfl
  | case2 => cases h
  | case3 rest =>
      cases h
      exact .inr ⟨rfl, List.suffix_refl _, rest, rfl⟩
  | case4 c rest _ _ ih =>
      cases hread : readIndex rest with
      | ok result =>
          rw [hread] at h
          cases h
      | error fault =>
          rw [hread] at h
          cases h
          rcases ih hread with hopen | ⟨nested, suffix, bracket⟩
          · exact .inl hopen
          · exact .inr ⟨nested, suffix.trans (List.suffix_cons c rest), bracket⟩

namespace Cursor

/-- A cursor stands in a text. -/
structure StandsIn (text : List Char) (cursor : Cursor) : Prop where
  inside : cursor.position ≤ text.length
  rest_eq : cursor.rest = text.drop cursor.position

variable {text : List Char} {cursor : Cursor}

theorem standsIn_ofText (text : String) : (ofText text).StandsIn text.toList :=
  ⟨Nat.zero_le _, rfl⟩

theorem StandsIn.moveTo (h : cursor.StandsIn text) {rest : List Char}
    (suffix : rest <:+ cursor.rest) (atStep : Bool) :
    (cursor.moveTo rest atStep).StandsIn text := by
  have left : cursor.rest.length = text.length - cursor.position := by
    rw [h.rest_eq, List.length_drop]
  have inside := h.inside
  refine ⟨?_, ?_⟩
  · change cursor.position + (cursor.rest.length - rest.length) ≤ text.length
    omega
  · change rest = text.drop (cursor.position + (cursor.rest.length - rest.length))
    rw [← List.drop_drop, ← h.rest_eq]
    exact List.suffix_iff_eq_drop.mp suffix

theorem StandsIn.skipBlanks (h : cursor.StandsIn text) : cursor.skipBlanks.StandsIn text :=
  h.moveTo (List.dropWhile_suffix isBlank) cursor.atStep

theorem StandsIn.hasAt (h : cursor.StandsIn text) {c : Char} {rest : List Char}
    (hrest : cursor.rest = c :: rest) : HasAt text cursor.position c :=
  hasAt_of_drop (h.rest_eq.symm.trans hrest)

/-- Nothing is left at the end of the text only. -/
theorem StandsIn.position_eq (h : cursor.StandsIn text) (hrest : cursor.rest = []) :
    cursor.position = text.length := by
  have none : text.drop cursor.position = [] := h.rest_eq.symm.trans hrest
  exact Nat.le_antisymm h.inside (List.drop_eq_nil_iff.mp none)

/-- A cursor at which no lexeme can be read stands at the character that is at fault, or before a
selection in which it stands. -/
theorem StandsIn.pointsInto (h : cursor.StandsIn text) {error : LexError}
    (hread : cursor.read = .error error) : error.PointsInto text := by
  obtain ⟨position, rest, atStep⟩ := cursor
  cases rest with
  | nil => cases hread
  | cons c rest =>
      have here : HasAt text position c := h.hasAt rfl
      by_cases hdelimiter : isDelimiter c = true
      · rcases isDelimiter_iff.mp hdelimiter with
          rfl | rfl | rfl | rfl | rfl | rfl | rfl | rfl | rfl | rfl
        · rw [read_index] at hread
          split at hread
          next => cases hread
          next after hindex =>
            cases hread
            rcases readIndex_error hindex with hopen | ⟨-, suffix, inner, rfl⟩
            · cases hopen
            · have nested := h.moveTo (suffix.trans (List.suffix_cons '[' rest)) true
              exact ⟨'[', nested.hasAt rfl, rfl⟩
          next cause after notNested hindex =>
            cases hread
            rcases readIndex_error hindex with rfl | ⟨rfl, -⟩
            · exact ⟨'[', here, rfl⟩
            · exact absurd rfl notNested
        · cases hread
          exact ⟨']', here, rfl, .inl rfl⟩
        · cases hread
          exact ⟨'\x7b', here, rfl, .inr (.inl rfl)⟩
        · cases hread
          exact ⟨'\x7d', here, rfl, .inr (.inr rfl)⟩
        all_goals cases hread
      · rw [Bool.not_eq_true] at hdelimiter
        by_cases hsign : atStep = true ∧ (c = '#' ∨ c = '/' ∨ c = '!')
        · obtain ⟨rfl, rfl | rfl | rfl⟩ := hsign
          · cases hread
          · rw [read_pattern] at hread
            split at hread
            next => cases hread
            next =>
              cases hread
              exact ⟨'/', here, rfl⟩
          · cases hread
        · have noSign : atStep = true → c ≠ '#' ∧ c ≠ '/' ∧ c ≠ '!' := by
            intro hstep
            simpa [hstep, not_or] using hsign
          rw [read_key position hdelimiter noSign] at hread
          cases hread

/-- A lexeme that is read leads to a place in the same text. -/
theorem StandsIn.next (h : cursor.StandsIn text) {l : Lexeme} {next : Cursor}
    (hread : cursor.read = .ok (l, next)) : next.StandsIn text := by
  obtain ⟨readsAs, -⟩ := readsAs_of_read hread
  have moved := Except.ok.inj ((read_of_readsAs readsAs).symm.trans hread)
  rw [← (Prod.mk.inj moved).2]
  exact h.moveTo readsAs.suffix l.opensStep

end Cursor

/-- A lexeme other than the end stands in a text between two places. -/
structure Placed.StandsIn (text : List Char) (l : Placed) : Prop where
  notEnd : l.lexeme ≠ .finish
  inside : l.stop ≤ text.length
  readsAs : ∃ atStep, ReadsAs atStep (text.drop l.start) l.lexeme (text.drop l.stop)

namespace Placed.StandsIn

variable {text : List Char} {l : Placed}

theorem start_lt_stop (h : l.StandsIn text) : l.start < l.stop := by
  obtain ⟨atStep, readsAs⟩ := h.readsAs
  have shorter := readsAs.length_lt h.notEnd
  rw [List.length_drop, List.length_drop] at shorter
  have inside := h.inside
  omega

theorem start_lt_length (h : l.StandsIn text) : l.start < text.length :=
  Nat.lt_of_lt_of_le h.start_lt_stop h.inside

theorem hasAt_of_index (h : l.StandsIn text) {spec : String} (hl : l.lexeme = .index spec) :
    HasAt text l.start '[' := by
  obtain ⟨atStep, readsAs⟩ := h.readsAs
  rw [hl] at readsAs
  generalize hcs : text.drop l.start = cs at readsAs
  generalize text.drop l.stop = rest at readsAs
  cases readsAs with
  | index _ => exact hasAt_of_drop hcs

theorem hasAt_of_bang (h : l.StandsIn text) (hl : l.lexeme = .bang) :
    HasAt text l.start '!' := by
  obtain ⟨atStep, readsAs⟩ := h.readsAs
  rw [hl] at readsAs
  generalize hcs : text.drop l.start = cs at readsAs
  generalize text.drop l.stop = rest at readsAs
  cases readsAs with
  | bang _ _ => exact hasAt_of_drop hcs

end Placed.StandsIn

namespace Stream

/-- The lexemes of a stream stand in a text, and it ends behind the last character or with an error
that points into the text. -/
def StandsIn (text : List Char) : Stream → Prop
  | finish position => position = text.length
  | fault error => error.PointsInto text
  | cons head tail => head.StandsIn text ∧ tail.StandsIn text

theorem standsIn_read {text : List Char} {fuel : Nat} {cursor : Cursor}
    (enough : cursor.rest.length < fuel) (h : cursor.StandsIn text) :
    (read fuel cursor).StandsIn text := by
  induction fuel generalizing cursor with
  | zero => exact absurd enough (Nat.not_lt_zero _)
  | succ fuel ih =>
      rw [read]
      have start := h.skipBlanks
      cases hread : cursor.skipBlanks.read with
      | error error => exact start.pointsInto hread
      | ok result =>
          obtain ⟨l, next⟩ := result
          obtain ⟨readsAs, -⟩ := Cursor.readsAs_of_read hread
          have behind := start.next hread
          by_cases hl : l = .finish
          · subst hl
            generalize next.rest = rest at readsAs
            generalize hcs : cursor.skipBlanks.rest = cs at readsAs
            cases readsAs
            exact start.position_eq hcs
          · have shorter : next.rest.length < cursor.rest.length := length_lt_of_readsAs readsAs hl
            have placed : Placed.StandsIn text ⟨l, cursor.skipBlanks.position, next.position⟩ :=
              ⟨hl, behind.inside, _, start.rest_eq ▸ behind.rest_eq ▸ readsAs⟩
            have tail := ih (Nat.lt_of_lt_of_le shorter (Nat.le_of_lt_succ enough)) behind
            cases l with
            | finish => exact absurd rfl hl
            | _ => exact ⟨placed, tail⟩

theorem standsIn_ofText (text : String) : (ofText text).StandsIn text.toList :=
  standsIn_read (Nat.lt_succ_self _) (Cursor.standsIn_ofText text)

end Stream

theorem describe_eq_iff {l : Lexeme} : l.describe = "end of input" ↔ l = .finish := by
  constructor
  · intro h
    -- All other descriptions begin with another character.
    have first := congrArg (fun text => text.toList.head?) h
    cases l <;> simp [Lexeme.describe, String.toList_append] at first ⊢
  · rintro rfl
    rfl

namespace ParserState

/-- What is wrong with a lexeme that the parser does not take in. -/
inductive Refuses (path : String) (l : Placed) : ParseError → Prop where
  | unexpected : Refuses path l (.unexpected path l.lexeme l.start)
  | invalidIndex (text selector : String) (h : l.lexeme = .index text) :
      Refuses path l (.invalidIndex path selector l.start)
  | pattern (source : String) : Refuses path l (.pattern path source)
  | unsupported (h : l.lexeme = .bang) : Refuses path l (.unsupported path l.start)

variable {s : ParserState} {path : String} {l : Placed} {error : ParseError}

theorem refuses_of_addSelection {key text : String} (hl : l.lexeme = .index text)
    (h : s.addSelection path key text l.start = .error error) : Refuses path l error := by
  rw [addSelection] at h
  split at h
  next => cases h
  next selector _ =>
    cases h
    exact .invalidIndex text selector hl

theorem refuses_of_beginStep (h : s.beginStep path l = .error error) : Refuses path l error := by
  obtain ⟨lexeme, start, stop⟩ := l
  cases lexeme with
  | index text => exact refuses_of_addSelection rfl h
  | pattern source =>
      simp only [beginStep] at h
      split at h
      next => cases h
      next =>
        cases h
        exact .pattern source
  | bang =>
      cases h
      exact .unsupported rfl
  | literal | name | lookupStart => cases h
  | _ =>
      cases h
      exact .unexpected

theorem refuses_of_afterStep (h : s.afterStep path l = .error error) : Refuses path l error := by
  obtain ⟨lexeme, start, stop⟩ := l
  cases lexeme with
  | dot | bar | ampersand | comma => cases h
  | lookupEnd =>
      simp only [afterStep] at h
      split at h
      next => cases h
      next =>
        cases h
        exact .unexpected
  | _ =>
      cases h
      exact .unexpected

theorem refuses_of_advance (h : s.advance path l = .error error) : Refuses path l error := by
  rcases s.advance_cases path l with ⟨-, hbegin⟩ | ⟨key, text, -, hl, hadd⟩ | ⟨-, hafter⟩
  · exact refuses_of_beginStep (hbegin.symm.trans h)
  · exact refuses_of_addSelection hl (hadd.symm.trans h)
  · exact refuses_of_afterStep (hafter.symm.trans h)

theorem Refuses.pointsInto {text : String} (h : Refuses text l error)
    (stands : l.StandsIn text.toList) : error.PointsInto text := by
  cases h with
  | unexpected =>
      have before : l.start < text.length := by
        rw [← String.length_toList]
        exact stands.start_lt_length
      refine ⟨rfl, Nat.le_of_lt before, ?_⟩
      rw [describe_eq_iff]
      exact ⟨fun last => absurd last (Nat.ne_of_lt before), fun ended => absurd ended stands.notEnd⟩
  | invalidIndex spec selector hl => exact ⟨rfl, stands.hasAt_of_index hl⟩
  | pattern source => rfl
  | unsupported hl => exact ⟨rfl, stands.hasAt_of_bang hl⟩

theorem error_of_finish {position : Nat} (h : s.finish path position = .error error) :
    error = .unexpected path .finish position := by
  obtain ⟨level, outer, expecting⟩ := s
  cases outer with
  | cons level outer =>
      cases h
      rfl
  | nil =>
      cases expecting with
      | step =>
          cases h
          rfl
      | selection key => cases h
      | separator => cases h

end ParserState

/-- A stream that stands in a text is refused with an error that points into the text. -/
theorem pointsInto_of_parseStream {text : String} {stream : Stream} {s : ParserState}
    {error : ParseError} (stands : stream.StandsIn text.toList)
    (h : parseStream text stream s = .error error) : error.PointsInto text := by
  induction stream generalizing s with
  | finish position =>
      obtain rfl := ParserState.error_of_finish h
      obtain rfl : position = text.toList.length := stands
      exact ⟨rfl, Nat.le_of_eq String.length_toList, iff_of_true String.length_toList rfl⟩
  | fault fault =>
      cases h
      exact ⟨rfl, stands⟩
  | cons head tail ih =>
      rw [parseStream] at h
      cases hadvance : s.advance text head with
      | error refused =>
          rw [hadvance] at h
          cases h
          exact (ParserState.refuses_of_advance hadvance).pointsInto stands.1
      | ok next =>
          rw [hadvance] at h
          exact ih stands.2 h

theorem trimStart_eq_nil_iff {cs : List Char} :
    trimStart cs = [] ↔ ∀ c ∈ cs, isBlank c = true := by
  rw [trimStart, List.dropWhile_eq_nil_iff]

/-- A text has no lexemes when it is blank. -/
theorem Stream.blank_of_ofText {text : String} {position : Nat}
    (h : Stream.ofText text = .finish position) : ∀ c ∈ text.toList, isBlank c = true := by
  rw [← trimStart_eq_nil_iff]
  rcases Stream.read_cases text.toList.length (Cursor.ofText text) with
    ⟨error, hfault⟩ | hblank | ⟨l, rest, hl, notEnd⟩
  · cases h.symm.trans hfault
  · exact hblank
  · obtain ⟨head, next, -, -, -, hread⟩ := Stream.read_of_readsAs text.toList.length hl notEnd
    cases h.symm.trans hread

/-- Exactly blank texts are empty, and an error points at what it is about: a lexer error at the
slash, the bracket or the brace that cannot be read, an invalid selection at its bracket, an
unsupported inverse at its sign, and an unexpected lexeme into the text, unless it is the end of
the text, which is behind the last character. All errors but that of an empty text name the whole
text. -/
theorem parse_error_pointsInto (text : String) :
    (parse text = .error .empty ↔ ∀ c ∈ text.toList, isBlank c = true) ∧
    ∀ error, parse text = .error error → error.PointsInto text := by
  have points (error : ParseError) (h : parse text = .error error) : error.PointsInto text := by
    have stands := Stream.standsIn_ofText text
    rw [parse] at h
    split at h
    next position hstream =>
      cases h
      exact Stream.blank_of_ofText hstream
    next => exact pointsInto_of_parseStream stands h
  refine ⟨⟨points .empty, ?_⟩, points⟩
  intro blank
  have ended : trimStart (Cursor.ofText text).rest = [] := trimStart_eq_nil_iff.mpr blank
  obtain ⟨position, hread⟩ := Stream.read_of_blank text.toList.length ended
  have hstream : Stream.ofText text = .finish position := hread
  rw [parse, hstream]

theorem parse_error_pointsInto_unclosed :
    let nested : ParseError := .lex "é . b [1[2]" ⟨.nestedIndex, 8⟩
    let ended : ParseError := .unexpected " < a.b[0] " .finish 10
    parse "é . b [1[2]" = .error nested ∧ nested.PointsInto "é . b [1[2]" ∧
      parse " < a.b[0] " = .error ended ∧ ended.PointsInto " < a.b[0] " := by
  intro nested ended
  have hnested : parse "é . b [1[2]" = .error nested := by decide +kernel
  have hended : parse " < a.b[0] " = .error ended := by decide +kernel
  exact ⟨hnested, (parse_error_pointsInto _).2 nested hnested,
    hended, (parse_error_pointsInto _).2 ended hended⟩

end TreeTable.Path
