import TreeTable.Proofs.Path.CanonicalForm
import TreeTable.Proofs.Path.ErrorPositions

/-! # What lexemes cover

Lexemes are read one after another until the text ends or no lexeme can be read. A reading skips
blanks and takes the characters of one lexeme, at least one unless the text is at its end, and the
next reading begins where it stops. So no character is passed over but blanks, none is taken twice,
and there are at most as many readings as characters, and one more at the end.
-/

namespace TreeTable.Path

open Outcome Text

/-- What the characters that a lexeme takes are. -/
def Lexeme.Covers (span : List Char) : Lexeme → Prop
  | name key =>
      key.toList ≠ [] ∧ (∀ c ∈ key.toList, isDelimiter c = false) ∧ key.toList = trimEnd span
  | literal _ => ∃ inner, span = '#' :: inner
  | pattern _ => ∃ inner, span = '/' :: (inner ++ ['/'])
  | index text => span = '[' :: (text.toList ++ [']'])
  | lookupStart => span = ['<']
  | lookupEnd => span = ['>']
  | dot => span = ['.']
  | comma => span = [',']
  | ampersand => span = ['&']
  | bar => span = ['|']
  | bang => span = ['!']
  | finish => span = []

/-- A lexeme takes the characters up to what it leaves. -/
theorem ReadsAs.exists_covered {atStep : Bool} {cs rest : List Char} {l : Lexeme}
    (h : ReadsAs atStep cs l rest) (noBlank : ∀ c ∈ cs.head?, isBlank c = false) :
    ∃ span, cs = span ++ rest ∧ l.Covers span := by
  cases h with
  | finish => exact ⟨[], rfl, rfl⟩
  | @index rest text after h =>
      refine ⟨'[' :: (text ++ [']']), ?_, ?_⟩
      · rw [readIndex_eq h, List.cons_append, List.append_assoc]
        rfl
      · rw [Lexeme.Covers, String.toList_ofList]
  | literal rest step =>
      obtain ⟨taken, htaken⟩ := readLiteral_suffix rest
      refine ⟨'#' :: taken, ?_, taken, rfl⟩
      rw [List.cons_append, htaken]
  | pattern step h =>
      obtain ⟨inner, rfl⟩ := readPattern_eq h
      refine ⟨'/' :: (inner ++ ['/']), ?_, inner, rfl⟩
      rw [List.cons_append, List.append_assoc]
      rfl
  | @name c rest isKey noSign =>
      refine ⟨(c :: rest).takeWhile (!isDelimiter ·), List.takeWhile_append_dropWhile.symm, ?_⟩
      have taken : (c :: rest).takeWhile (!isDelimiter ·) =
          c :: rest.takeWhile (!isDelimiter ·) := by simp [isKey]
      obtain ⟨tail, hkept, htail⟩ :=
        trimEnd_cons (noBlank c rfl) (rest.takeWhile (!isDelimiter ·))
      rw [Lexeme.Covers, String.toList_ofList, taken, hkept]
      refine ⟨nofun, ?_, rfl⟩
      rw [List.forall_mem_cons]
      refine ⟨isKey, fun d hd => ?_⟩
      have passed := List.all_eq_true.mp List.all_takeWhile d (htail d hd)
      simpa using passed
  | _ => exact ⟨[_], rfl, rfl⟩

/-- The characters between the places of a lexeme. -/
def Placed.span (text : List Char) (l : Placed) : List Char := (text.take l.stop).drop l.start

/-- A lexeme covers the characters between its places in a text: at least one, unless it is the end
of the text, which has its place behind the last character. -/
structure Placed.SpansIn (text : List Char) (l : Placed) : Prop where
  start_lt_stop : l.lexeme ≠ .finish → l.start < l.stop
  finish : l.lexeme = .finish → l.start = text.length ∧ l.stop = text.length
  inside : l.stop ≤ text.length
  covers : l.lexeme.Covers (l.span text)

namespace Cursor

/-- Reads the lexeme behind the next blanks: the lexeme with its places, and the place behind it. -/
def readNext (cursor : Cursor) : Except LexError (Placed × Cursor) :=
  cursor.skipBlanks.read.map fun found =>
    (⟨found.1, cursor.skipBlanks.position, found.2.position⟩, found.2)

/-- Readings one after another until one gives the end of the text or fails: how many they are, the
lexemes that they give, the error, and the place behind the end of the text or before what cannot be
read. -/
inductive Readings : Nat → Cursor → List Placed → Option LexError → Cursor → Prop where
  | finish {cursor behind : Cursor} {last : Placed} (h : cursor.readNext = .ok (last, behind))
      (ended : last.lexeme = .finish) : Readings 1 cursor [last] none behind
  | fault {cursor : Cursor} {error : LexError} (h : cursor.readNext = .error error) :
      Readings 1 cursor [] (some error) cursor.skipBlanks
  | cons {count : Nat} {cursor next behind : Cursor} {head : Placed} {rest : List Placed}
      {error : Option LexError} (h : cursor.readNext = .ok (head, next))
      (notEnd : head.lexeme ≠ .finish) (more : Readings count next rest error behind) :
      Readings (count + 1) cursor (head :: rest) error behind

variable {text : List Char} {cursor next : Cursor} {l : Placed}

/-- Only blanks are skipped. -/
theorem StandsIn.blank_of_skipped (h : cursor.StandsIn text) {i : Nat} {c : Char}
    (behind : cursor.position ≤ i) (before : i < cursor.skipBlanks.position)
    (hc : text[i]? = some c) : isBlank c = true := by
  have split : cursor.rest.takeWhile isBlank ++ trimStart cursor.rest = cursor.rest :=
    List.takeWhile_append_dropWhile
  have lengths := congrArg List.length split
  rw [List.length_append] at lengths
  have skipped : i - cursor.position < (cursor.rest.takeWhile isBlank).length := by
    change i < cursor.position + (cursor.rest.length - (trimStart cursor.rest).length) at before
    omega
  have found : cursor.rest[i - cursor.position]? = some c := by
    rw [h.rest_eq, List.getElem?_drop, Nat.add_sub_cancel' behind, hc]
  rw [← split, List.getElem?_append_left skipped] at found
  exact List.all_eq_true.mp List.all_takeWhile c (List.mem_of_getElem? found)

theorem position_le_skipBlanks (cursor : Cursor) : cursor.position ≤ cursor.skipBlanks.position :=
  Nat.le_add_right _ _

/-- What one reading does: it moves on in the text, from behind blanks to behind a lexeme. -/
theorem StandsIn.readNext (h : cursor.StandsIn text) (hread : cursor.readNext = .ok (l, next)) :
    next.StandsIn text ∧ l.start = cursor.skipBlanks.position ∧ l.stop = next.position ∧
      l.SpansIn text := by
  obtain ⟨⟨lexeme, behind⟩, hlexeme, heq⟩ := map_eq_ok_iff.mp hread
  cases heq
  have start := h.skipBlanks
  have there := start.next hlexeme
  obtain ⟨readsAs, -⟩ := readsAs_of_read hlexeme
  obtain ⟨span, hspan, covers⟩ := readsAs.exists_covered (isBlank_head_trimStart cursor.rest)
  refine ⟨there, rfl, rfl, ?_, ?_, there.inside, ?_⟩
  · intro notEnd
    have shorter := readsAs.length_lt notEnd
    rw [start.rest_eq, there.rest_eq, List.length_drop, List.length_drop] at shorter
    dsimp only
    omega
  · rintro rfl
    generalize hcs : cursor.skipBlanks.rest = cs at readsAs
    generalize hrest : behind.rest = rest at readsAs
    cases readsAs
    exact ⟨start.position_eq hcs, there.position_eq hrest⟩
  · have taken : Placed.span text ⟨lexeme, cursor.skipBlanks.position, behind.position⟩ = span := by
      rw [start.rest_eq, there.rest_eq] at hspan
      have lengths := congrArg List.length hspan
      rw [List.length_append, List.length_drop, List.length_drop] at lengths
      have inside := start.inside
      have inside' := there.inside
      have width : behind.position - cursor.skipBlanks.position = span.length := by omega
      rw [Placed.span, List.drop_take, hspan, width, List.take_left']
      rfl
    rw [taken]
    exact covers

/-- Behind the end of the text, every reading gives the end again and stays where it is. -/
theorem StandsIn.readNext_again (h : cursor.StandsIn text)
    (hread : cursor.readNext = .ok (l, next)) (ended : l.lexeme = .finish) :
    next.position = text.length ∧
      next.readNext = .ok (⟨.finish, text.length, text.length⟩, next) := by
  obtain ⟨there, -, hstop, spans⟩ := h.readNext hread
  obtain ⟨⟨lexeme, behind⟩, hlexeme, heq⟩ := map_eq_ok_iff.mp hread
  cases heq
  obtain ⟨-, hstep⟩ := readsAs_of_read hlexeme
  obtain ⟨position, rest, atStep⟩ := behind
  obtain rfl : lexeme = .finish := ended
  obtain rfl : atStep = true := hstep
  obtain rfl : position = text.length := hstop.symm.trans (spans.finish rfl).2
  obtain rfl : rest = [] := there.rest_eq.trans List.drop_length
  exact ⟨rfl, rfl⟩

/-- What readings from a place on amount to: they are no more than the characters there and one, and
up to where they lead every character is a blank or stands in the span of one of their lexemes,
which follow one another. -/
structure Accounts (text : List Char) (start count : Nat) (lexemes : List Placed) (reached : Nat) :
    Prop where
  count_le : count + start ≤ text.length + 1
  spans : ∀ l ∈ lexemes, l.SpansIn text ∧ start ≤ l.start ∧ l.stop ≤ reached
  apart : lexemes.Pairwise fun first second =>
    first.start < second.start ∧ first.stop ≤ second.start
  accounted : ∀ i c, start ≤ i → i < reached → text[i]? = some c →
    isBlank c = true ∨ ∃ l ∈ lexemes, l.start ≤ i ∧ i < l.stop

/-- A reading that gives a lexeme before the end, and the readings behind it. -/
theorem Accounts.cons {count reached : Nat} {lexemes : List Placed} (h : cursor.StandsIn text)
    (hread : cursor.readNext = .ok (l, next)) (notEnd : l.lexeme ≠ .finish)
    (rest : Accounts text next.position count lexemes reached) (inside : next.position ≤ reached) :
    Accounts text cursor.position (count + 1) (l :: lexemes) reached := by
  obtain ⟨there, hstart, hstop, spans⟩ := h.readNext hread
  have skipped := cursor.position_le_skipBlanks
  have moved := spans.start_lt_stop notEnd
  have count_le := rest.count_le
  refine ⟨by omega, ?_, ?_, ?_⟩
  · rw [List.forall_mem_cons]
    refine ⟨⟨spans, by omega, by omega⟩, fun other hother => ?_⟩
    obtain ⟨others, later, before⟩ := rest.spans other hother
    exact ⟨others, by omega, before⟩
  · rw [List.pairwise_cons]
    refine ⟨fun other hother => ?_, rest.apart⟩
    obtain ⟨-, later, -⟩ := rest.spans other hother
    omega
  · intro i c behind before hc
    by_cases hskipped : i < cursor.skipBlanks.position
    · exact .inl (h.blank_of_skipped behind hskipped hc)
    · by_cases htaken : i < next.position
      · exact .inr ⟨l, List.mem_cons_self, by omega, by omega⟩
      · refine (rest.accounted i c (by omega) before hc).imp_right ?_
        rintro ⟨other, hother, among⟩
        exact ⟨other, List.mem_cons_of_mem l hother, among⟩

/-- Readings account for all that they pass. -/
theorem Readings.accounts {count : Nat} {lexemes : List Placed} {error : Option LexError}
    {behind : Cursor} (readings : Readings count cursor lexemes error behind)
    (h : cursor.StandsIn text) :
    Accounts text cursor.position count lexemes behind.position ∧
      cursor.position ≤ behind.position := by
  induction readings with
  | @finish cursor behind last hread ended =>
      obtain ⟨there, hstart, hstop, spans⟩ := h.readNext hread
      obtain ⟨atEnd, atEnd'⟩ := spans.finish ended
      have skipped := cursor.position_le_skipBlanks
      have inside := h.inside
      refine ⟨⟨by omega, ?_, List.pairwise_singleton _ last, ?_⟩, by omega⟩
      · rw [List.forall_mem_singleton]
        exact ⟨spans, by omega, by omega⟩
      · intro i c after before hc
        exact .inl (h.blank_of_skipped after (by omega) hc)
  | @fault cursor error hread =>
      have inside := h.inside
      refine ⟨⟨by omega, nofun, .nil, ?_⟩, cursor.position_le_skipBlanks⟩
      intro i c after before hc
      exact .inl (h.blank_of_skipped after before hc)
  | @cons count cursor next behind head rest error hread notEnd more ih =>
      obtain ⟨there, hstart, hstop, spans⟩ := h.readNext hread
      obtain ⟨others, inside⟩ := ih there
      have skipped := cursor.position_le_skipBlanks
      have moved := spans.start_lt_stop notEnd
      exact ⟨.cons h hread notEnd others inside, by omega⟩

/-- Readings that end without an error end behind the text, where every further one ends as well. -/
theorem Readings.ended {count : Nat} {lexemes : List Placed} {error : Option LexError}
    {behind : Cursor} (readings : Readings count cursor lexemes error behind)
    (h : cursor.StandsIn text) (noError : error = none) :
    behind.position = text.length ∧
      behind.readNext = .ok (⟨.finish, text.length, text.length⟩, behind) := by
  induction readings with
  | finish hread ended => exact h.readNext_again hread ended
  | fault => cases noError
  | cons hread _ _ ih => exact ih (h.readNext hread).1 noError

end Cursor

namespace Stream

open Cursor

/-- A stream is what readings give, if there is fuel for all of them. -/
theorem exists_readings {text : List Char} {fuel : Nat} {cursor : Cursor}
    (enough : cursor.rest.length < fuel) (h : cursor.StandsIn text) :
    ∃ count behind, Readings count cursor (read fuel cursor).placed.1 (read fuel cursor).placed.2
      behind := by
  induction fuel generalizing cursor with
  | zero => exact absurd enough (Nat.not_lt_zero _)
  | succ fuel ih =>
      rw [read]
      cases hread : cursor.skipBlanks.read with
      | error error =>
          have failed : cursor.readNext = .error error := by
            rw [readNext, hread]
            rfl
          exact ⟨1, cursor.skipBlanks, .fault failed⟩
      | ok found =>
          obtain ⟨l, next⟩ := found
          have given : cursor.readNext =
              .ok (⟨l, cursor.skipBlanks.position, next.position⟩, next) := by
            rw [readNext, hread]
            rfl
          obtain ⟨there, -, -, spans⟩ := h.readNext given
          by_cases hl : l = .finish
          · subst hl
            obtain ⟨hstart, hstop⟩ := spans.finish rfl
            have same : next.position = cursor.skipBlanks.position := hstop.trans hstart.symm
            rw [same] at given
            exact ⟨1, next, .finish given rfl⟩
          · obtain ⟨readsAs, -⟩ := readsAs_of_read hread
            have shorter : next.rest.length < cursor.rest.length := length_lt_of_readsAs readsAs hl
            obtain ⟨count, behind, readings⟩ :=
              ih (Nat.lt_of_lt_of_le shorter (Nat.le_of_lt_succ enough)) there
            refine ⟨count + 1, behind, ?_⟩
            cases l with
            | finish => exact absurd rfl hl
            | _ => exact .cons given hl readings

theorem toLexemes_eq (stream : Stream) :
    stream.toLexemes = match stream.placed.2 with
      | none => .ok (stream.placed.1.map Placed.lexeme)
      | some error => .error error := by
  induction stream with
  | finish position => rfl
  | fault error => rfl
  | cons head tail ih =>
      rw [toLexemes, ih, placed]
      cases tail.placed.2 <;> rfl

/-- Reading the lexemes of a text accounts for every character. It takes at most one reading more
than there are characters, and gives the lexemes of the text or the error that cuts them off. The
lexemes cover spans that are not empty, but for the end of the text behind the last character, that
follow one another without overlapping, and that leave out nothing but blanks up to where the
readings lead, which is the end of the text unless one of them fails. At the end of the text every
further reading gives the end again. -/
theorem covers_text (text : String) :
    ∃ count behind, Readings count (Cursor.ofText text) (ofText text).placed.1
        (ofText text).placed.2 behind ∧
      count ≤ text.length + 1 ∧
      tokenize text = (match (ofText text).placed.2 with
        | none => .ok ((ofText text).placed.1.map Placed.lexeme)
        | some error => .error error) ∧
      (∀ l ∈ (ofText text).placed.1, l.SpansIn text.toList ∧ l.stop ≤ behind.position) ∧
      (ofText text).placed.1.Pairwise (fun first second =>
        first.start < second.start ∧ first.stop ≤ second.start) ∧
      (∀ i c, i < behind.position → text.toList[i]? = some c →
        isBlank c = true ∨ ∃ l ∈ (ofText text).placed.1, l.start ≤ i ∧ i < l.stop) ∧
      ((ofText text).placed.2 = none → behind.position = text.length ∧
        behind.readNext = .ok (⟨.finish, text.length, text.length⟩, behind)) := by
  have stands := Cursor.standsIn_ofText text
  obtain ⟨count, behind, readings⟩ :=
    exists_readings (Nat.lt_succ_self (Cursor.ofText text).rest.length) stands
  obtain ⟨accounts, -⟩ := readings.accounts stands
  refine ⟨count, behind, readings, ?_, toLexemes_eq _, ?_, accounts.apart, ?_, ?_⟩
  · rw [← String.length_toList]
    exact accounts.count_le
  · intro l hl
    obtain ⟨spans, -, before⟩ := accounts.spans l hl
    exact ⟨spans, before⟩
  · intro i c before hc
    exact accounts.accounted i c (Nat.zero_le i) before hc
  · intro noError
    rw [← String.length_toList]
    exact readings.ended stands noError

theorem covers_text_mixed :
    let text := " a  b [1]. /x\\// "
    let key : Placed := ⟨.name "a  b", 1, 6⟩
    let pattern : Placed := ⟨.pattern "x/", 11, 16⟩
    let lexemes := [key, ⟨.index "1", 6, 9⟩, ⟨.dot, 9, 10⟩, pattern, ⟨.finish, 17, 17⟩]
    (ofText text).placed = (lexemes, none) ∧ key ∈ lexemes ∧ key.SpansIn text.toList ∧
      pattern ∈ lexemes ∧ pattern.SpansIn text.toList ∧
      (isBlank '/' = true ∨ ∃ l ∈ lexemes, l.start ≤ 14 ∧ 14 < l.stop) ∧
      ∃ count behind, Readings count (Cursor.ofText text) lexemes none behind ∧
        count ≤ text.length + 1 ∧ behind.readNext = .ok (⟨.finish, 17, 17⟩, behind) := by
  intro text key pattern lexemes
  have hplaced : (ofText text).placed = (lexemes, none) := by decide +kernel
  have hlength : text.length = 17 := by decide +kernel
  have hslash : text.toList[14]? = some '/' := by decide +kernel
  have first : key ∈ lexemes := by decide
  have fourth : pattern ∈ lexemes := by decide
  obtain ⟨count, behind, readings, atMost, -, spans, -, accounted, ended⟩ := covers_text text
  rw [hplaced] at readings spans accounted ended
  obtain ⟨position, again⟩ := ended rfl
  rw [hlength] at position again
  exact ⟨hplaced, first, (spans key first).1, fourth, (spans pattern fourth).1,
    accounted 14 '/' (by omega) hslash, count, behind, readings, atMost, again⟩

end Stream

end TreeTable.Path
