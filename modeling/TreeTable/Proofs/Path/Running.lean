import TreeTable.Path.Grammar
import TreeTable.Proofs.Outcome

/-! # Running the parser

The parser takes in lexemes one after another, so reading a stream is a run over its lexemes
followed by the end of the text. A key that still waits for a selection stands for a complete
step unless a selection follows; `settled` makes that step explicit, and states are compared
after settling.
-/

namespace TreeTable.Path

open Outcome

namespace Stream

/-- A stream that begins with some lexemes. -/
def prepend : List Placed → Stream → Stream
  | [], stream => stream
  | head :: tail, stream => cons head (prepend tail stream)

/-- Only a stream without a fault has lexemes, the last of which is the end of the text. -/
theorem exists_prepend_of_toLexemes {stream : Stream} {lexemes : List Lexeme}
    (h : stream.toLexemes = .ok lexemes) :
    ∃ placed position, stream = prepend placed (finish position) ∧
      lexemes = placed.map Placed.lexeme ++ [.finish] := by
  induction stream generalizing lexemes with
  | finish position =>
      cases h
      exact ⟨[], position, rfl, rfl⟩
  | fault error => cases h
  | cons head tail ih =>
      rw [toLexemes, map_eq_ok_iff] at h
      obtain ⟨rest, htail, rfl⟩ := h
      obtain ⟨placed, position, rfl, rfl⟩ := ih htail
      exact ⟨head :: placed, position, rfl, rfl⟩

theorem toLexemes_prepend (placed : List Placed) (position : Nat) :
    (prepend placed (finish position)).toLexemes =
      .ok (placed.map Placed.lexeme ++ [.finish]) := by
  induction placed with
  | nil => rfl
  | cons head tail ih =>
      rw [prepend, toLexemes, ih]
      rfl

end Stream

namespace Members

/-- Ends everything at tighter levels, so that the last member of a level is complete. -/
def endTo : Level → Members → Members
  | .each, m => m.endAll
  | .all, m => m.endAny
  | .any, m => m.endSteps
  | .steps, m => m
  | .step, m => m

/-- Whether nothing waits at levels tighter than a level. -/
def Fresh : Level → Members → Prop
  | .each, m => m.all = [] ∧ m.any = [] ∧ m.steps = []
  | .all, m => m.any = [] ∧ m.steps = []
  | .any, m => m.steps = []
  | .steps, _ => True
  | .step, _ => True

end Members

namespace ParserState

/-- Takes in lexemes one after another. -/
def run (path : String) (s : ParserState) (placed : List Placed) :
    Except ParseError ParserState :=
  placed.foldlM (fun s l => s.advance path l) s

@[simp] theorem run_nil (path : String) (s : ParserState) : s.run path [] = .ok s := rfl

theorem run_cons (path : String) (s : ParserState) (l : Placed) (rest : List Placed) :
    s.run path (l :: rest) = s.advance path l >>= fun next => next.run path rest := rfl

theorem run_append (path : String) (s : ParserState) (first second : List Placed) :
    s.run path (first ++ second) = s.run path first >>= fun next => next.run path second :=
  List.foldlM_append

/-- A key that may still get a selection, taken as a step of its own. -/
def settled (s : ParserState) : ParserState :=
  match s.expecting with
  | .selection key => s.addStep (.field key none)
  | _ => s

theorem settled_outer (s : ParserState) : s.settled.outer = s.outer := by
  obtain ⟨level, outer, expecting⟩ := s
  cases expecting <;> rfl

/-- A lexeme begins a step, is the selection of a key, or is read as after the settled
step. -/
theorem advance_cases (s : ParserState) (path : String) (l : Placed) :
    (s.expecting = .step ∧ s.advance path l = s.beginStep path l) ∨
      (∃ key text, s.expecting = .selection key ∧ l.lexeme = .index text ∧
        s.advance path l = s.addSelection path key text l.start) ∨
      (s.expecting ≠ .step ∧ s.advance path l = s.settled.afterStep path l) := by
  obtain ⟨level, outer, expecting⟩ := s
  cases expecting with
  | step => exact .inl ⟨rfl, rfl⟩
  | separator => exact .inr (.inr ⟨nofun, rfl⟩)
  | selection key =>
      obtain ⟨lexeme, start, stop⟩ := l
      cases lexeme with
      | index text => exact .inr (.inl ⟨key, text, rfl, rfl, rfl⟩)
      | _ => exact .inr (.inr ⟨nofun, rfl⟩)

/-- A separator ends everything at tighter levels. -/
theorem afterStep_separator {level : Level} (isList : level ≠ .step) (m : Members)
    (outer : List Members) (path : String) {l : Placed} (h : l.lexeme = level.separator) :
    afterStep ⟨m, outer, .separator⟩ path l = .ok ⟨m.endTo level, outer, .step⟩ := by
  cases level with
  | step => exact absurd rfl isList
  | _ =>
      rw [afterStep, h]
      rfl

/-- The end of the text closes the settled step. -/
theorem finish_eq_ok_iff {s : ParserState} {path : String} {position : Nat} {result : Path} :
    s.finish path position = .ok result ↔
      s.expecting ≠ .step ∧ s.outer = [] ∧ s.settled.level.close = result := by
  obtain ⟨level, outer, expecting⟩ := s
  cases outer with
  | cons level outer => simp [finish]
  | nil => cases expecting <;> simp [finish, settled, addStep]

end ParserState

theorem parseStream_prepend (path : String) (placed : List Placed) (stream : Stream)
    (s : ParserState) :
    parseStream path (stream.prepend placed) s =
      s.run path placed >>= fun next => parseStream path stream next := by
  induction placed generalizing s with
  | nil => rfl
  | cons head tail ih =>
      rw [Stream.prepend, parseStream, ParserState.run_cons, bind_assoc]
      exact congrArg _ (funext ih)

/-- A stream that is read as a path has no fault. -/
theorem exists_prepend_of_parseStream {path : String} {stream : Stream} {s : ParserState}
    {result : Path} (h : parseStream path stream s = .ok result) :
    ∃ placed position, stream = Stream.prepend placed (.finish position) := by
  induction stream generalizing s with
  | finish position => exact ⟨[], position, rfl⟩
  | fault error => cases h
  | cons head tail ih =>
      rw [parseStream, bind_eq_ok_iff] at h
      obtain ⟨next, -, hnext⟩ := h
      obtain ⟨placed, position, rfl⟩ := ih hnext
      exact ⟨head :: placed, position, rfl⟩

/-- A text without lexemes is no path, so reading a text is reading its stream. -/
theorem parse_eq_ok_iff_parseStream {text : String} {result : Path} :
    parse text = .ok result ↔ parseStream text (Stream.ofText text) {} = .ok result := by
  unfold parse
  cases Stream.ofText text with
  | finish position => simp [parseStream, ParserState.finish_eq_ok_iff]
  | fault error => exact Iff.rfl
  | cons head tail => exact Iff.rfl

/-- A text is a path when its lexemes can be run through up to a state that the end of the
text closes. -/
theorem parse_eq_ok_iff_run {text : String} {result : Path} :
    parse text = .ok result ↔
      ∃ placed position s, Stream.ofText text = Stream.prepend placed (.finish position) ∧
        ParserState.run text {} placed = .ok s ∧ s.finish text position = .ok result := by
  rw [parse_eq_ok_iff_parseStream]
  constructor
  · intro h
    obtain ⟨placed, position, hstream⟩ := exists_prepend_of_parseStream h
    rw [hstream, parseStream_prepend, bind_eq_ok_iff] at h
    obtain ⟨s, hrun, hfinish⟩ := h
    exact ⟨placed, position, s, hstream, hrun, hfinish⟩
  · rintro ⟨placed, position, s, hstream, hrun, hfinish⟩
    rw [hstream, parseStream_prepend, hrun]
    exact hfinish

end TreeTable.Path
