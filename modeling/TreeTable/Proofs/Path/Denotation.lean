import TreeTable.Proofs.Path.Acceptance

/-! # What is read is denoted

At every moment the lexemes read so far are accounted for: members that wait at a level are
denoted by their lexemes with a separator behind each, a step that is complete by lexemes of
its own, and a lookup that is still open by its sign. Every lexeme that the parser takes in
keeps this account, so what it gives at the end of the text is denoted by all lexemes.
Together with the acceptance of everything that the grammar denotes this makes the parser
exact.
-/

namespace TreeTable.Path

open Outcome

/-- Members that wait at a level, the last first, and lexemes that denote each of them with a
separator behind it. -/
inductive Waiting (level : Level) : List Path → List Lexeme → Prop where
  | nil : Waiting level [] []
  | snoc {members : List Path} {word last : List Lexeme} {member : Path}
      (before : Waiting level members word) (h : Derives level.next last member) :
      Waiting level (member :: members) (word ++ (last ++ [level.separator]))

/-- Members that wait and members that follow them are the members of one list. -/
theorem Waiting.derivesMembers {level : Level} {waiting members : List Path}
    {word rest : List Lexeme} (h : Waiting level waiting word)
    (more : DerivesMembers level rest members) :
    DerivesMembers level (word ++ rest) (waiting.reverse ++ members) := by
  induction h generalizing rest members with
  | nil => exact more
  | @snoc waiting word last member before h ih =>
      have longer := ih (DerivesMembers.cons h more)
      simpa only [List.reverse_cons, List.append_assoc, List.cons_append, List.nil_append]
        using longer

/-- The levels around a level, the innermost first. -/
def Level.looser : Level → List Level
  | each => []
  | all => [each]
  | any => [all, each]
  | steps => [any, all, each]
  | step => [steps, any, all, each]

theorem Level.looser_next {level : Level} (isList : level ≠ .step) :
    level.next.looser = level :: level.looser := by
  cases level with
  | step => exact absurd rfl isList
  | _ => rfl

namespace Members

/-- The members that wait at a level. -/
def list : Level → Members → List Path
  | .each, m => m.each
  | .all, m => m.all
  | .any, m => m.any
  | .steps, m => m.steps
  | .step, _ => []

/-- The account of what waits at some levels, the innermost first. -/
def Accounted (m : Members) : List Level → List Lexeme → Prop
  | [], word => word = []
  | level :: levels, word => ∃ outer inner, word = outer ++ inner ∧
      m.Accounted levels outer ∧ Waiting level (m.list level) inner

/-- The account of members of which the last at a level is complete, no separator having
followed it yet. -/
def Complete (level : Level) (m : Members) (word : List Lexeme) : Prop :=
  ∃ member members outer inner last, m.list level = member :: members ∧
    m.Accounted level.looser outer ∧ Waiting level members inner ∧
    Derives level.next last member ∧ word = outer ++ (inner ++ last)

/-- The account of members where a step must begin. -/
def Open (m : Members) (word : List Lexeme) : Prop := m.Accounted Level.step.looser word

theorem Accounted.congr {m m' : Members} {levels : List Level} {word : List Lexeme}
    (h : m.Accounted levels word) (same : ∀ level ∈ levels, m'.list level = m.list level) :
    m'.Accounted levels word := by
  induction levels generalizing word with
  | nil => exact h
  | cons level levels ih =>
      obtain ⟨outer, inner, rfl, houter, hinner⟩ := h
      refine ⟨outer, inner, rfl, ih houter ?_, ?_⟩
      · intro level hlevel
        exact same level (List.mem_cons_of_mem _ hlevel)
      · rw [same level List.mem_cons_self]
        exact hinner

/-- A level at which nothing waits has no lexemes. -/
theorem Accounted.cons_of_nil {m : Members} {levels : List Level} {word : List Lexeme}
    (h : m.Accounted levels word) (level : Level) (empty : m.list level = []) :
    m.Accounted (level :: levels) word := by
  refine ⟨word, [], (List.append_nil word).symm, h, ?_⟩
  rw [empty]
  exact .nil

theorem Open.nil : Open {} [] := by
  have start : Accounted {} [] [] := rfl
  exact (((start.cons_of_nil .each rfl).cons_of_nil .all rfl).cons_of_nil .any rfl).cons_of_nil
    .steps rfl

/-- Where nothing waits at tighter levels, a step may begin. -/
theorem Accounted.isOpen {level : Level} {m : Members} {word : List Lexeme}
    (h : m.Accounted (level :: level.looser) word) (isList : level ≠ .step)
    (fresh : m.Fresh level) : m.Open word := by
  cases level with
  | each =>
      exact ((h.cons_of_nil .all fresh.1).cons_of_nil .any fresh.2.1).cons_of_nil .steps fresh.2.2
  | all => exact (h.cons_of_nil .any fresh.1).cons_of_nil .steps fresh.2
  | any => exact h.cons_of_nil .steps fresh
  | steps => exact h
  | step => exact absurd rfl isList

theorem Open.addStep {m : Members} {word last : List Lexeme} {step : Path} (h : m.Open word)
    (hstep : Derives .step last step) : (m.addStep step).Complete .steps (word ++ last) := by
  obtain ⟨outer, inner, rfl, houter, hinner⟩ := h
  refine ⟨step, m.steps, outer, inner, last, rfl, ?_, hinner, hstep, List.append_assoc ..⟩
  apply houter.congr
  simp [list, Members.addStep]

/-- The separator of a level completes the account of that level. -/
theorem Complete.separator {level : Level} {m : Members} {word : List Lexeme}
    (h : m.Complete level word) :
    m.Accounted (level :: level.looser) (word ++ [level.separator]) := by
  obtain ⟨member, members, outer, inner, last, hlist, houter, hinner, hlast, rfl⟩ := h
  refine ⟨outer, inner ++ (last ++ [level.separator]), ?_, houter, ?_⟩
  · simp only [List.append_assoc]
  · rw [hlist]
    exact .snoc hinner hlast

/-- All members of a list, the last being complete, denote the list. -/
theorem Complete.derives {level : Level} {m : Members} {word : List Lexeme}
    (h : m.Complete level word) (isList : level ≠ .step) :
    ∃ outer last, word = outer ++ last ∧ m.Accounted level.looser outer ∧
      Derives level last (collapse level.wrap (m.list level).reverse) := by
  obtain ⟨member, members, outer, inner, last, hlist, houter, hinner, hlast, rfl⟩ := h
  refine ⟨outer, inner ++ last, rfl, houter, ?_⟩
  rw [hlist, List.reverse_cons]
  exact .list isList (hinner.derivesMembers (.one hlast))

/-- A list that ends is a complete member of the list around it. -/
theorem Complete.enclose (level : Level) {m m' : Members} {word : List Lexeme}
    (h : m.Complete level.next word) (outerList : level.next ≠ .step) (isList : level ≠ .step)
    (hlist : m'.list level =
      collapse level.next.wrap (m.list level.next).reverse :: m.list level)
    (same : ∀ outer ∈ level.looser, m'.list outer = m.list outer) :
    m'.Complete level word := by
  obtain ⟨before, last, rfl, hbefore, hlast⟩ := h.derives outerList
  rw [Level.looser_next isList] at hbefore
  obtain ⟨outer, inner, rfl, houter, hinner⟩ := hbefore
  exact ⟨_, _, outer, inner, last, hlist, houter.congr same, hinner, hlast,
    List.append_assoc ..⟩

theorem Complete.endTo {level : Level} {m : Members} {word : List Lexeme}
    (h : m.Complete .steps word) (isList : level ≠ .step) :
    (m.endTo level).Complete level word := by
  have atAny : m.endSteps.Complete .any word :=
    enclose .any h (by decide) (by decide) rfl (by simp [Level.looser, list, endSteps])
  have atAll : m.endAny.Complete .all word :=
    enclose .all atAny (by decide) (by decide) rfl (by simp [Level.looser, list, endAny])
  have atEach : m.endAll.Complete .each word :=
    enclose .each atAll (by decide) (by decide) rfl (by simp [Level.looser])
  cases level with
  | each => exact atEach
  | all => exact atAll
  | any => exact atAny
  | steps => exact h
  | step => exact absurd rfl isList

theorem fresh_endTo (level : Level) (m : Members) : (m.endTo level).Fresh level := by
  cases level <;> simp [Fresh, Members.endTo, endSteps, endAny, endAll]

/-- Behind a separator of any level a step may begin. -/
theorem Complete.isOpen {level : Level} {m : Members} {word : List Lexeme}
    (h : m.Complete .steps word) (isList : level ≠ .step) :
    (m.endTo level).Open (word ++ [level.separator]) :=
  (h.endTo isList).separator.isOpen isList (fresh_endTo level m)

/-- What is complete at every level denotes the path that all members make up. -/
theorem Complete.close {m : Members} {word : List Lexeme} (h : m.Complete .steps word) :
    Derives .each word m.close := by
  have atEach : m.endAll.Complete .each word := h.endTo (by decide : Level.each ≠ .step)
  obtain ⟨outer, last, rfl, houter, hlast⟩ := atEach.derives (by decide)
  obtain rfl : outer = [] := houter
  exact hlast

end Members

namespace ParserState

/-- The account of the levels around lookups that are still open. -/
def Nested : List Members → List Lexeme → Prop
  | [], word => word = []
  | level :: outer, word => ∃ before inner, word = before ++ (inner ++ [.lookupStart]) ∧
      Nested outer before ∧ level.Open inner

/-- The account of the innermost level, by what may come next. -/
def Holds (level : Members) : Expecting → List Lexeme → Prop
  | .step, word => level.Open word
  | .selection key, word => ∃ before, word = before ++ [.name key] ∧ level.Open before
  | .separator, word => level.Complete .steps word

/-- The account of all lexemes that led to a state. -/
def Accounts (s : ParserState) (word : List Lexeme) : Prop :=
  ∃ before inner, word = before ++ inner ∧ Nested s.outer before ∧
    Holds s.level s.expecting inner

theorem Accounts.settled {s : ParserState} {word : List Lexeme} (h : s.Accounts word)
    (behindStep : s.expecting ≠ .step) :
    ∃ before inner, word = before ++ inner ∧ Nested s.settled.outer before ∧
      s.settled.level.Complete .steps inner := by
  obtain ⟨level, outer, expecting⟩ := s
  obtain ⟨before, inner, rfl, hbefore, hinner⟩ := h
  refine ⟨before, inner, rfl, ?_, ?_⟩
  · rw [settled_outer]
    exact hbefore
  · cases expecting with
    | step => exact absurd rfl behindStep
    | separator => exact hinner
    | selection key =>
        obtain ⟨earlier, rfl, hopen⟩ := hinner
        exact hopen.addStep (.field key)

theorem accounts_addStep {level : Members} {outer : List Members}
    {before inner last : List Lexeme} {step : Path} (hbefore : Nested outer before)
    (hinner : level.Open inner) (hstep : Derives .step last step) :
    Accounts ⟨level.addStep step, outer, .separator⟩ (before ++ (inner ++ last)) :=
  ⟨before, inner ++ last, rfl, hbefore, hinner.addStep hstep⟩

/-- Where a step must begin, a lexeme is a step, a part of one or opens a lookup. -/
theorem accounts_beginStep {s next : ParserState} {path : String} {l : Placed}
    {before inner : List Lexeme} (hbefore : Nested s.outer before) (hinner : s.level.Open inner)
    (h : s.beginStep path l = .ok next) :
    next.Accounts (before ++ (inner ++ [l.lexeme])) := by
  obtain ⟨lexeme, start, stop⟩ := l
  cases lexeme with
  | literal text =>
      cases h
      exact accounts_addStep hbefore hinner (.literal text)
  | pattern source =>
      simp only [beginStep] at h
      split at h
      next pattern hpattern =>
        cases h
        obtain rfl := Pattern.source_of_ofSource? hpattern
        exact accounts_addStep hbefore hinner (.keys pattern)
      next => cases h
  | lookupStart =>
      cases h
      exact ⟨before ++ (inner ++ [.lookupStart]), [], (List.append_nil _).symm,
        ⟨before, inner, rfl, hbefore, hinner⟩, Members.Open.nil⟩
  | name key =>
      cases h
      exact ⟨before, inner ++ [.name key], rfl, hbefore, inner, rfl, hinner⟩
  | index text =>
      simp only [beginStep, addSelection] at h
      split at h
      next selection hselection =>
        cases h
        exact accounts_addStep hbefore hinner (.selection hselection)
      next => cases h
  | _ => cases h

/-- Behind a complete step, a separator ends lists and the end of a lookup ends a level. -/
theorem accounts_afterStep {s next : ParserState} {path : String} {l : Placed}
    {before inner : List Lexeme} (hbefore : Nested s.outer before)
    (hinner : s.level.Complete .steps inner) (h : s.afterStep path l = .ok next) :
    next.Accounts (before ++ (inner ++ [l.lexeme])) := by
  have behind (level : Level) (isList : level ≠ .step) :
      Accounts ⟨s.level.endTo level, s.outer, .step⟩
        (before ++ (inner ++ [level.separator])) :=
    ⟨before, inner ++ [level.separator], rfl, hbefore, hinner.isOpen isList⟩
  obtain ⟨lexeme, start, stop⟩ := l
  cases lexeme with
  | dot =>
      cases h
      exact behind .steps (by decide)
  | bar =>
      cases h
      exact behind .any (by decide)
  | ampersand =>
      cases h
      exact behind .all (by decide)
  | comma =>
      cases h
      exact behind .each (by decide)
  | lookupEnd =>
      obtain ⟨level, outer, expecting⟩ := s
      cases outer with
      | nil => cases h
      | cons around outer =>
          cases h
          obtain ⟨earlier, opened, rfl, hearlier, hopened⟩ := hbefore
          have hstep := Derives.lookup (Members.Complete.close hinner)
          have account := accounts_addStep hearlier hopened hstep
          simpa only [addStep, List.append_assoc, List.cons_append, List.nil_append]
            using account
  | _ => cases h

/-- Taking in a lexeme keeps the account. -/
theorem Accounts.advance {s next : ParserState} {path : String} {l : Placed}
    {word : List Lexeme} (h : s.Accounts word) (hnext : s.advance path l = .ok next) :
    next.Accounts (word ++ [l.lexeme]) := by
  rcases advance_cases s path l with ⟨hstep, hadvance⟩ | ⟨key, text, hkey, hl, hadvance⟩ |
    ⟨hstep, hadvance⟩
  · obtain ⟨before, inner, rfl, hbefore, hinner⟩ := h
    rw [hstep] at hinner
    rw [hadvance] at hnext
    rw [List.append_assoc]
    exact accounts_beginStep hbefore hinner hnext
  · -- A selection completes the step that its key began.
    obtain ⟨before, inner, rfl, hbefore, hinner⟩ := h
    rw [hkey] at hinner
    obtain ⟨earlier, rfl, hopen⟩ := hinner
    rw [hadvance, addSelection] at hnext
    split at hnext
    next selection hselection =>
      cases hnext
      have account := accounts_addStep hbefore hopen (.selected key hselection)
      simpa only [hl, ParserState.addStep, List.append_assoc, List.cons_append,
        List.nil_append] using account
    next => cases hnext
  · rw [hadvance] at hnext
    obtain ⟨before, inner, rfl, hbefore, hinner⟩ := h.settled hstep
    rw [List.append_assoc]
    exact accounts_afterStep hbefore hinner hnext

theorem Accounts.run {s next : ParserState} {path : String} {placed : List Placed}
    {word : List Lexeme} (h : s.Accounts word) (hrun : s.run path placed = .ok next) :
    next.Accounts (word ++ placed.map Placed.lexeme) := by
  induction placed generalizing s word with
  | nil =>
      cases hrun
      rw [List.map_nil, List.append_nil]
      exact h
  | cons head tail ih =>
      rw [run_cons, bind_eq_ok_iff] at hrun
      obtain ⟨middle, hadvance, hrest⟩ := hrun
      have account := ih (h.advance hadvance) hrest
      rwa [List.append_assoc] at account

theorem Accounts.nil : Accounts {} [] := ⟨[], [], rfl, rfl, Members.Open.nil⟩

/-- At the end of the text no lookup is open, and all lexemes denote the path. -/
theorem Accounts.finish {s : ParserState} {path : String} {position : Nat} {result : Path}
    {word : List Lexeme} (h : s.Accounts word) (hfinish : s.finish path position = .ok result) :
    Derives .each word result := by
  obtain ⟨hstep, houter, rfl⟩ := finish_eq_ok_iff.mp hfinish
  obtain ⟨before, inner, rfl, hbefore, hinner⟩ := h.settled hstep
  rw [settled_outer, houter] at hbefore
  obtain rfl : before = [] := hbefore
  exact hinner.close

end ParserState

/-- The lexemes of a text that is read as a path denote that path. -/
theorem derives_of_parse {text : String} {path : Path} (h : parse text = .ok path) :
    ∃ word, tokenize text = .ok (word ++ [.finish]) ∧ Derives .each word path := by
  obtain ⟨placed, position, s, hstream, hrun, hfinish⟩ := parse_eq_ok_iff_run.mp h
  refine ⟨placed.map Placed.lexeme, ?_, (ParserState.Accounts.nil.run hrun).finish hfinish⟩
  rw [tokenize, hstream, Stream.toLexemes_prepend]

/-- A text is read as a path exactly when it splits into lexemes to its end and these denote
the path. The parser asks for its lexemes one at a time and gives up at the first that it
cannot use, which makes no difference to what it accepts. -/
theorem parse_eq_ok_iff_derives {text : String} {path : Path} :
    parse text = .ok path ↔
      ∃ word, tokenize text = .ok (word ++ [.finish]) ∧ Derives .each word path := by
  constructor
  · intro h
    exact derives_of_parse h
  · rintro ⟨word, hlex, hderives⟩
    exact parse_of_derives hlex hderives

end TreeTable.Path
