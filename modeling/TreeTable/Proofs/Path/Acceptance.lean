import TreeTable.Proofs.Path.Running

/-! # What the grammar denotes is read

Lexemes that denote a path at some level lead the parser from a place where a step must begin
to a place behind a step. What it holds there, once everything at tighter levels is ended, is
what it held before and the path. So lexemes that denote a path at the loosest level are read
as that path.
-/

namespace TreeTable.Path

open Outcome

namespace Members

/-- Adds members at a level. -/
def add (paths : List Path) : Level → Members → Members
  | .each, m => { m with each := paths.reverse ++ m.each }
  | .all, m => { m with all := paths.reverse ++ m.all }
  | .any, m => { m with any := paths.reverse ++ m.any }
  | .steps, m => { m with steps := paths.reverse ++ m.steps }
  | .step, m => { m with steps := paths.reverse ++ m.steps }

theorem Fresh.next {level : Level} {m : Members} (h : m.Fresh level) : m.Fresh level.next := by
  cases level with
  | each => exact h.2
  | all => exact h.2
  | any => trivial
  | steps => trivial
  | step => trivial

theorem Fresh.add {level : Level} {m : Members} (h : m.Fresh level) (paths : List Path) :
    (m.add paths level).Fresh level := by
  cases level <;> exact h

theorem add_append (first second : List Path) (level : Level) (m : Members) :
    m.add (first ++ second) level = (m.add first level).add second level := by
  cases level <;> simp [add]

/-- Members at a level become one member of the level around it. -/
theorem endTo_of_endTo_next {level : Level} {m m' : Members} {paths : List Path}
    (outerList : level ≠ .steps) (isList : level ≠ .step) (fresh : m.Fresh level)
    (h : m'.endTo level.next = m.add paths level.next) :
    m'.endTo level = m.add [collapse level.next.wrap paths] level := by
  obtain ⟨each, all, any, steps⟩ := m
  cases level with
  | each =>
      -- Nothing waited at tighter levels before, so what waits there now are the paths alone.
      obtain ⟨hall, hany, hsteps⟩ := fresh
      simp only at hall hany hsteps
      subst hall hany hsteps
      change m'.endAny = _ at h
      change { m'.endAny with
        all := [], each := collapse .all m'.endAny.all.reverse :: m'.endAny.each } = _
      rw [h]
      simp [add, Level.next, Level.wrap]
  | all =>
      obtain ⟨hany, hsteps⟩ := fresh
      simp only at hany hsteps
      subst hany hsteps
      change m'.endSteps = _ at h
      change { m'.endSteps with
        any := [], all := collapse .any m'.endSteps.any.reverse :: m'.endSteps.all } = _
      rw [h]
      simp [add, Level.next, Level.wrap]
  | any =>
      obtain rfl : steps = [] := fresh
      obtain rfl : m' = _ := h
      simp [endTo, endSteps, add, Level.next, Level.wrap]
  | steps => exact absurd rfl outerList
  | step => exact absurd rfl isList

/-- Members at the loosest level make up the whole path. -/
theorem close_of_endTo {m : Members} {paths : List Path}
    (h : m.endTo .each = add paths .each {}) : m.close = collapse .each paths := by
  change m.endAll = _ at h
  rw [close, h]
  simp [add]

end Members

namespace ParserState

/-- A run that ends in a state which settles to the given one. -/
def Reaches (path : String) (placed : List Placed) (s target : ParserState) : Prop :=
  ∃ next, s.run path placed = .ok next ∧ next.settled = target

theorem expecting_ne_step_of_settled {s : ParserState} {m : Members} {outer : List Members}
    (h : s.settled = ⟨m, outer, .separator⟩) : s.expecting ≠ .step := by
  obtain ⟨level, outer, expecting⟩ := s
  rintro rfl
  cases h

/-- Behind a step the parser goes on as from the settled state. -/
theorem Reaches.trans {path : String} {placed rest : List Placed} {l : Placed}
    {s middle target : ParserState} {m : Members} {outer : List Members}
    (first : Reaches path placed s ⟨m, outer, .separator⟩)
    (noSelection : ∀ text, l.lexeme ≠ .index text)
    (after : afterStep ⟨m, outer, .separator⟩ path l = .ok middle)
    (second : Reaches path rest middle target) : Reaches path (placed ++ l :: rest) s target := by
  obtain ⟨behind, hrun, hsettled⟩ := first
  obtain ⟨next, hrest, htarget⟩ := second
  have hadvance : behind.advance path l = .ok middle := by
    -- Only a selection would be read differently while a key still waits for one.
    rcases advance_cases behind path l with ⟨hstep, -⟩ | ⟨key, text, -, hl, -⟩ | ⟨-, hnext⟩
    · exact absurd hstep (expecting_ne_step_of_settled hsettled)
    · exact absurd hl (noSelection text)
    · rw [hnext, hsettled]
      exact after
  refine ⟨next, ?_, htarget⟩
  rw [run_append, hrun, ok_bind, run_cons, hadvance, ok_bind, hrest]

/-- One lexeme that completes a step. -/
theorem Reaches.ofStep {path : String} {l : Placed} {m : Members} {outer : List Members}
    {step : Path} (h : beginStep ⟨m, outer, .step⟩ path l =
      .ok ⟨m.addStep step, outer, .separator⟩) :
    Reaches path [l] ⟨m, outer, .step⟩ ⟨m.addStep step, outer, .separator⟩ := by
  refine ⟨⟨m.addStep step, outer, .separator⟩, ?_, rfl⟩
  rw [run_cons]
  change beginStep ⟨m, outer, .step⟩ path l >>= _ = _
  rw [h, ok_bind, run_nil]

end ParserState

open ParserState

theorem Level.separator_ne_index (level : Level) (text : String) :
    level.separator ≠ .index text := by
  cases level <;> nofun

/-- Lexemes of a member of a list at some level add that member. -/
def ReadAsMember (level : Level) (word : List Lexeme) (member : Path) : Prop :=
  ∀ (path : String) (placed : List Placed) (m : Members) (outer : List Members),
    placed.map Placed.lexeme = word → m.Fresh level →
      ∃ m', Reaches path placed ⟨m, outer, .step⟩ ⟨m', outer, .separator⟩ ∧
        m'.endTo level = m.add [member] level

/-- Lexemes of a list at some level add its members. -/
def ReadAsMembers (level : Level) (word : List Lexeme) (members : List Path) : Prop :=
  ∀ (path : String) (placed : List Placed) (m : Members) (outer : List Members),
    placed.map Placed.lexeme = word → m.Fresh level →
      ∃ m', Reaches path placed ⟨m, outer, .step⟩ ⟨m', outer, .separator⟩ ∧
        m'.endTo level = m.add members level

theorem ReadAsMember.cons {level : Level} {word rest : List Lexeme} {member : Path}
    {members : List Path} (isList : level ≠ .step) (head : ReadAsMember level word member)
    (tail : ReadAsMembers level rest members) :
    ReadAsMembers level (word ++ level.separator :: rest) (member :: members) := by
  intro path placed m outer hword hfresh
  obtain ⟨first, others, rfl, hfirst, hothers⟩ := List.map_eq_append_iff.mp hword
  obtain ⟨l, second, rfl, hl, hsecond⟩ := List.map_eq_cons_iff.mp hothers
  obtain ⟨middle, hmiddle, hended⟩ := head path first m outer hfirst hfresh
  obtain ⟨m', hm', hclosed⟩ := tail path second (m.add [member] level) outer hsecond
    (hfresh.add [member])
  refine ⟨m', ?_, ?_⟩
  · apply hmiddle.trans
    · intro text
      rw [hl]
      exact level.separator_ne_index text
    · exact afterStep_separator isList middle outer path hl
    · rw [hended]
      exact hm'
  · rw [hclosed, ← Members.add_append]
    rfl

/-- A list of the next level is a member. -/
theorem ReadAsMembers.collapse {level : Level} {word : List Lexeme} {members : List Path}
    (outerList : level ≠ .steps) (isList : level ≠ .step)
    (h : ReadAsMembers level.next word members) :
    ReadAsMember level word (collapse level.next.wrap members) := by
  intro path placed m outer hword hfresh
  obtain ⟨m', hreach, hended⟩ := h path placed m outer hword hfresh.next
  exact ⟨m', hreach, Members.endTo_of_endTo_next outerList isList hfresh hended⟩

/-- A single lexeme that completes a step is read as a member of a sequence. -/
theorem readAsMember_of_beginStep {l : Lexeme} {step : Path}
    (h : ∀ (path : String) (placed : Placed) (m : Members) (outer : List Members),
      placed.lexeme = l → beginStep ⟨m, outer, .step⟩ path placed =
        .ok ⟨m.addStep step, outer, .separator⟩) :
    ReadAsMember .steps [l] step := by
  intro path placed m outer hword _
  obtain ⟨head, tail, rfl, hhead, htail⟩ := List.map_eq_cons_iff.mp hword
  obtain rfl := List.map_eq_nil_iff.mp htail
  exact ⟨m.addStep step, Reaches.ofStep (h path head m outer hhead), rfl⟩

theorem readAsMember_literal (text : String) :
    ReadAsMember .steps [.literal text] (.literal text) := by
  apply readAsMember_of_beginStep
  intro path placed m outer h
  rw [beginStep, h]
  rfl

theorem readAsMember_keys (pattern : Pattern) :
    ReadAsMember .steps [.pattern pattern.source] (.keys pattern) := by
  apply readAsMember_of_beginStep
  intro path placed m outer h
  rw [beginStep, h]
  simp only [Pattern.ofSource?_source]
  rfl

theorem readAsMember_selection {text : String} {selection : Selection}
    (h : Selection.ofText text = .ok selection) :
    ReadAsMember .steps [.index text] (.field wildcard (some selection)) := by
  apply readAsMember_of_beginStep
  intro path placed m outer hplaced
  rw [beginStep, hplaced]
  simp only [addSelection, h]
  rfl

/-- A key alone is settled as a step; what follows decides that it gets no selection. -/
theorem readAsMember_field (key : String) :
    ReadAsMember .steps [.name key] (.field key none) := by
  intro path placed m outer hword _
  obtain ⟨head, tail, rfl, hhead, htail⟩ := List.map_eq_cons_iff.mp hword
  obtain rfl := List.map_eq_nil_iff.mp htail
  refine ⟨m.addStep (.field key none), ⟨⟨m, outer, .selection key⟩, ?_, rfl⟩, rfl⟩
  rw [run_cons]
  change beginStep ⟨m, outer, .step⟩ path head >>= _ = _
  rw [beginStep, hhead]
  rfl

theorem readAsMember_selected (key : String) {text : String} {selection : Selection}
    (h : Selection.ofText text = .ok selection) :
    ReadAsMember .steps [.name key, .index text] (.field key (some selection)) := by
  intro path placed m outer hword _
  obtain ⟨head, tail, rfl, hhead, htail⟩ := List.map_eq_cons_iff.mp hword
  obtain ⟨second, tail, rfl, hsecond, htail⟩ := List.map_eq_cons_iff.mp htail
  obtain rfl := List.map_eq_nil_iff.mp htail
  refine ⟨m.addStep (.field key (some selection)),
    ⟨⟨m.addStep (.field key (some selection)), outer, .separator⟩, ?_, rfl⟩, rfl⟩
  have hname : advance ⟨m, outer, .step⟩ path head = .ok ⟨m, outer, .selection key⟩ := by
    change beginStep ⟨m, outer, .step⟩ path head = _
    rw [beginStep, hhead]
  have hindex : advance ⟨m, outer, .selection key⟩ path second =
      .ok ⟨m.addStep (.field key (some selection)), outer, .separator⟩ := by
    simp only [advance, hsecond, addSelection, h]
    rfl
  rw [run_cons, hname, ok_bind, run_cons, hindex, ok_bind, run_nil]

/-- Lexemes of a whole path are read as it at a level of their own. -/
def ReadAsWhole (word : List Lexeme) (whole : Path) : Prop :=
  ∀ (path : String) (placed : List Placed) (outer : List Members),
    placed.map Placed.lexeme = word →
      ∃ m, Reaches path placed ⟨{}, outer, .step⟩ ⟨m, outer, .separator⟩ ∧ m.close = whole

theorem ReadAsMembers.whole {word : List Lexeme} {members : List Path}
    (h : ReadAsMembers .each word members) : ReadAsWhole word (Path.collapse .each members) := by
  intro path placed outer hword
  obtain ⟨m, hreach, hended⟩ := h path placed {} outer hword ⟨rfl, rfl, rfl⟩
  exact ⟨m, hreach, Members.close_of_endTo hended⟩

theorem readAsMember_lookup {word : List Lexeme} {inner : Path} (h : ReadAsWhole word inner) :
    ReadAsMember .steps (.lookupStart :: (word ++ [.lookupEnd])) (.lookup inner) := by
  intro path placed m outer hword _
  obtain ⟨head, tail, rfl, hhead, htail⟩ := List.map_eq_cons_iff.mp hword
  obtain ⟨inside, rest, rfl, hinside, hrest⟩ := List.map_eq_append_iff.mp htail
  obtain ⟨last, rest, rfl, hlast, hrest⟩ := List.map_eq_cons_iff.mp hrest
  obtain rfl := List.map_eq_nil_iff.mp hrest
  obtain ⟨m', hreach, hwhole⟩ := h path inside (m :: outer) hinside
  have hopen : advance ⟨m, outer, .step⟩ path head = .ok ⟨{}, m :: outer, .step⟩ := by
    change beginStep ⟨m, outer, .step⟩ path head = _
    rw [beginStep, hhead]
  have hclose : afterStep ⟨m', m :: outer, .separator⟩ path last =
      .ok ⟨m.addStep (.lookup inner), outer, .separator⟩ := by
    rw [afterStep, hlast, ← hwhole]
    rfl
  obtain ⟨next, hrun, hsettled⟩ := hreach.trans (by simp [hlast]) hclose ⟨_, run_nil path _, rfl⟩
  refine ⟨m.addStep (.lookup inner), ⟨next, ?_, hsettled⟩, rfl⟩
  rw [run_cons, hopen, ok_bind, hrun]

/-- How lexemes that denote a path at a level are read: at the loosest level as a whole, at any
other as a member of a list at the level around it. -/
def ReadAt : Level → List Lexeme → Path → Prop
  | .each => ReadAsWhole
  | .all => ReadAsMember .each
  | .any => ReadAsMember .all
  | .steps => ReadAsMember .any
  | .step => ReadAsMember .steps

theorem ReadAt.asMember {level : Level} {word : List Lexeme} {member : Path}
    (isList : level ≠ .step) (h : ReadAt level.next word member) :
    ReadAsMember level word member := by
  cases level with
  | step => exact absurd rfl isList
  | _ => exact h

theorem ReadAsMembers.readAt {level : Level} {word : List Lexeme} {members : List Path}
    (isList : level ≠ .step) (h : ReadAsMembers level word members) :
    ReadAt level word (Path.collapse level.wrap members) := by
  cases level with
  | each => exact h.whole
  | all => exact ReadAsMembers.collapse (by decide) (by decide) h
  | any => exact ReadAsMembers.collapse (by decide) (by decide) h
  | steps => exact ReadAsMembers.collapse (by decide) (by decide) h
  | step => exact absurd rfl isList

mutual

/-- Whatever denotes a path is read as it. -/
theorem Derives.readAt {level : Level} {word : List Lexeme} {path : Path} :
    Derives level word path → ReadAt level word path
  | .literal text => readAsMember_literal text
  | .keys pattern => readAsMember_keys pattern
  | .lookup h => readAsMember_lookup (Derives.readAt h)
  | .field key => readAsMember_field key
  | .selected key h => readAsMember_selected key h
  | .selection h => readAsMember_selection h
  | .list isList h => (DerivesMembers.readAsMembers isList h).readAt isList

theorem DerivesMembers.readAsMembers {level : Level} {word : List Lexeme}
    {members : List Path} (isList : level ≠ .step) :
    DerivesMembers level word members → ReadAsMembers level word members
  | .one h => (Derives.readAt h).asMember isList
  | .cons h more =>
      ((Derives.readAt h).asMember isList).cons isList (DerivesMembers.readAsMembers isList more)

end

/-- A text whose lexemes denote a path is read as that path. -/
theorem parse_of_derives {text : String} {word : List Lexeme} {path : Path}
    (hlex : tokenize text = .ok (word ++ [.finish])) (h : Derives .each word path) :
    parse text = .ok path := by
  obtain ⟨placed, position, hstream, hword⟩ := Stream.exists_prepend_of_toLexemes hlex
  obtain ⟨m, ⟨s, hrun, hsettled⟩, hclose⟩ :=
    Derives.readAt h text placed [] (List.append_cancel_right hword).symm
  refine parse_eq_ok_iff_run.mpr ⟨placed, position, s, hstream, hrun, ?_⟩
  rw [finish_eq_ok_iff, ← settled_outer, hsettled]
  exact ⟨expecting_ne_step_of_settled hsettled, rfl, hclose⟩

end TreeTable.Path
