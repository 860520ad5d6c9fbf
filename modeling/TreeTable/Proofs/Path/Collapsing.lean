import TreeTable.Proofs.Congruence
import TreeTable.Proofs.Path.CanonicalForm
import TreeTable.Proofs.Path.Spreading

/-! # Sequences with one member

Reading a path makes a sequence with one member that member. Evaluating spreads a sequence over the
elements of a list when its first step names a field, and a step that names a field is spread over
them by itself; behind the only step of a sequence nothing is left to be spread. So the sequence and
its member come to the same, wherever a path has such a sequence, except for the steps of a
sequence: a sequence among them ends where its own steps end.
-/

namespace TreeTable

open Outcome

namespace Value

variable {ε : Type} {f : Value → Except ε Value}

theorem spreadItems_eq_mapM (items : List Value) :
    spreadItems f items = items.mapM (spread f) := by
  induction items with
  | nil =>
      rw [spreadItems, List.mapM_nil]
      rfl
  | cons item rest ih => rw [spreadItems, ih, List.mapM_cons]

/-- A function that takes a list element by element is already spread over nested lists. -/
theorem spread_eq_self
    (byItems : ∀ items, f (list items) = (do return sequester (flattenOne (← items.mapM f))))
    (node : Value) : node.spread f = f node := by
  induction node using nodeInduction with
  | list items ih =>
      have same : items.mapM (spread f) = items.mapM f := (Congruence.equality ε).mapM ih
      rw [spread, spreadItems_eq_mapM, same, byItems]
  | _ =>
      rw [spread]
      all_goals simp

end Value

namespace Path

variable {resolve : Resolver}

theorem mapM_ok {ε : Type} (f : Value → Value) (items : List Value) :
    (items.mapM fun item => (.ok (f item) : Except ε Value)) = .ok (items.map f) :=
  List.mapM_pure

/-- A step that walks into a list walks into its elements in the same way as a sequence that
begins with it. -/
theorem spread_eval {step : Path} (navigates : step.navigates = true) (node : Value) :
    node.spread (step.eval resolve) = step.eval resolve node := by
  apply Value.spread_eq_self
  intro items
  cases step with
  | field key selection =>
      have named : namesField key = true := navigates
      rw [namesField, Bool.and_eq_true, bne_iff_ne, Option.isNone_iff_eq_none] at named
      obtain ⟨noWildcard, noInteger⟩ := named
      simp only [eval, mapM_ok, ok_bind]
      rw [Value.fieldAt, if_neg noWildcard, noInteger, Value.fieldsAt_eq_map]
      rfl
  | keys pattern =>
      simp only [eval, mapM_ok, ok_bind]
      rw [Value.keysAt, Value.allKeysAt_eq_map]
      rfl
  | _ => cases navigates

/-- Nothing is left behind the last step. -/
theorem continueFrom_nothing (head : Path) (value : Value) :
    continueFrom head false (evalSteps resolve []) value = .ok value := by
  cases value <;> simp [continueFrom, evalSteps]

theorem evalSteps_singleton (step : Path) (node : Value) :
    evalSteps resolve [step] node = step.eval resolve node := by
  have alone (node : Value) : (do
      let value ← step.eval resolve node
      continueFrom step (!([] : List Path).isEmpty) (evalSteps resolve []) value) =
        step.eval resolve node := by
    cases step.eval resolve node with
    | error error => rfl
    | ok value => exact continueFrom_nothing step value
  rw [evalSteps]
  simp only [alone]
  split
  next navigates => exact spread_eval navigates node
  next => rfl

theorem locateSteps_singleton {find : AddressResolver} {root : Value} (step : Path)
    (here : Address) :
    locateSteps resolve find root [step] [here] = step.locate resolve find root here := by
  rw [locateSteps, locateFrom, locateFrom]
  cases step.locate resolve find root here with
  | error error => rfl
  | ok found =>
      rw [ok_bind, ok_bind, List.append_nil]
      change locateSteps resolve find root [] found = .ok found
      rw [locateSteps]

/-- A sequence with one member is that member. -/
def collapseSteps : Path → Path
  | steps path => collapse .steps path
  | path => path

mutual

/-- Collapses all sequences with one member that stand in a path, but not the path itself. -/
def collapseInside : Path → Path
  | any branches => any (collapseBranches branches)
  | all branches => all (collapseBranches branches)
  | each branches => each (collapseBranches branches)
  | lookup inner => lookup (collapseSteps (collapseInside inner))
  | inverse inner => inverse (collapseSteps (collapseInside inner))
  | steps path => steps (collapseWithin path)
  | step => step

def collapseBranches : List Path → List Path
  | [] => []
  | branch :: rest => collapseSteps (collapseInside branch) :: collapseBranches rest

/-- The same in the steps of a sequence, which stay as many steps as they are. -/
def collapseWithin : List Path → List Path
  | [] => []
  | step :: rest => collapseInside step :: collapseWithin rest

end

/-- A path of which every list of steps is a sequence, even of a single step, with the sequences
collapsed as they are when it is read. -/
def collapsed (path : Path) : Path := collapseSteps (collapseInside path)

theorem eval_collapseSteps (path : Path) (node : Value) :
    (collapseSteps path).eval resolve node = path.eval resolve node := by
  cases path with
  | steps path =>
      rw [collapseSteps]
      unfold collapse
      split
      next step => rw [eval, evalSteps_singleton]
      next => rfl
  | _ => rfl

theorem locate_collapseSteps {find : AddressResolver} {root : Value} (path : Path)
    (here : Address) :
    (collapseSteps path).locate resolve find root here = path.locate resolve find root here := by
  cases path with
  | steps path =>
      rw [collapseSteps]
      unfold collapse
      split
      next step => rw [locate, locateSteps_singleton]
      next => rfl
  | _ => rfl

theorem navigates_collapseInside (step : Path) :
    (collapseInside step).navigates = step.navigates := by
  cases step <;> simp [collapseInside, navigates]

theorem isWildcard_collapseInside (step : Path) :
    (collapseInside step).isWildcard = step.isWildcard := by
  cases step <;> simp [collapseInside, isWildcard]

theorem isEmpty_collapseWithin (path : List Path) :
    (collapseWithin path).isEmpty = path.isEmpty := by
  cases path <;> simp [collapseWithin]

mutual

/-- Collapsing sequences inside a path does not change its value. -/
theorem eval_collapseInside : (path : Path) → (node : Value) →
    (collapseInside path).eval resolve node = path.eval resolve node
  | .literal _, _ | .field _ _, _ | .keys _, _ => by
      rw [collapseInside]
      all_goals nofun
  | .any branches, node => by
      rw [collapseInside, eval, eval]
      exact evalAny_collapseBranches branches node
  | .all branches, node => by
      rw [collapseInside, eval, eval, evalAll_collapseBranches branches node]
  | .each branches, node => by
      rw [collapseInside, eval, eval, evalEach_collapseBranches branches node]
  | .lookup inner, node => by
      rw [collapseInside, eval, eval, eval_collapseSteps, eval_collapseInside inner node]
  | .inverse inner, node => by rw [collapseInside, eval, eval]
  | .steps path, node => by
      rw [collapseInside, eval, eval]
      exact evalSteps_collapseWithin path node

theorem evalAny_collapseBranches : (branches : List Path) → (node : Value) →
    evalAny resolve (collapseBranches branches) node = evalAny resolve branches node
  | [], _ => by rw [collapseBranches]
  | branch :: rest, node => by
      rw [collapseBranches, evalAny, evalAny, eval_collapseSteps, eval_collapseInside branch node]
      simp only [evalAny_collapseBranches rest node]

theorem evalAll_collapseBranches : (branches : List Path) → (node : Value) →
    evalAll resolve (collapseBranches branches) node = evalAll resolve branches node
  | [], _ => by rw [collapseBranches]
  | branch :: rest, node => by
      rw [collapseBranches, evalAll, evalAll, eval_collapseSteps, eval_collapseInside branch node]
      simp only [evalAll_collapseBranches rest node]

theorem evalEach_collapseBranches : (branches : List Path) → (node : Value) →
    evalEach resolve (collapseBranches branches) node = evalEach resolve branches node
  | [], _ => by rw [collapseBranches]
  | branch :: rest, node => by
      rw [collapseBranches, evalEach, evalEach, eval_collapseSteps,
        eval_collapseInside branch node]
      simp only [evalEach_collapseBranches rest node]

theorem evalSteps_collapseWithin : (path : List Path) → (node : Value) →
    evalSteps resolve (collapseWithin path) node = evalSteps resolve path node
  | [], _ => by rw [collapseWithin]
  | head :: rest, node => by
      have behind : evalSteps resolve (collapseWithin rest) = evalSteps resolve rest :=
        funext (evalSteps_collapseWithin rest)
      have first : (collapseInside head).eval resolve = head.eval resolve :=
        funext (eval_collapseInside head)
      -- A step stays what it is to its sequence, which asks for its kind and its value.
      have goesOn : continueFrom (collapseInside head) = continueFrom head := by
        funext further onward value
        cases value <;> simp only [continueFrom, isWildcard_collapseInside]
      rw [collapseWithin, evalSteps, evalSteps, navigates_collapseInside, first, behind, goesOn,
        isEmpty_collapseWithin]

end

/-- A canonical sequence has more than one step. -/
theorem collapseSteps_of_isCanonicalAt {level : Level} {path : Path}
    (h : isCanonicalAt level path = true) : collapseSteps path = path := by
  cases path with
  | steps path =>
      simp only [isCanonicalAt, Bool.and_eq_true, decide_eq_true_iff] at h
      rw [collapseSteps, collapse_of_two_le steps h.1.1.2]
  | _ => rfl

mutual

theorem collapseInside_of_isCanonicalAt {level : Level} : (path : Path) →
    isCanonicalAt level path = true → collapseInside path = path
  | .literal _, _ | .field _ _, _ | .keys _, _ => by
      rw [collapseInside]
      all_goals nofun
  | .any branches, h | .all branches, h | .each branches, h => by
      rw [isCanonicalAt, Bool.and_eq_true] at h
      rw [collapseInside, collapseBranches_of_areCanonicalAt branches h.2]
  | .lookup inner, h => by
      rw [isCanonicalAt] at h
      rw [collapseInside, collapseInside_of_isCanonicalAt inner h,
        collapseSteps_of_isCanonicalAt h]
  | .inverse _, h => by
      rw [isCanonicalAt] at h
      cases h
  | .steps path, h => by
      rw [isCanonicalAt, Bool.and_eq_true] at h
      rw [collapseInside, collapseWithin_of_areCanonicalAt path h.2]

theorem collapseBranches_of_areCanonicalAt {level : Level} : (branches : List Path) →
    areCanonicalAt level branches = true → collapseBranches branches = branches
  | [], _ => by rw [collapseBranches]
  | branch :: rest, h => by
      rw [areCanonicalAt, Bool.and_eq_true] at h
      rw [collapseBranches, collapseInside_of_isCanonicalAt branch h.1,
        collapseSteps_of_isCanonicalAt h.1, collapseBranches_of_areCanonicalAt rest h.2]

theorem collapseWithin_of_areCanonicalAt {level : Level} : (path : List Path) →
    areCanonicalAt level path = true → collapseWithin path = path
  | [], _ => by rw [collapseWithin]
  | step :: rest, h => by
      rw [areCanonicalAt, Bool.and_eq_true] at h
      rw [collapseWithin, collapseInside_of_isCanonicalAt step h.1,
        collapseWithin_of_areCanonicalAt rest h.2]

end

/-- What is read has no sequence left that could be collapsed. -/
theorem collapsed_of_parse {text : String} {path : Path} (h : parse text = .ok path) :
    path.collapsed = path := by
  obtain ⟨word, hlex, hderives⟩ := derives_of_parse h
  have canonical : isCanonicalAt .each path = true := canonical_of_derives hlex hderives
  rw [collapsed, collapseInside_of_isCanonicalAt path canonical,
    collapseSteps_of_isCanonicalAt canonical]

section Locating

variable {find : AddressResolver} {root : Value}

mutual

/-- Collapsing sequences inside a path does not change what it selects. -/
theorem locate_collapseInside : (path : Path) → (here : Address) →
    (collapseInside path).locate resolve find root here = path.locate resolve find root here
  | .literal _, _ | .field _ _, _ | .keys _, _ => by
      rw [collapseInside]
      all_goals nofun
  | .any branches, here => by
      rw [collapseInside, locate, locate]
      exact locateAny_collapseBranches branches here
  | .all branches, here => by
      rw [collapseInside, locate, locate, locateAll_collapseBranches branches here]
  | .each branches, here => by
      rw [collapseInside, locate, locate]
      exact locateEach_collapseBranches branches here
  | .lookup inner, here => by
      rw [collapseInside, locate, locate, eval_collapseSteps, eval_collapseInside]
  | .inverse inner, here => by rw [collapseInside, locate, locate]
  | .steps path, here => by
      rw [collapseInside, locate, locate]
      exact locateSteps_collapseWithin path [here]

theorem locateAny_collapseBranches : (branches : List Path) → (here : Address) →
    locateAny resolve find root (collapseBranches branches) here =
      locateAny resolve find root branches here
  | [], _ => by rw [collapseBranches]
  | branch :: rest, here => by
      rw [collapseBranches, locateAny, locateAny, locate_collapseSteps,
        locate_collapseInside branch here]
      simp only [locateAny_collapseBranches rest here]

theorem locateAll_collapseBranches : (branches : List Path) → (here : Address) →
    locateAll resolve find root (collapseBranches branches) here =
      locateAll resolve find root branches here
  | [], _ => by rw [collapseBranches]
  | branch :: rest, here => by
      rw [collapseBranches, locateAll, locateAll, locate_collapseSteps,
        locate_collapseInside branch here]
      simp only [locateAll_collapseBranches rest here]

theorem locateEach_collapseBranches : (branches : List Path) → (here : Address) →
    locateEach resolve find root (collapseBranches branches) here =
      locateEach resolve find root branches here
  | [], _ => by rw [collapseBranches]
  | branch :: rest, here => by
      rw [collapseBranches, locateEach, locateEach, locate_collapseSteps,
        locate_collapseInside branch here]
      simp only [locateEach_collapseBranches rest here]

theorem locateSteps_collapseWithin : (path : List Path) → (current : List Address) →
    locateSteps resolve find root (collapseWithin path) current =
      locateSteps resolve find root path current
  | [], _ => by rw [collapseWithin]
  | head :: rest, current => by
      have first : (collapseInside head).locate resolve find root =
          head.locate resolve find root := funext (locate_collapseInside head)
      rw [collapseWithin, locateSteps, locateSteps, first]
      simp only [locateSteps_collapseWithin rest]

end

end Locating

end Path

/-- A sequence with one step means the step, for every path in its place: it has the same value at
every node, or fails in the same way, and selects the same addresses. So making such sequences their
members, as is done wherever one is read, never changes what a path gives. A step that names a field
is spread over nested lists by itself just as a sequence spreads it. -/
theorem Evaluator.steps_singleton (e : Evaluator) (path : Path) :
    (∀ node root, e.eval (.steps [path]) node root = e.eval path node root) ∧
      (∀ document, e.locate (.steps [path]) document = e.locate path document) ∧
      (∀ node root, e.eval path.collapsed node root = e.eval path node root) ∧
      (∀ document, e.locate path.collapsed document = e.locate path document) ∧
      (∀ text, Path.parse text = .ok path → path.collapsed = path) ∧
      ∀ (resolve : Path.Resolver) (node : Value), path.navigates = true →
        node.spread (path.eval resolve) = path.eval resolve node := by
  refine ⟨?_, ?_, ?_, ?_, fun _ => Path.collapsed_of_parse, ?_⟩
  · intro node root
    rw [eval, eval, Path.eval, Path.evalSteps_singleton]
  · intro document
    rw [locate, locate, Path.locate, Path.locateSteps_singleton]
  · intro node root
    rw [eval, eval, Path.collapsed, Path.eval_collapseSteps, Path.eval_collapseInside]
  · intro document
    rw [locate, locate, Path.collapsed, Path.locate_collapseSteps, Path.locate_collapseInside]
  · intro resolve node navigates
    exact Path.spread_eval navigates node

theorem Evaluator.steps_singleton_nested :
    let path : Path := .field "a" (some [.position (-1), .onward 1])
    let item (values : List Value) : Value := .object [("a", .list values)]
    let node : Value := .list [item [.int 1], .list [.list [item [.int 2, .list [.int 3]]], .null]]
    let value : Value := .list [.int 1, .list [.int 3], .list [.int 3], .null]
    Path.parse " a [-1 , 1+]" = .ok path ∧ path.collapsed = path ∧ path.navigates = true ∧
      node.spread (path.eval fun _ => .ok .null) = .ok value ∧
      Evaluator.eval {} (.steps [path]) node node = .ok value := by
  intro path item node value
  have hparse : Path.parse " a [-1 , 1+]" = .ok path := by decide +kernel
  have navigates : path.navigates = true := by decide +kernel
  obtain ⟨same, -, -, -, collapsed, spread⟩ := Evaluator.steps_singleton {} path
  refine ⟨hparse, collapsed _ hparse, navigates, ?_, ?_⟩
  · rw [spread _ node navigates]
    decide +kernel
  · rw [same node node]
    decide +kernel

end TreeTable
