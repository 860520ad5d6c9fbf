import TreeTable.Join.Application
import TreeTable.Proofs.Outcome

/-! # Rules that work in place

A rule reads all that it needs before it writes anything: which left objects have matches, and which
matches they have. So it fails before it has changed the document, or it writes these updates and
nothing else.
-/

namespace TreeTable

open Outcome

namespace Edit

variable {α : Type} (document : Value)

theorem perform_get_bind (next : Value → Edit Unit) :
    perform (get >>= next) document = perform (next document) document := rfl

/-- Work that needs a result fails where there is none, and has changed nothing by then. -/
theorem perform_ofExcept_bind (result : Except EvalError α) (next : α → Edit Unit) :
    perform (MonadExcept.ofExcept result >>= next) document =
      match result with
      | .ok a => perform (next a) document
      | .error error => (document, some error) := by
  cases result <;> rfl

/-- Work in two parts goes on with the document that the first part leaves when that succeeds. -/
theorem perform_bind_of_none {first : Edit Unit} {document after : Value}
    (h : perform first document = (after, none)) (second : Edit Unit) :
    perform (first >>= fun _ => second) document = perform second after := by
  rw [perform] at h
  rw [perform, ExceptT.run_bind, StateT.run_bind]
  rcases hrun : first.run.run document with ⟨error | done, left⟩
  · rw [hrun] at h
    cases h
  · rw [hrun] at h
    cases h
    rfl

/-- Work in two parts ends where the first part fails. -/
theorem perform_bind_of_some {first : Edit Unit} {document after : Value} {error : EvalError}
    (h : perform first document = (after, some error)) (second : Edit Unit) :
    perform (first >>= fun _ => second) document = (after, some error) := by
  rw [perform] at h
  rw [perform, ExceptT.run_bind, StateT.run_bind]
  rcases hrun : first.run.run document with ⟨cause | done, left⟩
  · rw [hrun] at h
    cases h
    rfl
  · rw [hrun] at h
    cases h

end Edit

namespace JoinRule

/-- The objects at the left path. -/
def leftObjects (e : Evaluator) (rule : JoinRule) (document : Value) :
    Except EvalError (List Address) :=
  return Address.objects document (← e.locate rule.left.path document)

/-- The values at the right path. -/
def rightValues (e : Evaluator) (rule : JoinRule) (document : Value) :
    Except EvalError (List Value) :=
  return (← e.evaluate rule.right.path document).selected

/-- What a rule writes: its left objects that have matches, each with these. -/
def updates (e : Evaluator) (rule : JoinRule) (document : Value) :
    Except EvalError (List (Address × List Value)) := do
  let lefts ← rule.leftObjects e document
  let rights ← rule.rightValues e document
  if lefts.isEmpty || rights.isEmpty then return []
  let pairs ← pairsOf e rule document (Address.nodes document lefts) rights
  return (pairs.grouped rights).map fun group => (lefts[group.1]?.getD [], group.2)

/-- The document after updates have been written into it, one after another. -/
def writeAll (rule : JoinRule) (updates : List (Address × List Value)) (document : Value) :
    Value :=
  updates.foldl (fun document update => update.1.modify (rule.write update.2) document) document

variable {e : Evaluator} {rule : JoinRule}

/-- Writing in place never fails. -/
theorem perform_writeInPlace (rule : JoinRule) (updates : List (Address × List Value))
    (document : Value) :
    (rule.writeInPlace updates).perform document = (rule.writeAll updates document, none) := by
  induction updates generalizing document with
  | nil => rfl
  | cons update rest ih =>
      rw [writeAll, List.foldl_cons, ← writeAll, ← ih, writeInPlace]
      rfl

/-- A rule leaves the document alone when it fails, and otherwise writes its updates. -/
theorem perform_applyInPlace (rule : JoinRule) (document : Value) :
    (rule.applyInPlace e).perform document =
      match rule.updates e document with
      | .ok updates => (rule.writeAll updates document, none)
      | .error error => (document, some error) := by
  rw [applyInPlace, updates, leftObjects, rightValues, Edit.perform_get_bind,
    Edit.perform_ofExcept_bind]
  cases e.locate rule.left.path document with
  | error error => rfl
  | ok found =>
      dsimp only
      rw [Edit.perform_get_bind, Edit.perform_get_bind, Edit.perform_ofExcept_bind]
      cases e.evaluate rule.right.path document with
      | error error => rfl
      | ok right =>
          dsimp only [ok_bind, pure, Except.pure]
          split
          next => rfl
          next =>
            -- All keys are read here, and there is nothing left that could fail.
            rw [Edit.perform_get_bind, Edit.perform_ofExcept_bind]
            cases pairsOf e rule document _ right.selected with
            | error error => rfl
            | ok pairs => exact perform_writeInPlace rule _ document

theorem perform_applyInPlace_eq_none_iff {document after : Value} :
    (rule.applyInPlace e).perform document = (after, none) ↔
      ∃ updates, rule.updates e document = .ok updates ∧
        after = rule.writeAll updates document := by
  rw [perform_applyInPlace]
  cases rule.updates e document with
  | ok updates => simp [eq_comm]
  | error error => simp

theorem apply_eq_ok_iff {document after : Value} :
    rule.apply e document = .ok after ↔
      (rule.applyInPlace e).perform document = (after, none) := by
  rw [apply]
  split
  next next h => simp [h]
  next h => simp [h]

/-- Rules go on with the document that the first of them leaves when it succeeds. -/
theorem applyAll_cons {document next : Value}
    (h : (rule.applyInPlace e).perform document = (next, none)) (rest : List JoinRule) :
    applyAll e (rule :: rest) document = applyAll e rest next :=
  Edit.perform_bind_of_none h (applyEach e rest)

theorem applyAll_cons_eq_none_iff {rest : List JoinRule} {document after : Value} :
    applyAll e (rule :: rest) document = (after, none) ↔
      ∃ next, (rule.applyInPlace e).perform document = (next, none) ∧
        applyAll e rest next = (after, none) := by
  rcases h : (rule.applyInPlace e).perform document with ⟨next, _ | error⟩
  · rw [applyAll_cons h]
    simp
  · have fails : applyAll e (rule :: rest) document = (next, some error) :=
      Edit.perform_bind_of_some h (applyEach e rest)
    simp [fails]

theorem applyAll_nil_eq_none_iff {document after : Value} :
    applyAll e [] document = (after, none) ↔ after = document := by
  change (document, none) = (after, none) ↔ after = document
  simp [eq_comm]

end JoinRule

end TreeTable
