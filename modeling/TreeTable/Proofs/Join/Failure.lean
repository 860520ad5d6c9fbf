import TreeTable.Proofs.Join.Updates

/-! # Rules that fail leave no trace

Rules work on one document in place. A rule evaluates all of its paths and keys before it writes
anything, so wherever it fails, the document is the one that the rules before it left.
-/

namespace TreeTable

open Outcome

namespace JoinRule

/-- The error that a rule raises in a document, if any: that of its left path, that of its right
path, or, when there is something to join, the first of its keys. The matchers come one after
another, and of each the right key at every right value before the left key at every left
object. -/
def failure (e : Evaluator) (rule : JoinRule) (document : Value) : Option EvalError :=
  match rule.leftObjects e document, rule.rightValues e document with
  | .error error, _ => some error
  | .ok _, .error error => some error
  | .ok lefts, .ok rights =>
      if lefts.isEmpty || rights.isEmpty then none
      else rule.matchers.findSome? fun matcher =>
        (rights.findSome? fun right => error? (e.eval matcher.2.path right document)).or
          (lefts.findSome? fun left =>
            error? (e.eval matcher.1.path ((left.get? document).getD .null) document))

/-- Documents between which rules lead when each of them is applied in place on its own and
succeeds. -/
inductive LeadsTo (e : Evaluator) : List JoinRule → Value → Value → Prop where
  | nil (document : Value) : LeadsTo e [] document document
  | cons {rule : JoinRule} {rest : List JoinRule} {document next after : Value}
      (first : (rule.applyInPlace e).perform document = (next, none))
      (others : LeadsTo e rest next after) : LeadsTo e (rule :: rest) document after

variable {e : Evaluator}

theorem error?_keyTable (document : Value) (lefts rights : List Value)
    (matcher : WrittenPath × WrittenPath) :
    error? (keyTable e document lefts rights matcher) =
      (rights.findSome? fun right => error? (e.eval matcher.2.path right document)).or
        (lefts.findSome? fun left => error? (e.eval matcher.1.path left document)) := by
  rw [keyTable, ← error?_mapM, ← error?_mapM]
  apply error?_bind_eq_or
  intro rightKeys _
  rw [keysAt]
  cases lefts.mapM fun left => e.eval matcher.1.path left document <;> rfl

/-- Narrowing down pairs fails with the first error of the matchers. -/
theorem error?_narrowPairs (document : Value) (lefts rights : List Value)
    (matchers : List (WrittenPath × WrittenPath)) (found : Option PairSet) :
    error? (narrowPairs e document lefts rights matchers found) =
      matchers.findSome? fun matcher =>
        (rights.findSome? fun right => error? (e.eval matcher.2.path right document)).or
          (lefts.findSome? fun left => error? (e.eval matcher.1.path left document)) := by
  induction matchers generalizing found with
  | nil => rfl
  | cons matcher rest ih =>
      rw [narrowPairs, ← List.singleton_append, List.findSome?_append, List.findSome?_singleton,
        ← error?_keyTable]
      apply error?_bind_eq_or
      intro table _
      exact ih _

/-- A rule fails with the first error of its paths and keys. -/
theorem error?_updates (rule : JoinRule) (document : Value) :
    error? (rule.updates e document) = rule.failure e document := by
  rw [updates, failure]
  cases rule.leftObjects e document with
  | error error => rfl
  | ok lefts =>
      cases rule.rightValues e document with
      | error error => rfl
      | ok rights =>
          have keys := error?_narrowPairs (e := e) document (Address.nodes document lefts) rights
            rule.matchers none
          simp only [Address.nodes, List.findSome?_map, Function.comp_def] at keys
          simp only [ok_bind, pairsOf]
          split
          next => rfl
          next =>
            rw [← keys]
            simp only [Address.nodes]
            cases narrowPairs e document _ rights rule.matchers none <;> rfl

/-- A rule that fails leaves the document as it was. -/
theorem perform_applyInPlace_eq_some_iff (rule : JoinRule) (document after : Value)
    (error : EvalError) :
    (rule.applyInPlace e).perform document = (after, some error) ↔
      after = document ∧ rule.failure e document = some error := by
  rw [perform_applyInPlace, ← error?_updates]
  cases rule.updates e document with
  | ok updates => simp
  | error other => simp [eq_comm]

/-- A rule succeeds unless one of its paths or keys fails. -/
theorem error?_apply (rule : JoinRule) (document : Value) :
    error? (rule.apply e document) = rule.failure e document := by
  rw [apply, perform_applyInPlace, ← error?_updates]
  cases rule.updates e document <;> rfl

theorem LeadsTo.append_fails {before rest : List JoinRule} {rule : JoinRule}
    {document after : Value} {error : EvalError} (h : LeadsTo e before document after)
    (fails : rule.failure e after = some error) :
    (applyEach e (before ++ rule :: rest)).perform document = (after, some error) := by
  induction h with
  | nil document =>
      have here := (perform_applyInPlace_eq_some_iff rule document document error).mpr ⟨rfl, fails⟩
      rw [List.nil_append, applyEach, Edit.perform_bind_of_some here]
  | cons first others ih =>
      rw [List.cons_append, applyEach, Edit.perform_bind_of_none first]
      exact ih fails

theorem LeadsTo.perform {rules : List JoinRule} {document after : Value}
    (h : LeadsTo e rules document after) :
    (applyEach e rules).perform document = (after, none) := by
  induction h with
  | nil document => rfl
  | cons first others ih =>
      rw [applyEach, Edit.perform_bind_of_none first]
      exact ih

/-- Rules that have been applied in place have all succeeded, or the first that fails has left the
document as it found it. -/
theorem applyEach_cases (rules : List JoinRule) (document : Value) :
    (∃ after, LeadsTo e rules document after) ∨
      ∃ before rule rest after error, rules = before ++ rule :: rest ∧
        LeadsTo e before document after ∧ rule.failure e after = some error := by
  induction rules generalizing document with
  | nil => exact .inl ⟨document, .nil document⟩
  | cons rule rest ih =>
      rcases happly : (rule.applyInPlace e).perform document with ⟨next, _ | error⟩
      · rcases ih next with ⟨after, h⟩ | ⟨before, bad, others, after, error, rfl, h, fails⟩
        · exact .inl ⟨after, .cons happly h⟩
        · exact .inr ⟨rule :: before, bad, others, after, error, rfl, .cons happly h, fails⟩
      · obtain ⟨-, fails⟩ := (perform_applyInPlace_eq_some_iff rule document next error).mp happly
        exact .inr ⟨[], rule, rest, document, error, rfl, .nil document, fails⟩

/-- Rules that are applied to a document either all succeed, one after another, and leave what the
last of them made of it; or the first that fails decides the error, and the document is left exactly
as the rules before it made it. That rule may fail at its left path, at its right path or at any key
of any left object or right value. -/
theorem applyAll_eq_iff (e : Evaluator) (rules : List JoinRule) (document after : Value) :
    (applyAll e rules document = (after, none) ↔ LeadsTo e rules document after) ∧
      ∀ error, applyAll e rules document = (after, some error) ↔
        ∃ before rule rest, rules = before ++ rule :: rest ∧ LeadsTo e before document after ∧
          rule.failure e after = some error := by
  have cases := applyEach_cases (e := e) rules document
  refine ⟨⟨?_, LeadsTo.perform⟩, fun error => ⟨?_, ?_⟩⟩
  · intro ended
    rcases cases with ⟨last, h⟩ | ⟨before, rule, rest, last, cause, rfl, h, fails⟩
    · obtain ⟨rfl, -⟩ := Prod.mk.inj (h.perform.symm.trans ended)
      exact h
    · cases (h.append_fails fails).symm.trans ended
  · intro ended
    rcases cases with ⟨last, h⟩ | ⟨before, rule, rest, last, cause, rfl, h, fails⟩
    · cases h.perform.symm.trans ended
    · cases (h.append_fails fails).symm.trans ended
      exact ⟨before, rule, rest, rfl, h, fails⟩
  · rintro ⟨before, rule, rest, rfl, h, fails⟩
    exact h.append_fails fails

-- The second rule fails at the key of the second left object; what the first wrote stays.
example :
    let id : WrittenPath := ⟨"id", .field "id" none⟩
    let people : WrittenPath := ⟨"people", .field "people" none⟩
    let towns : WrittenPath := ⟨"towns", .field "towns" none⟩
    let key : WrittenPath := ⟨"<key>", .lookup (.field "key" none)⟩
    let rules : List JoinRule := [⟨people, towns, [(id, id)], some "town"⟩,
      ⟨people, towns, [(key, id)], some "other"⟩]
    let town : Value := .object [("id", .int 1)]
    let ada : Fields := [("id", .int 1), ("key", .string "towns.id")]
    let bob : Value := .object [("id", .int 2), ("key", .string "<loop>")]
    let document (ada : Fields) : Value := .object [("people", .list [.object ada, bob]),
      ("towns", .list [town]), ("loop", .string "<loop>")]
    applyAll ⟨1⟩ rules (document ada) =
      (document (ada ++ [("town", town)]), some (.cycle "<loop>" 1)) := by
  decide +kernel

end JoinRule

end TreeTable
