import TreeTable.Proofs.Path.CanonicalForm
import TreeTable.Proofs.Path.LookupLimit

/-! # How paths fail

No text reads as a path with an inverse in it, and lookups read their paths from texts. So all that
can go wrong with a path that was read is that a lookup in it leads to further lookups too often.
-/

namespace TreeTable

open Outcome

namespace Path

def isNoInverse : Path → Bool
  | inverse _ => false
  | _ => true

def isNoLookup : Path → Bool
  | lookup _ => false
  | _ => true

mutual

/-- There is no inverse in a canonical path. -/
theorem noInverse_of_isCanonicalAt {level : Level} : (path : Path) →
    isCanonicalAt level path = true → path.noInverse = true
  | literal _, _ | field _ _, _ | keys _, _ => by
      rw [noInverse, everywhere]
      all_goals nofun
  | any branches, h | all branches, h | each branches, h => by
      rw [isCanonicalAt, Bool.and_eq_true] at h
      rw [noInverse, everywhere, Bool.true_and]
      exact noInverse_of_areCanonicalAt branches h.2
  | steps path, h => by
      rw [isCanonicalAt, Bool.and_eq_true] at h
      rw [noInverse, everywhere, Bool.true_and]
      exact noInverse_of_areCanonicalAt path h.2
  | lookup inner, h => by
      rw [isCanonicalAt] at h
      rw [noInverse, everywhere, Bool.true_and]
      exact noInverse_of_isCanonicalAt inner h
  | inverse _, h => by
      rw [isCanonicalAt] at h
      cases h

theorem noInverse_of_areCanonicalAt {level : Level} : (paths : List Path) →
    areCanonicalAt level paths = true →
      everywhereIn isNoInverse paths = true
  | [], _ => by rw [everywhereIn]
  | path :: rest, h => by
      rw [areCanonicalAt, Bool.and_eq_true] at h
      rw [everywhereIn, Bool.and_eq_true]
      exact ⟨noInverse_of_isCanonicalAt path h.1, noInverse_of_areCanonicalAt rest h.2⟩

end

/-- No text reads as a path with an inverse. -/
theorem noInverse_of_parse {text : String} {path : Path} (h : parse text = .ok path) :
    path.noInverse = true := by
  obtain ⟨word, hlex, hderives⟩ := derives_of_parse h
  exact noInverse_of_isCanonicalAt path (canonical_of_derives hlex hderives)

section Errors

variable {errors : EvalError → Prop} {resolve : Resolver} {find : AddressResolver}
  {root node : Value} {here : Address} {error : EvalError} {path : Path}

/-- Without an inverse a path fails only where a lookup in it does. -/
theorem eval_error_of_noInverse (h : path.noInverse = true)
    (lookups : ∀ key error, resolve key = .error error → errors error)
    (fails : path.eval resolve node = .error error) : errors error := by
  have meets : (Congruence.failures errors).Meets isNoInverse resolve resolve :=
    ⟨fun _ _ => lookups, nofun⟩
  exact meets.eval path h node error fails

/-- Without a lookup a path fails only at an inverse. -/
theorem eval_error_of_noLookup (h : path.noLookup = true)
    (fails : path.eval resolve node = .error error) : error = .unsupported := by
  have meets : (Congruence.failures (· = .unsupported)).Meets isNoLookup resolve resolve :=
    ⟨nofun, fun _ _ _ _ raised => (Except.error.inj raised).symm⟩
  exact meets.eval path h node error fails

end Errors

/-- Lookups fail only because they are nested too deep. -/
theorem isCycle_of_resolveWithin {limit remaining : Nat} {root : Value} {key : String}
    {error : EvalError} (fails : resolveWithin limit root remaining key = .error error) :
    error.IsCycle := by
  induction remaining generalizing key error with
  | zero =>
      cases fails
      exact ⟨key, limit, rfl⟩
  | succ remaining ih =>
      rw [resolveWithin] at fails
      split at fails
      next path hpath =>
        -- What the document leads to was read from a text as well, so it has no inverse either.
        exact eval_error_of_noInverse (noInverse_of_parse hpath) (fun _ _ => ih) fails
      next => cases fails

end Path

/-- How a run over paths ends: well, or, if there is a lookup in one of the paths, because a lookup
would be nested too deep. -/
inductive Ends (paths : List Path) : Option EvalError → Prop where
  | well : Ends paths none
  | tooDeep {path : Path} {error : EvalError} (among : path ∈ paths)
      (lookup : path.noLookup = false) (cycle : error.IsCycle) : Ends paths (some error)

theorem Ends.mono {paths more : List Path} {failure : Option EvalError}
    (subset : paths ⊆ more) (h : Ends paths failure) : Ends more failure := by
  cases h with
  | well => exact .well
  | tooDeep among lookup cycle => exact .tooDeep (subset among) lookup cycle

/-- A path among the paths of a run may fail by a cycle if it has a lookup. -/
theorem Ends.of_isCycle {paths : List Path} {path : Path} {error : EvalError}
    (among : path ∈ paths) (cycle : error.IsCycle)
    (without : path.noLookup = true → error = .unsupported) : Ends paths (some error) := by
  cases lookup : path.noLookup with
  | false => exact .tooDeep among lookup cycle
  | true =>
      obtain ⟨key, limit, rfl⟩ := cycle
      cases without lookup

namespace Evaluator

variable {e : Evaluator} {path : Path} {paths : List Path} {node root : Value}
  {error : EvalError}

theorem ends_of_eval_error (among : path ∈ paths) (h : path.noInverse = true)
    (fails : e.eval path node root = .error error) : Ends paths (some error) := by
  refine .of_isCycle among ?_ fun lookup => Path.eval_error_of_noLookup lookup fails
  exact Path.eval_error_of_noInverse h (fun _ _ => Path.isCycle_of_resolveWithin) fails

end Evaluator

end TreeTable
