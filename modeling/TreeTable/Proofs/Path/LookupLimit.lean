import Mathlib.Order.UpperLower.Basic
import TreeTable.Proofs.Path.Congruence

/-! # Raising the lookup limit

Two runs under different limits do the same until the lower limit is reached, and that is the end of
the run under it. So an answer under one limit is the answer under every higher one: the limits
under which a lookup is nested too deep are those below some bound, if any, and all others give one
answer.
-/

namespace TreeTable

mutual

theorem Path.everywhere_of_forall {test : Path → Bool} (h : ∀ path, test path = true) :
    (path : Path) → path.everywhere test = true
  | .any branches => by rw [everywhere, h, everywhereIn_of_forall h branches, Bool.and_self]
  | .all branches => by rw [everywhere, h, everywhereIn_of_forall h branches, Bool.and_self]
  | .each branches => by rw [everywhere, h, everywhereIn_of_forall h branches, Bool.and_self]
  | .steps path => by rw [everywhere, h, everywhereIn_of_forall h path, Bool.and_self]
  | .lookup inner => by rw [everywhere, h, everywhere_of_forall h inner, Bool.and_self]
  | .inverse inner => by rw [everywhere, h, everywhere_of_forall h inner, Bool.and_self]
  | .literal _ | .field _ _ | .keys _ => by
      rw [everywhere, h]
      all_goals nofun

theorem Path.everywhereIn_of_forall {test : Path → Bool} (h : ∀ path, test path = true) :
    (paths : List Path) → everywhereIn test paths = true
  | [] => by rw [everywhereIn]
  | path :: rest => by
      rw [everywhereIn, everywhere_of_forall h path, everywhereIn_of_forall h rest, Bool.and_self]

end

/-- Whether an error is that a lookup would be nested too deep. -/
def EvalError.IsCycle (error : EvalError) : Prop := ∃ key limit, error = .cycle key limit

variable {α : Type}

/-- Whether a computation ends because a lookup would be nested too deep. -/
def ReportsCycle (result : Except EvalError α) : Prop :=
  ∃ error, result = .error error ∧ error.IsCycle

/-- How what is computed under a limit depends on the limit. -/
structure SettledByLimit (run : Nat → Except EvalError α) : Prop where
  /-- Whatever is no cycle under one limit stays the same under every higher one. -/
  kept : ∀ {low high : Nat}, low ≤ high → ¬ReportsCycle (run low) → run high = run low
  /-- Below a limit that is too low, every limit is too low. -/
  lower : IsLowerSet {limit | ReportsCycle (run limit)}
  /-- All limits that are not too low give the same. -/
  constant : ∀ {first second : Nat}, ¬ReportsCycle (run first) → ¬ReportsCycle (run second) →
    run first = run second

/-- It is enough that a higher limit changes nothing but cycles. -/
theorem SettledByLimit.of_le {run : Nat → Except EvalError α}
    (h : ∀ {low high : Nat}, low ≤ high →
      (Congruence.upTo EvalError.IsCycle).Rel (run low) (run high)) : SettledByLimit run := by
  have kept {low high : Nat} (hle : low ≤ high) (answers : ¬ReportsCycle (run low)) :
      run high = run low := ((h hle).resolve_left answers).symm
  refine ⟨kept, ?_, ?_⟩
  · intro high low hle cycles
    by_contra answers
    have cycles : ReportsCycle (run high) := cycles
    rw [kept hle answers] at cycles
    exact answers cycles
  · intro first second hfirst hsecond
    rcases Nat.le_total first second with hle | hle
    · exact (kept hle hfirst).symm
    · exact kept hle hsecond

namespace Path

open Congruence

variable {low high : Nat} {root : Value}

/-- Lookups that may be nested deeper give the same, unless they were nested too deep before. -/
theorem meets_resolveWithin {remaining more : Nat} (hle : remaining ≤ more) :
    (upTo EvalError.IsCycle).Meets (fun _ => true) (resolveWithin low root remaining)
      (resolveWithin high root more) := by
  induction remaining generalizing more with
  | zero => exact ⟨fun _ _ key => .inl ⟨_, rfl, key, low, rfl⟩, fun _ _ => .inr rfl⟩
  | succ remaining ih =>
      obtain ⟨more, rfl⟩ := Nat.exists_eq_succ_of_ne_zero (Nat.ne_zero_of_lt hle)
      refine ⟨fun _ _ key => ?_, fun _ _ => .inr rfl⟩
      rw [resolveWithin, resolveWithin]
      split
      next path _ =>
        have meets := ih (Nat.le_of_succ_le_succ hle)
        exact meets.eval path (everywhere_of_forall (fun _ => rfl) path) root
      next => exact .inr rfl

theorem finds_findWithin {remaining more : Nat} (hle : remaining ≤ more) :
    (upTo EvalError.IsCycle).Finds (fun _ => true) (resolveWithin low root remaining)
      (resolveWithin high root more) (findWithin low root remaining)
      (findWithin high root more) := by
  induction remaining generalizing more with
  | zero => exact ⟨meets_resolveWithin hle, fun _ _ key => .inl ⟨_, rfl, key, low, rfl⟩⟩
  | succ remaining ih =>
      refine ⟨meets_resolveWithin hle, fun _ _ key => ?_⟩
      obtain ⟨more, rfl⟩ := Nat.exists_eq_succ_of_ne_zero (Nat.ne_zero_of_lt hle)
      rw [findWithin, findWithin]
      split
      next path _ =>
        have finds := ih (Nat.le_of_succ_le_succ hle)
        exact finds.locate path (everywhere_of_forall (fun _ => rfl) path) []
      next => exact .inr rfl

end Path

/-- Raising the lookup limit never changes an answer: what a path gives at a node of a document, or
where it leads there, is the same under every limit that is high enough for it to be anything but a
cycle. This holds of every path, also of those that no text reads as. -/
theorem Evaluator.settledByLimit (path : Path) (node root : Value) :
    SettledByLimit (fun limit => Evaluator.eval ⟨limit⟩ path node root) ∧
      SettledByLimit (fun limit => Evaluator.locate ⟨limit⟩ path root) := by
  have everywhere := Path.everywhere_of_forall (fun _ => rfl) path
  refine ⟨.of_le ?_, .of_le ?_⟩
  · intro low high hle
    exact (Path.meets_resolveWithin hle).eval path everywhere node
  · intro low high hle
    exact (Path.finds_findWithin hle).locate path everywhere []

-- Two lookups are nested here, one of them in the text of the document.
example :
    let document : Value := .object [("a", .string "<b>"), ("b", .string "c"), ("c", .int 1)]
    let path : Path := .lookup (.field "a" none)
    (List.range 4).map (fun limit => Evaluator.evaluate ⟨limit⟩ path document) =
      [.error (.cycle "<b>" 0), .error (.cycle "c" 1), .ok (.int 1), .ok (.int 1)] := by
  decide +kernel

end TreeTable
