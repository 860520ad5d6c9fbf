import TreeTable.Extract.Table
import TreeTable.Job.Compilation
import TreeTable.Join.Application

/-! # Pipelines

A pipeline merges first and then flattens what the merge rules left.
-/

namespace TreeTable

structure Pipeline where
  rules : List JoinRule
  extractor : Extractor

namespace Pipeline

/-- A pipeline that merges nothing. -/
def ofExtractor (x : Extractor) : Pipeline := ⟨[], x⟩

/-- The table of a document. -/
def run (p : Pipeline) (e : Evaluator) (document : Value) : Except EvalError Table :=
  match JoinRule.applyAll e p.rules document with
  | (merged, none) => p.extractor.table e merged
  | (_, some error) => .error error

/-- The table of several documents, gathered under their names. Of documents with one name
the last counts, at the place of the first. -/
def runNamed (p : Pipeline) (e : Evaluator) (documents : List (String × Value)) :
    Except EvalError Table :=
  p.run e (.object (Fields.ofWrites documents))

end Pipeline

/-- The pipeline of a job. Its merge rules are read before its extraction tree. -/
def JobSpec.pipeline (spec : JobSpec) : Except JobError Pipeline := do
  let rules ← spec.joinRules
  let extractor ← spec.extractor
  return ⟨rules, extractor⟩

end TreeTable
