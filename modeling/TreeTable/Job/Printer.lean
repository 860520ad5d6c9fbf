import TreeTable.Job.Reader
import TreeTable.Json.Printer

/-! # Writing jobs

A job is written with every field in order, and null for what is not set.
-/

namespace TreeTable

/-- A stage as a document. -/
def StageSpec.toValue (stage : StageSpec) : Value :=
  let tagged (kind : StageKind) (fields : List (String × Value)) : Value :=
    .object ((kindField, .string kind.name) :: fields)
  match stage with
  | sum start => tagged .sum [("start", .float start)]
  | average => tagged .average []
  | join separator => tagged .join [("sep", .string separator)]
  | sort descending => tagged .sort [("desc", .bool descending)]
  | unique => tagged .unique []
  | count compact => tagged .count [("compact", .bool compact)]
  | scan pattern => tagged .scan [("pattern", .string pattern)]
  | capture pattern groups =>
      tagged .capture [("pattern", .string pattern), ("groups", Value.ofTexts groups)]

/-- A merge rule as a document. -/
def JoinSpec.toValue (spec : JoinSpec) : Value :=
  .object [("left", .string spec.left), ("right", .string spec.right),
    ("on", .list (spec.matchers.map fun keys => Value.ofTexts [keys.1, keys.2])),
    ("into", Value.ofText? spec.target)]

namespace NodeSpec

mutual

/-- A node as a document. -/
def toValue : NodeSpec → Value
  | ⟨key, find, capture, aggregate, value, name, splat, stages, children⟩ =>
      .object [("key", Value.ofText? key), ("find", Value.ofText? find),
        ("capture", Value.ofText? capture), ("aggregate", Value.ofTexts aggregate),
        ("value", Value.ofText? value), ("name", Value.ofText? name), ("splat", .bool splat),
        ("compose", .list (stages.map StageSpec.toValue)),
        (childrenField, .list (toValues children))]

def toValues : List NodeSpec → List Value
  | [] => []
  | node :: rest => toValue node :: toValues rest

end

end NodeSpec

/-- An extraction tree as a document. -/
def ExtractSpec.toValue (spec : ExtractSpec) : Value :=
  .object [("using", Value.ofText? spec.source),
    ("header", (spec.header.map Value.ofTexts).getD .null),
    ("nodes", .list (NodeSpec.toValues spec.nodes))]

/-- A job as a document. -/
def JobSpec.toValue (spec : JobSpec) : Value :=
  .object [("merge", .list (spec.rules.map JoinSpec.toValue)), ("extract", spec.extract.toValue)]

/-- The text of a job. -/
def JobSpec.toJson (spec : JobSpec) : String := spec.toValue.toJson

end TreeTable
