import TreeTable.Extract.Plan
import TreeTable.Job.Reader

/-! # Compiling jobs

A job is compiled by the same steps as declarations in code. First the shape of all nodes is
checked from the root down; only then are paths and patterns read.
-/

namespace TreeTable

open TreeTable.Path (quoteTicks)

/-- Why a job cannot be carried out. -/
inductive JobError where
  | json (error : Json.Error)
  | declaration (error : DeclarationError)
  /-- A node that does not say exactly once what it is. -/
  | unclearKind (node : String)
  /-- A capture with nodes below it. -/
  | captureWithChildren (node : String)
  deriving DecidableEq

namespace JobError

def nodeMessage (node complaint : String) : String :=
  "node " ++ quoteTicks node ++ ": " ++ complaint

def message : JobError → String
  | json error => "invalid job file: " ++ error.message
  | declaration error => error.message
  | unclearKind node =>
      nodeMessage node ("set exactly one of " ++ ", ".intercalate
        (["key", "find", "capture", "aggregate", "value"].map quoteTicks))
  | captureWithChildren node => nodeMessage node "captures cannot have children"

end JobError

/-- Adds a declared stage to a node. -/
def StageSpec.attach (spec : StageSpec) (plan : NodePlan) : NodePlan :=
  match spec with
  | sum start => plan.compose (.sum (.ofBinary64 start))
  | average => plan.compose .average
  | join separator => plan.compose (.join separator)
  | sort descending => plan.compose (.sort descending)
  | unique => plan.compose .unique
  | count compact => plan.compose (.count compact)
  | scan pattern => plan.scanning pattern
  | capture pattern groups => plan.capturing pattern (groups.map Group.ofText)

namespace NodeSpec

/-- How often a node says what it is. -/
def kindCount (spec : NodeSpec) : Nat :=
  [spec.key.isSome, spec.find.isSome, spec.capture.isSome, !spec.aggregate.isEmpty,
    spec.value.isSome].count true

/-- Whether a node captures something. -/
def isCapture (spec : NodeSpec) : Bool := spec.key.isNone && spec.find.isNone

/-- The name of a node in messages. -/
def label (spec : NodeSpec) : String :=
  (spec.key <|> spec.find <|> spec.capture <|> spec.value).getD
    ("_".intercalate spec.aggregate)

/-- The plan of a node by what it is. -/
def kindPlan (spec : NodeSpec) : NodePlan :=
  match spec.key, spec.find, spec.capture, spec.value with
  | some key, _, _, _ => .atKey key
  | none, some path, _, _ => .atPath path
  | none, none, some path, _ => .capture path
  | none, none, none, some name => .captureSelf name
  | none, none, none, none => .aggregate spec.aggregate

/-- The plan of a node without the nodes below it. -/
def ownPlan (spec : NodeSpec) : NodePlan :=
  let plan := spec.kindPlan
  let plan := match spec.name with
    | some name => plan.named name
    | none => plan
  let plan := if spec.splat then plan.splatted else plan
  spec.stages.foldl (fun plan stage => stage.attach plan) plan

/-- Checks the shape of a node alone. -/
def check (spec : NodeSpec) : Except JobError Unit := do
  if spec.kindCount ≠ 1 then throw (.unclearKind spec.label)
  if spec.isCapture && !spec.children.isEmpty then throw (.captureWithChildren spec.label)

mutual

/-- The plan of a node and of the tree below it. -/
def toPlan : NodeSpec → Except JobError NodePlan
  | ⟨key, find, capture, aggregate, value, name, splat, stages, children⟩ => do
      let spec : NodeSpec :=
        ⟨key, find, capture, aggregate, value, name, splat, stages, children⟩
      spec.check
      let below ← toPlans children
      return { spec.ownPlan with children := below }

def toPlans : List NodeSpec → Except JobError (List NodePlan)
  | [] => .ok []
  | spec :: rest => do
      let plan ← toPlan spec
      let plans ← toPlans rest
      return plan :: plans

end

end NodeSpec

namespace ExtractSpec

/-- The plan of the whole tree. -/
def toPlan (spec : ExtractSpec) : Except JobError NodePlan := do
  let children ← NodeSpec.toPlans spec.nodes
  let root := match spec.source with
    | some path => NodePlan.root.through path
    | none => NodePlan.root
  return { root with children }

/-- The extractor of a declared tree. -/
def compile (spec : ExtractSpec) : Except JobError Extractor := do
  let x ← (← spec.toPlan).compile.mapError .declaration
  return { x with header := spec.header }

end ExtractSpec

namespace JobSpec

/-- The merge rules of a job. -/
def joinRules (spec : JobSpec) : Except JobError (List JoinRule) :=
  (JoinSpec.compileAll spec.rules).mapError .declaration

/-- The extractor of a job. -/
def extractor (spec : JobSpec) : Except JobError Extractor := spec.extract.compile

/-- Reads the text of a job. -/
def read (text : String) : Except JobError JobSpec := (ofJson text).mapError .json

end JobSpec

end TreeTable
