import TreeTable.DeclarationError
import TreeTable.Extract.Node

/-! # Declaring extraction trees

A plan is an extraction tree whose paths are still texts. It is put together node by node
and then compiled, which names the columns after the way that leads to them. Compiling goes
through the nodes from the root down, each node before its children, and reports the first
error.
-/

namespace TreeTable

inductive PlanRole where
  | interior (reach : Reach String)
  /-- A capture of some paths, under a name of its own or one made from its place. -/
  | capture (paths : List String) (column : Option String)
  deriving DecidableEq

/-- A node that is being declared. A pattern that is none stands as an error in the place of
its stage. -/
structure NodePlan where
  /-- What the node adds to the names of columns. -/
  segment : String := ""
  role : PlanRole := .interior .here
  splat : Bool := false
  stages : List (Except DeclarationError Stage) := []
  children : List NodePlan := []

namespace NodePlan

/-- The root, which adds nothing to names and stays at the document. -/
def root : NodePlan := {}

/-- An interior node under a key. -/
def atKey (key : String) : NodePlan := { segment := key, role := .interior (.key key) }

/-- An interior node at a path. -/
def atPath (path : String) : NodePlan := { segment := path, role := .interior (.find path) }

/-- A capture of a path. -/
def capture (path : String) : NodePlan := { segment := path, role := .capture [path] none }

/-- A capture of the node that it stands at. -/
def captureSelf (name : String) : NodePlan := { segment := name, role := .capture [] (some name) }

/-- A capture of several paths, whose lists are lined up. -/
def aggregate (paths : List String) : NodePlan :=
  { segment := "_".intercalate paths, role := .capture paths none }

/-- Takes the data from a path instead. -/
def through (path : String) (plan : NodePlan) : NodePlan :=
  let role := match plan.role with
    | .interior _ => .interior (.find path)
    | .capture _ column => .capture [path] column
  { plan with role }

/-- Gives a capture its column, or an interior node what it adds to names. -/
def named (name : String) (plan : NodePlan) : NodePlan :=
  match plan.role with
  | .interior _ => { plan with segment := name }
  | .capture paths _ => { plan with role := .capture paths (some name) }

def splatted (plan : NodePlan) : NodePlan := { plan with splat := true }

/-- Adds a child behind the others. -/
def add (plan child : NodePlan) : NodePlan := { plan with children := plan.children ++ [child] }

/-- The name of a node in messages. -/
def label (plan : NodePlan) : String := if plan.segment = "" then "<root>" else plan.segment

def addStage (stage : Except DeclarationError Stage) (plan : NodePlan) : NodePlan :=
  { plan with stages := plan.stages ++ [stage] }

def compose (stage : Stage) (plan : NodePlan) : NodePlan := plan.addStage (.ok stage)

/-- Adds a stage that rests on a pattern. -/
def composePattern (source : String) (stage : Pattern → Stage) (plan : NodePlan) : NodePlan :=
  plan.addStage <|
    match Pattern.ofSource? source with
    | some pattern => .ok (stage pattern)
    | none => .error (.pattern plan.label source)

/-- Adds a stage for all matches of a pattern. -/
def scanning (source : String) (plan : NodePlan) : NodePlan := plan.composePattern source .scan

/-- Adds a stage for groups of the first match of a pattern. -/
def capturing (source : String) (groups : List Group) (plan : NodePlan) : NodePlan :=
  plan.composePattern source (.capture · groups)

/-- Reads paths that a node declares. -/
def readPaths (node : String) : List String → Except DeclarationError (List Path)
  | [] => .ok []
  | text :: rest => do
      let path ← Path.declared node text
      let paths ← readPaths node rest
      return path :: paths

/-- The stages of a node, or the first error among them. -/
def readStages : List (Except DeclarationError Stage) → Except DeclarationError (List Stage)
  | [] => .ok []
  | stage :: rest => do
      let stage ← stage
      let stages ← readStages rest
      return stage :: stages

/-- Compiles what a node does itself. -/
def compileRole (plan : NodePlan) : Except DeclarationError Role :=
  match plan.role with
  | .interior reach => do
      if !plan.stages.isEmpty then throw (.composedInterior plan.label)
      match reach with
      | .here => return .interior .here
      | .key key => return .interior (.key key)
      | .find text => return .interior (.find (← Path.declared plan.label text))
  | .capture paths _ => do
      let paths ← readPaths plan.label paths
      let stages ← readStages plan.stages
      return .capture ⟨paths, plan.splat, stages⟩

/-- The segments from the root to a node. -/
def lineage (above : List String) (plan : NodePlan) : List String :=
  if plan.segment = "" then above else above ++ [plan.segment]

/-- The name of a node below some segments. -/
def nameBelow (above : List String) (plan : NodePlan) : String :=
  match plan.role with
  | .capture _ (some column) => column
  | _ => "_".intercalate (plan.lineage above)

mutual

/-- Compiles a node and the tree below it. -/
def compileBelow (above : List String) : NodePlan → Except DeclarationError ExtractNode
  | ⟨segment, role, splat, stages, children⟩ => do
      -- The children play no part in what the node does itself.
      let plan : NodePlan := ⟨segment, role, splat, stages, []⟩
      let compiled ← plan.compileRole
      let below ← compileAllBelow (plan.lineage above) children
      return ⟨plan.nameBelow above, compiled, below⟩

def compileAllBelow (above : List String) :
    List NodePlan → Except DeclarationError (List ExtractNode)
  | [] => .ok []
  | plan :: rest => do
      let node ← compileBelow above plan
      let nodes ← compileAllBelow above rest
      return node :: nodes

end

/-- Compiles a plan as the root of an extractor. -/
def compile (plan : NodePlan) : Except DeclarationError Extractor := do
  return { root := ← compileBelow [] plan }

end NodePlan

end TreeTable
