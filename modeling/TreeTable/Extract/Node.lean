import TreeTable.Path.Basic
import TreeTable.Stage.Basic

/-! # Extraction trees

An extraction tree is shaped like the part of a document that it flattens. Interior nodes
lead from the data of their parent to their own, captures write columns.
-/

namespace TreeTable

/-- How an interior node reaches its data from the data of its parent. -/
inductive Reach (path : Type) where
  /-- It stays where its parent is. -/
  | here
  /-- Through one field. -/
  | key (key : String)
  /-- Through a path. -/
  | find (path : path)
  deriving DecidableEq

/-- What a capture writes. -/
structure Capture where
  /-- The captured paths; the node itself when there are none. -/
  paths : List Path
  /-- Whether objects and lists are spread over several columns. -/
  splat : Bool
  stages : List Stage

inductive Role where
  | interior (reach : Reach Path)
  | capture (capture : Capture)

/-- A node with its name: the column of a capture, the common beginning of the names below
an interior node. -/
structure ExtractNode where
  name : String
  role : Role
  children : List ExtractNode

namespace ExtractNode

def isCapture (node : ExtractNode) : Bool :=
  match node.role with
  | .capture _ => true
  | .interior _ => false

mutual

/-- The columns of all captures in a tree in the order of declaration, a splatted one under
its own name. Nothing below a capture counts. -/
def columns : ExtractNode → List String
  | ⟨name, .capture _, _⟩ => [name]
  | ⟨_, .interior _, children⟩ => columnsOf children

def columnsOf : List ExtractNode → List String
  | [] => []
  | node :: rest => columns node ++ columnsOf rest

end

end ExtractNode

/-- An extraction tree with the columns to show, if they are fixed beforehand. -/
structure Extractor where
  root : ExtractNode
  header : Option (List String) := none

end TreeTable
