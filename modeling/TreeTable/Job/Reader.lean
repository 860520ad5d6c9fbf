import TreeTable.Job.Spec
import TreeTable.Json.Reader
import TreeTable.Json.Shape

/-! # Reading jobs

Records of a job accept no unknown key. Stages are told apart by the field `fn`, which may
stand anywhere among the others, and ignore fields that they do not know.
-/

namespace TreeTable

open Json Numeric

/-- The kinds of stages that a job can declare. -/
inductive StageKind where
  | sum | average | join | sort | unique | count | scan | capture
  deriving DecidableEq

namespace StageKind

def name : StageKind → String
  | sum => "sum"
  | average => "avg"
  | join => "join"
  | sort => "sort"
  | unique => "uniq"
  | count => "count"
  | scan => "match"
  | capture => "capture"

def all : List StageKind := [sum, average, join, sort, unique, count, scan, capture]

def ofName? (name : String) : Option StageKind := all.find? fun kind => kind.name == name

theorem ofName?_name (kind : StageKind) : ofName? kind.name = some kind := by
  cases kind <;> rfl

/-- The fields of a kind, in order. -/
def fieldNames : StageKind → List String
  | sum => ["start"]
  | join => ["sep"]
  | sort => ["desc"]
  | count => ["compact"]
  | scan => ["pattern"]
  | capture => ["pattern", "groups"]
  | average => []
  | unique => []

end StageKind

namespace StageSpec

/-- The field of the kind of a stage. -/
def kindField : String := "fn"

def readKind (tree : Tree) : Except Json.Error StageKind := do
  match StageKind.ofName? (← tree.asString) with
  | some kind => return kind
  | none => throw .mistyped

/-- The value of a field, unless the field is repeated. -/
def fieldOf (fields : List (String × Tree)) (name : String) : Except Json.Error (Option Tree) :=
  match fields.filter (·.1 == name) with
  | [] => .ok none
  | [field] => .ok (some field.2)
  | _ => .error .mistyped

def readRequired (fields : List (String × Tree)) (name : String) (shape : Shape α) :
    Except Json.Error α := do
  match ← fieldOf fields name with
  | some tree => shape tree
  | none => throw .mistyped

def readOptional (fields : List (String × Tree)) (name : String) (shape : Shape α)
    (default : α) : Except Json.Error α := do
  match ← fieldOf fields name with
  | some tree => shape tree
  | none => return default

/-- The stage of a kind with these fields. -/
def ofFields (fields : List (String × Tree)) : StageKind → Except Json.Error StageSpec
  | .sum => do return sum (← readOptional fields "start" Tree.asFloat .zero)
  | .average => .ok average
  | .join => do return join (← readOptional fields "sep" Tree.asString "")
  | .sort => do return sort (← readOptional fields "desc" Tree.asBool false)
  | .unique => .ok unique
  | .count => do return count (← readOptional fields "compact" Tree.asBool false)
  | .scan => do return scan (← readRequired fields "pattern" Tree.asString)
  | .capture => do
      let pattern ← readRequired fields "pattern" Tree.asString
      let groups ← readOptional fields "groups" (Tree.asList Tree.asString) []
      return capture pattern groups

/-- The kind and the other fields of a stage that is written as an object. -/
def readEntries :
    Entries → Option StageKind → Except Json.Error (StageKind × List (String × Tree))
  | .closed, some kind => .ok (kind, [])
  | .closed, none => .error .mistyped
  | .broken error, _ => .error error
  | .cons key value rest, kind =>
      if key = kindField then
        if kind.isSome then .error .mistyped
        else do readEntries rest (some (← readKind value))
      else do
        let value ← value.whole
        let (kind, fields) ← readEntries rest kind
        return (kind, (key, value) :: fields)

/-- A stage in either form. As a list it begins with its kind. -/
def ofTree : Shape StageSpec
  | .object entries => do
      let (kind, fields) ← readEntries entries none
      ofFields fields kind
  | .list .closed => .error .mistyped
  | .list (.broken error _) => .error error
  | .list (.cons kind rest) => do
      let kind ← readKind kind
      let values ← rest.readAll Tree.whole
      if kind.fieldNames.length < values.length then throw .mistyped
      ofFields (kind.fieldNames.zip values) kind
  | other => .error other.wrongKind

end StageSpec

namespace JoinSpec

/-- The fields of a merge rule, in order. -/
def fields : List (FieldShape JoinSpec) := [
  .mandatory "left" Tree.asString fun left spec => { spec with left },
  .mandatory "right" Tree.asString fun right spec => { spec with right },
  .mandatory "on" (Tree.asList Tree.asPair) fun matchers spec => { spec with matchers },
  .optional "into" (Tree.asOption Tree.asString) fun target spec => { spec with target }]

def ofTree : Shape JoinSpec := Tree.asRecord fields ⟨"", "", [], none⟩

end JoinSpec

namespace NodeSpec

def textField (name : String) (put : Option String → NodeSpec → NodeSpec) :
    FieldShape NodeSpec :=
  .optional name (Tree.asOption Tree.asString) put

/-- The fields of a node but its children, which come last, in order. -/
def ownFields : List (FieldShape NodeSpec) := [
  textField "key" fun key spec => { spec with key },
  textField "find" fun find spec => { spec with find },
  textField "capture" fun capture spec => { spec with capture },
  .optional "aggregate" (Tree.asList Tree.asString) fun aggregate spec => { spec with aggregate },
  textField "value" fun value spec => { spec with value },
  textField "name" fun name spec => { spec with name },
  .optional "splat" Tree.asBool fun splat spec => { spec with splat },
  .optional "compose" (Tree.asList StageSpec.ofTree) fun stages spec => { spec with stages }]

def childrenField : String := "children"

mutual

/-- A node with the nodes below it. -/
def ofTree : Tree → Except Json.Error NodeSpec
  | .list items => readItems items ownFields {}
  | .object entries => readEntries entries [] {}
  | .broken error => .error error
  | _ => .error .mistyped

def listOfTree : Tree → Except Json.Error (List NodeSpec)
  | .list items => ofItems items
  | .broken error => .error error
  | _ => .error .mistyped

def ofItems : Items → Except Json.Error (List NodeSpec)
  | .closed => .ok []
  | .broken error _ => .error error
  | .cons item rest => do
      let node ← ofTree item
      let nodes ← ofItems rest
      return node :: nodes

/-- Reads the fields of a node in their order. -/
def readItems : Items → List (FieldShape NodeSpec) → NodeSpec → Except Json.Error NodeSpec
  | .closed, _, spec => .ok spec
  | .broken error _, _, _ => .error error
  | .cons item rest, [], spec => do
      let children ← listOfTree item
      rest.finish
      return { spec with children }
  | .cons item rest, field :: fields, spec => do
      let spec ← field.read item spec
      readItems rest fields spec

/-- Reads the entries of a node. `seen` holds the keys before. -/
def readEntries : Entries → List String → NodeSpec → Except Json.Error NodeSpec
  | .closed, _, spec => .ok spec
  | .broken error, _, _ => .error error
  | .cons key value rest, seen, spec =>
      if seen.contains key then .error .mistyped
      else if key = childrenField then do
        let children ← listOfTree value
        readEntries rest (key :: seen) { spec with children }
      else match ownFields.find? (·.name == key) with
        | none => .error .mistyped
        | some field => do
            let spec ← field.read value spec
            readEntries rest (key :: seen) spec

end

end NodeSpec

namespace ExtractSpec

/-- The fields of an extraction tree, in order. -/
def fields : List (FieldShape ExtractSpec) := [
  .optional "using" (Tree.asOption Tree.asString) fun source spec => { spec with source },
  .optional "header" (Tree.asOption (Tree.asList Tree.asString))
    fun header spec => { spec with header },
  .optional "nodes" NodeSpec.listOfTree fun nodes spec => { spec with nodes }]

def ofTree : Shape ExtractSpec := Tree.asRecord fields {}

end ExtractSpec

namespace JobSpec

/-- The fields of a job, in order. -/
def fields : List (FieldShape JobSpec) := [
  .optional "merge" (Tree.asList JoinSpec.ofTree) fun rules spec => { spec with rules },
  .optional "extract" ExtractSpec.ofTree fun extract spec => { spec with extract }]

def ofTree : Shape JobSpec := Tree.asRecord fields {}

/-- The job that a text declares. -/
def ofJson (text : String) : Except Json.Error JobSpec := (Source.ofText text).decode ofTree

end JobSpec

end TreeTable
