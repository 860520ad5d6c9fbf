import TreeTable.Path.Evaluation
import TreeTable.Address

/-! # Locating paths

Locating follows the same rules as evaluating and gives the addresses of the nodes that a
path selects. Literals select nothing, and neither does what is missing.
-/

namespace TreeTable

open Numeric

namespace Path

/-- The addresses that a selection leaves of a value at an address. What is no list counts
as a list of one element, which is the value itself. -/
def narrowAddress (selection : Option Selection) (here : Address) (value : Value) :
    List Address :=
  match selection, value with
  | none, _ => [here]
  | some _, .null => []
  | some selection, .list items => (selection.positions items.length).map here.index
  | some selection, _ => if (selection.positions 1).isEmpty then [] else [here]

/-- The positions that a selection leaves of a number of children, all of them when there is
none. -/
def childPositions (selection : Option Selection) (length : Nat) : List Nat :=
  match selection with
  | none => List.range length
  | some selection => selection.positions length

mutual

/-- The addresses of a field of the node at an address. -/
def locateField (key : String) (selection : Option Selection) :
    Address → Value → List Address
  | here, .object fields =>
      if key = wildcard then
        (childPositions selection fields.length).filterMap fun i =>
          fields[i]?.map fun field => here.field field.1
      else match Fields.get? fields key with
        | some value => narrowAddress selection (here.field key) value
        | none => []
  | here, .list items =>
      if key = wildcard then (childPositions selection items.length).map here.index
      else match int64OfText? key with
        | some n =>
            (Selection.positions [.position n] items.length).flatMap fun i =>
              match items[i]? with
              | some item => narrowAddress selection (here.index i) item
              | none => []
        | none => locateFieldIn key selection here 0 items
  | _, _ => []

/-- The addresses of a field in the elements of a list, from a position on. -/
def locateFieldIn (key : String) (selection : Option Selection) (here : Address) :
    Nat → List Value → List Address
  | _, [] => []
  | i, item :: rest =>
      locateField key selection (here.index i) item ++
        locateFieldIn key selection here (i + 1) rest

end

mutual

/-- The addresses of the fields whose keys a pattern matches. -/
def locateKeys (pattern : Pattern) : Address → Value → List Address
  | here, .object fields =>
      (fields.filter fun field => pattern.isMatch field.1).map fun field => here.field field.1
  | here, .list items => locateKeysIn pattern here 0 items
  | _, _ => []

def locateKeysIn (pattern : Pattern) (here : Address) : Nat → List Value → List Address
  | _, [] => []
  | i, item :: rest =>
      locateKeys pattern (here.index i) item ++ locateKeysIn pattern here (i + 1) rest

end

/-- What locating a lookup of a path text gives. -/
abbrev AddressResolver := String → Except EvalError (List Address)

/-- The addresses that a lookup of keys gives; keys that name no path give none. -/
def locateLookups (find : AddressResolver) : List Value → Except EvalError (List Address)
  | [] => .ok []
  | key :: rest => do
      let found ← match key.key? with
        | some text => find text
        | none => .ok []
      return found ++ (← locateLookups find rest)

/-- Goes on from every address in turn. -/
def locateFrom (locate : Address → Except EvalError (List Address)) :
    List Address → Except EvalError (List Address)
  | [] => .ok []
  | here :: rest => do
      let found ← locate here
      return found ++ (← locateFrom locate rest)

mutual

/-- The addresses that a path selects from the node at an address. Lookups are resolved
from outside: their keys to values, their targets to addresses. -/
def locate (resolve : Resolver) (find : AddressResolver) (root : Value) :
    Path → Address → Except EvalError (List Address)
  | literal _, _ => .ok []
  | field key selection, here =>
      .ok (locateField key selection here ((here.get? root).getD .null))
  | keys pattern, here => .ok (locateKeys pattern here ((here.get? root).getD .null))
  | any branches, here => locateAny resolve find root branches here
  | all branches, here => do
      return (← locateAll resolve find root branches here).getD []
  | each branches, here => locateEach resolve find root branches here
  | lookup inner, here => do
      -- The keys are values of the node, their targets are addresses from the root.
      let key ← inner.eval resolve ((here.get? root).getD .null)
      locateLookups find key.selected
  | inverse _, _ => .error .unsupported
  | steps path, here => locateSteps resolve find root path [here]

/-- The addresses of the first branch that selects anything. -/
def locateAny (resolve : Resolver) (find : AddressResolver) (root : Value) :
    List Path → Address → Except EvalError (List Address)
  | [], _ => .ok []
  | branch :: rest, here => do
      let found ← locate resolve find root branch here
      if found.isEmpty then locateAny resolve find root rest here else return found

/-- The addresses of all branches, or none from the first on that selects nothing. -/
def locateAll (resolve : Resolver) (find : AddressResolver) (root : Value) :
    List Path → Address → Except EvalError (Option (List Address))
  | [], _ => .ok (some [])
  | branch :: rest, here => do
      let found ← locate resolve find root branch here
      if found.isEmpty then return none
      else
        let others ← locateAll resolve find root rest here
        return others.map (found ++ ·)

def locateEach (resolve : Resolver) (find : AddressResolver) (root : Value) :
    List Path → Address → Except EvalError (List Address)
  | [], _ => .ok []
  | branch :: rest, here => do
      let found ← locate resolve find root branch here
      return found ++ (← locateEach resolve find root rest here)

/-- Threads addresses through steps. -/
def locateSteps (resolve : Resolver) (find : AddressResolver) (root : Value) :
    List Path → List Address → Except EvalError (List Address)
  | [], current => .ok current
  | head :: rest, current => do
      let next ← locateFrom (locate resolve find root head) current
      locateSteps resolve find root rest next

end

/-- The addresses that a lookup gives when `remaining` lookups may still be nested. -/
def findWithin (limit : Nat) (root : Value) : Nat → AddressResolver
  | 0, key => .error (.cycle key limit)
  | remaining + 1, key =>
      match parse key with
      | .ok path =>
          locate (resolveWithin limit root remaining) (findWithin limit root remaining) root path []
      | .error _ => .ok []

end Path

/-- The addresses of the nodes that a path selects in a document. -/
def Evaluator.locate (e : Evaluator) (path : Path) (document : Value) :
    Except EvalError (List Address) :=
  path.locate (Path.resolveWithin e.limit document e.limit)
    (Path.findWithin e.limit document e.limit) document []

end TreeTable
