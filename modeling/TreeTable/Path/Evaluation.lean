import TreeTable.Path.Parser
import TreeTable.Value.Text

/-! # Evaluating paths

Missing data is never an error: absent keys and positions are null. A step that walks into
its node is spread over the elements of a list and the results are flattened by one level,
at every level of nesting. Lookups evaluate a key and start again at the root; only their
nesting is limited, so evaluation is a function of the path and of what lookups give.
-/

namespace TreeTable

open Numeric

/-- Why a path has no value. -/
inductive EvalError where
  /-- A lookup of this key would be nested deeper than the limit. -/
  | cycle (key : String) (limit : Nat)
  /-- The reserved inverse. -/
  | unsupported
  deriving DecidableEq

def EvalError.message : EvalError → String
  | cycle key limit =>
      "lookup of \x60" ++ key ++ "\x60 exceeded depth " ++ toString limit ++
        "; the document references itself"
  | unsupported => "unsupported operator: inverse selection"

namespace Value

/-- Narrows a selected value. A value that is no list acts as a list of one element. -/
def narrow (value : Value) : Option Selection → Value
  | none => value
  | some selection =>
      match value with
      | null => null
      | list items => selection.resolve items
      | other => selection.resolve [other]

mutual

/-- The field of a node under a key, narrowed. In a list, the wildcard is the list itself,
an integer is a position, and any other key is read from every element. -/
def fieldAt (key : String) (selection : Option Selection) : Value → Value
  | object fields =>
      let value :=
        if key = Path.wildcard then list (fields.map Prod.snd)
        else (Fields.get? fields key).getD null
      value.narrow selection
  | list items =>
      if key = Path.wildcard then (list items).narrow selection
      else match int64OfText? key with
        | some n => (Selection.resolve [.position n] items).narrow selection
        | none => sequester (flattenOne (fieldsAt key selection items))
  | null => null
  | scalar => if key = Path.wildcard then scalar.narrow selection else null

def fieldsAt (key : String) (selection : Option Selection) : List Value → List Value
  | [] => []
  | item :: rest => fieldAt key selection item :: fieldsAt key selection rest

end

mutual

/-- The values of the keys that a pattern matches, null when there is none. -/
def keysAt (pattern : Pattern) : Value → Value
  | object fields =>
      let matched := (fields.filter fun field => pattern.isMatch field.1).map Prod.snd
      if matched.isEmpty then null else sequester matched
  | list items => sequester (flattenOne (allKeysAt pattern items))
  | _ => null

def allKeysAt (pattern : Pattern) : List Value → List Value
  | [] => []
  | item :: rest => keysAt pattern item :: allKeysAt pattern rest

end

mutual

/-- Applies a function to everything in a list that is no list, and flattens the results by
one level at every level of nesting. -/
def spread (f : Value → Except ε Value) : Value → Except ε Value
  | list items => do return sequester (flattenOne (← spreadItems f items))
  | other => f other

def spreadItems (f : Value → Except ε Value) : List Value → Except ε (List Value)
  | [] => .ok []
  | item :: rest => do
      let value ← spread f item
      let values ← spreadItems f rest
      return value :: values

end

end Value

namespace Path

/-- What a lookup of a path text gives. -/
abbrev Resolver := String → Except EvalError Value

/-- What a lookup of a key gives: null for keys that name no path. -/
def resolveKey (resolve : Resolver) (key : Value) : Except EvalError Value :=
  match key.key? with
  | some text => resolve text
  | none => .ok .null

/-- What a lookup of all keys in a value gives. -/
def resolveKeys (resolve : Resolver) : Value → Except EvalError Value
  | .null => .ok .null
  | .list items => do
      let values ← items.mapM (resolveKey resolve)
      return Value.sequester (Value.flattenOne values)
  | key => resolveKey resolve key

/-- Goes on with the value of a step: after a wildcard with further steps, from each element
of a list. -/
def continueFrom (head : Path) (further : Bool) (onward : Value → Except EvalError Value)
    (value : Value) : Except EvalError Value :=
  match value with
  | .list items =>
      if head.isWildcard && further then do
        let values ← items.mapM onward
        return Value.sequester values
      else onward (.list items)
  | other => onward other

mutual

/-- The value of a path at a node, lookups being resolved from outside. -/
def eval (resolve : Resolver) : Path → Value → Except EvalError Value
  | literal text, _ => .ok (.string text)
  | field key selection, node => .ok (node.fieldAt key selection)
  | keys pattern, node => .ok (node.keysAt pattern)
  | any branches, node => evalAny resolve branches node
  | all branches, node => do
      match ← evalAll resolve branches node with
      | some values => return .list values
      | none => return .null
  | each branches, node => do return .list (← evalEach resolve branches node)
  | lookup inner, node => do resolveKeys resolve (← eval resolve inner node)
  | inverse _, _ => .error .unsupported
  | steps path, node => evalSteps resolve path node

/-- The first value that is not null. -/
def evalAny (resolve : Resolver) : List Path → Value → Except EvalError Value
  | [], _ => .ok .null
  | branch :: rest, node => do
      let value ← eval resolve branch node
      if value.isNull then evalAny resolve rest node else return value

/-- All values, or none from the first null on. -/
def evalAll (resolve : Resolver) : List Path → Value → Except EvalError (Option (List Value))
  | [], _ => .ok (some [])
  | branch :: rest, node => do
      let value ← eval resolve branch node
      if value.isNull then return none
      else
        let values ← evalAll resolve rest node
        return values.map (value :: ·)

def evalEach (resolve : Resolver) : List Path → Value → Except EvalError (List Value)
  | [], _ => .ok []
  | branch :: rest, node => do
      let value ← eval resolve branch node
      let values ← evalEach resolve rest node
      return value :: values

/-- Threads a node through steps. -/
def evalSteps (resolve : Resolver) : List Path → Value → Except EvalError Value
  | [], node => .ok node
  | head :: rest, node =>
      let step (node : Value) := do
        let value ← eval resolve head node
        -- Only steps behind a wildcard are spread here; later keys spread by themselves.
        continueFrom head (!rest.isEmpty) (evalSteps resolve rest) value
      if head.navigates then Value.spread step node else step node

end

/-- What a lookup gives when `remaining` lookups may still be nested: the value at the root
of the path that the text denotes, null when it denotes none. -/
def resolveWithin (limit : Nat) (root : Value) : Nat → Resolver
  | 0, key => .error (.cycle key limit)
  | remaining + 1, key =>
      match parse key with
      | .ok path => eval (resolveWithin limit root remaining) path root
      | .error _ => .ok .null

end Path

/-- How many lookups may be nested. -/
structure Evaluator where
  limit : Nat := 32
  deriving DecidableEq

namespace Evaluator

/-- The value of a path at a node of a document; lookups start at the root. -/
def eval (e : Evaluator) (path : Path) (node root : Value) : Except EvalError Value :=
  path.eval (Path.resolveWithin e.limit root e.limit) node

/-- The value of a path at the root of a document. -/
def evaluate (e : Evaluator) (path : Path) (document : Value) : Except EvalError Value :=
  e.eval path document document

end Evaluator

end TreeTable
