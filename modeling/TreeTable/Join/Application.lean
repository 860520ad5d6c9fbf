import TreeTable.Join.Pairing
import TreeTable.Join.Rule
import TreeTable.Path.Location
import TreeTable.Value.Order

/-! # Applying merge rules

A rule works on a document in place, and so does a sequence of rules. All keys of a rule are
evaluated in the document as it was before the rule; only then are the matches written into the
left objects, one after another. So a rule that fails leaves the document alone, and what a rule
writes never changes what it matches.
-/

namespace TreeTable

namespace Address

def isObject (document : Value) (address : Address) : Bool :=
  match address.get? document with
  | some (.object _) => true
  | _ => false

/-- The elements of a list at an address, or the address itself. -/
def spread (document : Value) (address : Address) : List Address :=
  match address.get? document with
  | some (.list items) => (List.range items.length).map address.index
  | some _ => [address]
  | none => []

/-- The objects among addresses, lists being replaced by their elements, each once. -/
def objects (document : Value) (found : List Address) : List Address :=
  ((found.flatMap (spread document)).filter (isObject document)).eraseDups

/-- The nodes at addresses, null where there is none. -/
def nodes (document : Value) (addresses : List Address) : List Value :=
  addresses.map fun address => (address.get? document).getD .null

end Address

/-- Work on a document in place that may fail. A failure leaves the document as it stands at that
moment. -/
abbrev Edit := ExceptT EvalError (StateM Value)

/-- The document that is left by work on it, and the error that ended the work. -/
def Edit.perform (edit : Edit Unit) (document : Value) : Value × Option EvalError :=
  match edit.run.run document with
  | (.ok (), after) => (after, none)
  | (.error error, after) => (after, some error)

namespace JoinRule

/-- The keys of one matcher at every left object and at every right value. -/
structure KeyTable where
  lefts : List Value
  rights : List Value

namespace KeyTable

/-- Whether two keys are there and are equal by value. -/
def agree (left right : Value) : Bool := !left.isNull && !right.isNull && left.looseEq right

/-- The left objects with the right values whose keys agree with theirs. -/
def pairs (table : KeyTable) : PairSet := .ofKeys agree table.lefts table.rights

end KeyTable

/-- The values of a key at nodes. -/
def keysAt (e : Evaluator) (key : Path) (document : Value) (nodes : List Value) :
    Except EvalError (List Value) :=
  nodes.mapM fun node => e.eval key node document

/-- The keys of a matcher, those of the right values first. -/
def keyTable (e : Evaluator) (document : Value) (lefts rights : List Value)
    (matcher : WrittenPath × WrittenPath) : Except EvalError KeyTable := do
  let rightKeys ← keysAt e matcher.2.path document rights
  let leftKeys ← keysAt e matcher.1.path document lefts
  return ⟨leftKeys, rightKeys⟩

/-- Narrows pairs down to those that agree under further matchers. Before the first matcher there
are no pairs that it could narrow down, and it begins with its own. -/
def narrowPairs (e : Evaluator) (document : Value) (lefts rights : List Value) :
    List (WrittenPath × WrittenPath) → Option PairSet → Except EvalError (Option PairSet)
  | [], found => .ok found
  | matcher :: rest, found => do
      let table ← keyTable e document lefts rights matcher
      let narrowed := match found with
        | some previous => previous.inter table.pairs
        | none => table.pairs
      narrowPairs e document lefts rights rest (some narrowed)

/-- The left objects with the right values that agree under all matchers of a rule. Without a
matcher there are none. -/
def pairsOf (e : Evaluator) (rule : JoinRule) (document : Value) (lefts rights : List Value) :
    Except EvalError PairSet :=
  return (← narrowPairs e document lefts rights rule.matchers none).getD .empty

/-- Takes over the fields of an object; anything else is ignored. -/
def absorb (fields : Fields) : Value → Fields
  | .object later => fields.merge later
  | _ => fields

/-- Writes matches into a left object. -/
def write (rule : JoinRule) (matched : List Value) : Value → Value
  | .object fields =>
      match rule.target with
      | some field => .object (Fields.insert field (Value.sequester matched) fields)
      | none => .object (matched.foldl absorb fields)
  | other => other

/-- Writes the matches of left objects, one object after another. -/
def writeInPlace (rule : JoinRule) : List (Address × List Value) → Edit Unit
  | [] => return
  | (left, matched) :: rest => do
      modify (left.modify (rule.write matched))
      writeInPlace rule rest

/-- Applies a rule in place. Its paths and keys are evaluated in the document as it stands. -/
def applyInPlace (e : Evaluator) (rule : JoinRule) : Edit Unit := do
  let found ← MonadExcept.ofExcept (e.locate rule.left.path (← get))
  let lefts := Address.objects (← get) found
  let rights := (← MonadExcept.ofExcept (e.evaluate rule.right.path (← get))).selected
  -- With nothing to join, no key is evaluated, so none can fail.
  unless lefts.isEmpty || rights.isEmpty do
    let document ← get
    let pairs ← MonadExcept.ofExcept
      (pairsOf e rule document (Address.nodes document lefts) rights)
    writeInPlace rule ((pairs.grouped rights).map fun group =>
      (lefts[group.1]?.getD [], group.2))

/-- What a rule that is applied in place makes of a document, or the error that it ends with. -/
def apply (e : Evaluator) (rule : JoinRule) (document : Value) : Except EvalError Value :=
  match (rule.applyInPlace e).perform document with
  | (after, none) => .ok after
  | (_, some error) => .error error

/-- Applies rules in place, one after another. -/
def applyEach (e : Evaluator) : List JoinRule → Edit Unit
  | [] => return
  | rule :: rest => do
      rule.applyInPlace e
      applyEach e rest

/-- Applies rules in order: the document as far as they succeed, and the error of the first
that fails. -/
def applyAll (e : Evaluator) (rules : List JoinRule) (document : Value) :
    Value × Option EvalError :=
  (applyEach e rules).perform document

end JoinRule

end TreeTable
