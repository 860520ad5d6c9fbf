import TreeTable.Value.Basic

/-! # Addresses in documents

An address leads from the root of a document to one of its nodes, through fields and list
positions. Following an address and changing the node at it go the same way.
-/

namespace TreeTable

/-- One step of an address. -/
inductive Step where
  | field (key : String)
  | index (i : Nat)
  deriving DecidableEq

/-- Steps from the root of a document down. -/
abbrev Address := List Step

namespace Step

/-- The child that a step leads to. -/
def get? : Step → Value → Option Value
  | field key, .object fields => Fields.get? fields key
  | index i, .list items => items[i]?
  | _, _ => none

/-- Puts a value where a step leads, if it leads anywhere. -/
def set (value : Value) : Step → Value → Value
  | field key, .object fields => .object (Fields.set key value fields)
  | index i, .list items => .list (items.set i value)
  | _, node => node

def render : Step → String
  | field key => "." ++ key
  | index i => "[" ++ toString i ++ "]"

/-- A step leads from a list to an element, or from an object to a field. -/
theorem get?_cases {step : Step} {node child : Value} (h : step.get? node = some child) :
    (∃ i items, step = index i ∧ node = .list items ∧ items[i]? = some child) ∨
      ∃ key fields, step = field key ∧ node = .object fields ∧
        Fields.get? fields key = some child := by
  cases node with
  | list items =>
      cases step with
      | field key => cases h
      | index i => exact .inl ⟨i, items, rfl, rfl, h⟩
  | object fields =>
      cases step with
      | field key => exact .inr ⟨key, fields, rfl, rfl, h⟩
      | index i => cases h
  | _ => cases step <;> cases h

end Step

namespace Address

/-- The node at an address; none once a step does not match the data. -/
def get? : Address → Value → Option Value
  | [], node => some node
  | step :: rest, node => (step.get? node).bind (get? rest)

/-- Changes the node at an address, if there is one. -/
def modify (change : Value → Value) : Address → Value → Value
  | [], node => change node
  | step :: rest, node =>
      match step.get? node with
      | some child => step.set (modify change rest child) node
      | none => node

/-- Puts a value at an address, if there is a node. -/
def set (value : Value) (address : Address) (document : Value) : Value :=
  modify (fun _ => value) address document

/-- The address of a field of the node at an address. -/
def field (address : Address) (key : String) : Address := address ++ [.field key]

/-- The address of an element of the list at an address. -/
def index (address : Address) (i : Nat) : Address := address ++ [.index i]

/-- The text of an address, the root being a dollar sign. -/
def render (address : Address) : String := "$" ++ String.join (address.map Step.render)

theorem get?_append (first second : Address) (node : Value) :
    get? (first ++ second) node = (get? first node).bind (get? second) := by
  induction first generalizing node with
  | nil => rfl
  | cons step rest ih =>
      simp only [List.cons_append, get?]
      cases step.get? node with
      | none => rfl
      | some child => exact ih child

theorem get?_field {root : Value} {fields : Fields} {here : Address}
    (h : here.get? root = some (.object fields)) (key : String) :
    (here.field key).get? root = Fields.get? fields key := by
  rw [field, get?_append, h]
  exact Option.bind_fun_some _

theorem get?_index {root : Value} {items : List Value} {here : Address}
    (h : here.get? root = some (.list items)) (i : Nat) :
    (here.index i).get? root = items[i]? := by
  rw [index, get?_append, h]
  exact Option.bind_fun_some _

end Address

end TreeTable
