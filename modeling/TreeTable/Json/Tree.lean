import TreeTable.Value.Basic
import TreeTable.Numeric.Integer

/-! # JSON texts as they are read

A reader that wants a certain shape meets the parts of a text one after another, and the
first part that is wrong decides the error. So a text is read into a tree that goes as far
as the text does: where the text cannot be read further, the tree ends in a fault. Such a
tree repeats repeated keys; turning it into a document keeps the last value of a key at
its first place.
-/

namespace TreeTable.Json

open Numeric

/-- What is wrong with a text. -/
inductive Error where
  /-- The text is not JSON. -/
  | malformed
  /-- The text is JSON up to here, but not of the shape that is wanted. -/
  | mistyped
  /-- The text ends too early. -/
  | truncated
  deriving DecidableEq

def Error.message : Error → String
  | malformed => "the text is not valid JSON"
  | mistyped => "the JSON text does not have the expected shape"
  | truncated => "the JSON text ends too early"

/-- A number as it is written: whole numbers of at most 64 bits, signed or not, are kept
apart from all others. -/
inductive Number where
  | whole (i : Int)
  | float (x : Binary64)
  deriving DecidableEq

mutual

/-- A text as far as it can be read. -/
inductive Tree where
  | null
  | bool (b : Bool)
  | number (n : Number)
  | string (s : String)
  | list (items : Items)
  | object (entries : Entries)
  | broken (error : Error)

/-- The elements of a list. A broken list remembers whether a comma was the last thing
read. -/
inductive Items where
  | closed
  | broken (error : Error) (pastComma : Bool)
  | cons (item : Tree) (rest : Items)

/-- The entries of an object, keys repeated as they stand in the text. -/
inductive Entries where
  | closed
  | broken (error : Error)
  | cons (key : String) (value : Tree) (rest : Entries)

end

namespace Number

/-- Whole numbers beyond 64 signed bits become floats. -/
def toValue : Number → Value
  | whole i => match int64OfInt? i with
      | some n => .int n
      | none => .float (Binary64.ofInt i)
  | float x => .float x

/-- The number as a float. -/
def toBinary64 : Number → Binary64
  | whole i => Binary64.ofInt i
  | float x => x

end Number

mutual

/-- The document of a text that could be read to its end. -/
def Tree.toValue : Tree → Except Error Value
  | .null => .ok .null
  | .bool b => .ok (.bool b)
  | .number n => .ok n.toValue
  | .string s => .ok (.string s)
  | .list items => items.toValues.map .list
  | .object entries => (entries.toFields []).map .object
  | .broken error => .error error

def Items.toValues : Items → Except Error (List Value)
  | .closed => .ok []
  | .broken error _ => .error error
  | .cons item rest => do
      let value ← item.toValue
      let values ← rest.toValues
      return value :: values

/-- Writes the entries into the fields read so far. -/
def Entries.toFields : Entries → Fields → Except Error Fields
  | .closed, fields => .ok fields
  | .broken error, _ => .error error
  | .cons key value rest, fields => do
      let value ← value.toValue
      rest.toFields (fields.insert key value)

end

end TreeTable.Json
