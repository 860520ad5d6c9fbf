import TreeTable.Json.Printer

/-! # Texts of documents

Joining, matching and looking up use the plain text of a node: strings as they are,
numbers without any exponent, lists and objects as compact JSON.
-/

namespace TreeTable.Value

open Numeric

/-- The plain text of a node. -/
def text : Value → String
  | null => "null"
  | bool b => if b then "true" else "false"
  | int n => int64Text n
  | float x => x.render .plain
  | string s => s
  | list items => toJson (list items)
  | object fields => toJson (object fields)

/-- The path text that a node stands for as a lookup key; null, lists and objects stand
for none. -/
def key? : Value → Option String
  | null => none
  | list _ => none
  | object _ => none
  | scalar => some scalar.text

end TreeTable.Value
