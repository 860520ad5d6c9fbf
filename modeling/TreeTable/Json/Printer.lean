import TreeTable.Value.Basic
import TreeTable.Numeric.FloatText
import TreeTable.Text.Hex

/-! # Writing documents as JSON

The compact form has no blanks at all; the indented form puts every element and field on
a line of its own, two columns further in. Floats that JSON cannot write become null.
-/

namespace TreeTable.Json

open Numeric

/-- A character inside a string: a short escape where there is one, a numeric escape for
other control characters, itself otherwise. -/
def escapeChar (c : Char) : List Char :=
  if c = '"' then ['\\', '"']
  else if c = '\\' then ['\\', '\\']
  else if c = '\x08' then ['\\', 'b']
  else if c = '\x0c' then ['\\', 'f']
  else if c = '\n' then ['\\', 'n']
  else if c = '\r' then ['\\', 'r']
  else if c = '\t' then ['\\', 't']
  else if c.toNat < 32 then '\\' :: 'u' :: Text.hexDigits 4 c.toNat
  else [c]

def stringChars (s : String) : List Char := '"' :: (s.toList.flatMap escapeChar ++ ['"'])

def floatChars (x : Binary64) : List Char :=
  if x.isFinite then (x.render .document).toList else "null".toList

def scalarChars : Value → List Char
  | .null => "null".toList
  | .bool b => (if b then "true" else "false").toList
  | .int n => (int64Text n).toList
  | .float x => floatChars x
  | .string s => stringChars s
  | .list _ => []
  | .object _ => []

mutual

/-- The compact form. -/
def compactChars : Value → List Char
  | .list [] => "[]".toList
  | .list (item :: rest) => '[' :: (compactChars item ++ compactItems rest)
  | .object [] => ['\x7b', '\x7d']
  | .object ((key, value) :: rest) =>
      '\x7b' :: (stringChars key ++ ':' :: (compactChars value ++ compactFields rest))
  | scalar => scalarChars scalar

/-- The elements after the first, and the closing bracket. -/
def compactItems : List Value → List Char
  | [] => [']']
  | item :: rest => ',' :: (compactChars item ++ compactItems rest)

/-- The fields after the first, and the closing brace. -/
def compactFields : List (String × Value) → List Char
  | [] => ['\x7d']
  | (key, value) :: rest =>
      ',' :: (stringChars key ++ ':' :: (compactChars value ++ compactFields rest))

end

/-- A line break and the columns of a nesting level. -/
def newLine (level : Nat) : List Char := '\n' :: List.replicate (2 * level) ' '

mutual

/-- The indented form at a nesting level. -/
def indentedChars (level : Nat) : Value → List Char
  | .list [] => "[]".toList
  | .list (item :: rest) =>
      '[' :: (newLine (level + 1) ++ indentedChars (level + 1) item ++ indentedItems level rest)
  | .object [] => ['\x7b', '\x7d']
  | .object ((key, value) :: rest) =>
      '\x7b' :: (newLine (level + 1) ++ stringChars key ++ ':' :: ' ' ::
        (indentedChars (level + 1) value ++ indentedFields level rest))
  | scalar => scalarChars scalar

def indentedItems (level : Nat) : List Value → List Char
  | [] => newLine level ++ [']']
  | item :: rest =>
      ',' :: (newLine (level + 1) ++ indentedChars (level + 1) item ++ indentedItems level rest)

def indentedFields (level : Nat) : List (String × Value) → List Char
  | [] => newLine level ++ ['\x7d']
  | (key, value) :: rest =>
      ',' :: (newLine (level + 1) ++ stringChars key ++ ':' :: ' ' ::
        (indentedChars (level + 1) value ++ indentedFields level rest))

end

end TreeTable.Json

namespace TreeTable.Value

/-- Compact JSON text. -/
def toJson (value : Value) : String := String.ofList (Json.compactChars value)

/-- JSON text with one element or field to a line. -/
def toIndentedJson (value : Value) : String := String.ofList (Json.indentedChars 0 value)

end TreeTable.Value
