import TreeTable.Json.NumberReader
import TreeTable.Text.Hex

/-! # Reading JSON

A text is read from left to right into a `Tree`. Every step gives what was read and the
characters that are left, none when reading cannot go on. At most 127 lists and objects
may be nested; one more counts as malformed.
-/

namespace TreeTable.Json

open Numeric

/-- Blanks between the parts of a JSON text. -/
def skipBlanks (cs : List Char) : List Char :=
  cs.dropWhile fun c => c = ' ' || c = '\n' || c = '\t' || c = '\r'

/-- The code unit that four hexadecimal digits denote. -/
def hexUnit? (a b c d : Char) : Option Nat := do
  let a ← Text.hexDigit? a
  let b ← Text.hexDigit? b
  let c ← Text.hexDigit? c
  let d ← Text.hexDigit? d
  return ((a * 16 + b) * 16 + c) * 16 + d

/-- The character after a backslash, unless it begins a numeric escape. -/
def shortEscape? (c : Char) : Option Char :=
  if c = '"' ∨ c = '\\' ∨ c = '/' then some c
  else if c = 'b' then some '\x08'
  else if c = 'f' then some '\x0c'
  else if c = 'n' then some '\n'
  else if c = 'r' then some '\r'
  else if c = 't' then some '\t'
  else none

/-- The fault of a numeric escape without four hexadecimal digits: the text ends when
fewer than four bytes are left. -/
def hexFault (cs : List Char) : Error :=
  if (String.ofList (cs.take 4)).utf8ByteSize < 4 then .truncated else .malformed

/-- The fault of a leading surrogate that no numeric escape follows. -/
def surrogateFault : List Char → Error
  | [] => .truncated
  | ['\\'] => .truncated
  | '\\' :: 'u' :: rest => hexFault rest
  | _ => .malformed

/-- Reads a string behind its opening quote. -/
def readString : List Char → List Char → Except Error (String × List Char)
  | _, [] => .error .truncated
  | read, '"' :: rest => .ok (String.ofList read.reverse, rest)
  | _, ['\\'] => .error .truncated
  | read, '\\' :: 'u' :: rest =>
      match rest with
      | a :: b :: c :: d :: rest =>
          match hexUnit? a b c d with
          | none => .error .malformed
          | some unit =>
              if 0xDC00 ≤ unit ∧ unit < 0xE000 then .error .malformed
              -- A leading surrogate needs a trailing one right behind it.
              else if 0xD800 ≤ unit ∧ unit < 0xDC00 then
                match rest with
                | '\\' :: 'u' :: a :: b :: c :: d :: rest =>
                    match hexUnit? a b c d with
                    | none => .error .malformed
                    | some low =>
                        if 0xDC00 ≤ low ∧ low < 0xE000 then
                          let code := 0x10000 + (unit - 0xD800) * 0x400 + (low - 0xDC00)
                          readString (Char.ofNat code :: read) rest
                        else .error .malformed
                | other => .error (surrogateFault other)
              else readString (Char.ofNat unit :: read) rest
      | short => .error (hexFault short)
  | read, '\\' :: c :: rest =>
      match shortEscape? c with
      | some d => readString (d :: read) rest
      | none => .error .malformed
  | read, c :: rest => if c.toNat < 32 then .error .malformed else readString (c :: read) rest

/-- Reads the rest of a word whose first letter decided what it is. -/
def readWord : List Char → List Char → Except Error (List Char)
  | [], cs => .ok cs
  | _ :: _, [] => .error .truncated
  | c :: word, d :: cs => if c = d then readWord word cs else .error .malformed

/-- A part that was read whole, or the fault in its place. -/
def leaf (read : Except Error (Tree × List Char)) : Tree × Option (List Char) :=
  match read with
  | .ok (tree, rest) => (tree, some rest)
  | .error error => (.broken error, none)

mutual

/-- Reads one value. `depth` lists and objects may still be opened. -/
def readTree : Nat → Nat → List Char → Tree × Option (List Char)
  | 0, _, _ => (.broken .truncated, none)
  | fuel + 1, depth, cs =>
      match skipBlanks cs with
      | [] => (.broken .truncated, none)
      | '"' :: rest => leaf ((readString [] rest).map fun (s, rest) => (.string s, rest))
      | 'n' :: rest => leaf ((readWord "ull".toList rest).map (.null, ·))
      | 't' :: rest => leaf ((readWord "rue".toList rest).map (.bool true, ·))
      | 'f' :: rest => leaf ((readWord "alse".toList rest).map (.bool false, ·))
      | '[' :: rest =>
          match depth with
          -- The limit on nesting is hit before anything behind the bracket is read.
          | 0 => (.list (.broken .malformed false), none)
          | depth + 1 =>
              match skipBlanks rest with
              | [] => (.list (.broken .truncated false), none)
              | ']' :: rest => (.list .closed, some rest)
              | rest =>
                  let (items, left) := readItems fuel depth rest
                  (.list items, left)
      | '\x7b' :: rest =>
          match depth with
          | 0 => (.object (.broken .malformed), none)
          | depth + 1 =>
              match skipBlanks rest with
              | [] => (.object (.broken .truncated), none)
              | '\x7d' :: rest => (.object .closed, some rest)
              | rest =>
                  let (entries, left) := readEntries fuel depth rest
                  (.object entries, left)
      | c :: rest =>
          if c = '-' ∨ c.isDigit then
            leaf ((readNumber (c :: rest)).map fun (n, rest) => (.number n, rest))
          else (.broken .malformed, none)

/-- Reads an element and the elements after it. -/
def readItems : Nat → Nat → List Char → Items × Option (List Char)
  | 0, _, _ => (.broken .truncated false, none)
  | fuel + 1, depth, cs =>
      match readTree fuel depth cs with
      | (item, none) => (.cons item (.broken .malformed false), none)
      | (item, some rest) =>
          match skipBlanks rest with
          | [] => (.cons item (.broken .truncated false), none)
          | ']' :: rest => (.cons item .closed, some rest)
          | ',' :: rest =>
              match skipBlanks rest with
              | [] => (.cons item (.broken .truncated true), none)
              | ']' :: _ => (.cons item (.broken .malformed true), none)
              | rest =>
                  let (items, left) := readItems fuel depth rest
                  (.cons item items, left)
          | _ => (.cons item (.broken .malformed false), none)

/-- Reads an entry, from its key on, and the entries after it. -/
def readEntries : Nat → Nat → List Char → Entries × Option (List Char)
  | 0, _, _ => (.broken .truncated, none)
  | fuel + 1, depth, cs =>
      match skipBlanks cs with
      | [] => (.broken .truncated, none)
      | '"' :: rest =>
          match readString [] rest with
          | .error error => (.broken error, none)
          | .ok (key, rest) =>
              match skipBlanks rest with
              | [] => (.cons key (.broken .truncated) .closed, none)
              | ':' :: rest =>
                  match readTree fuel depth rest with
                  | (value, none) => (.cons key value (.broken .malformed), none)
                  | (value, some rest) =>
                      match skipBlanks rest with
                      | [] => (.cons key value (.broken .truncated), none)
                      | '\x7d' :: rest => (.cons key value .closed, some rest)
                      | ',' :: rest =>
                          let (entries, left) := readEntries fuel depth rest
                          (.cons key value entries, left)
                      | _ => (.cons key value (.broken .malformed), none)
              | _ => (.cons key (.broken .malformed) .closed, none)
      | _ => (.broken .malformed, none)

end

/-- A whole text: the tree it starts with, and whether something other than blanks
follows. -/
structure Source where
  tree : Tree
  trailing : Bool

/-- Reads a whole text. -/
def Source.ofText (text : String) : Source :=
  let cs := text.toList
  match readTree (2 * cs.length + 2) 127 cs with
  | (tree, none) => ⟨tree, false⟩
  | (tree, some rest) => ⟨tree, !(skipBlanks rest).isEmpty⟩

/-- Takes the wanted shape out of a text. A wrong shape is found before anything that
follows the value. -/
def Source.decode (source : Source) (shape : Tree → Except Error α) : Except Error α := do
  let result ← shape source.tree
  if source.trailing then throw .malformed
  return result

end TreeTable.Json

namespace TreeTable.Value

/-- The document that a JSON text denotes. -/
def ofJson (text : String) : Except Json.Error Value :=
  (Json.Source.ofText text).decode Json.Tree.toValue

end TreeTable.Value
