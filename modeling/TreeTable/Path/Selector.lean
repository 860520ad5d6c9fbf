import TreeTable.Value.Basic
import TreeTable.Numeric.Integer
import TreeTable.Text.Blank

/-! # Selecting from lists

A selection is a list of selectors, each a position, a range or an open range. Negative
numbers count from the end of the list. Reading a list picks its values, one null for each
position outside; locating gives the positions that exist.
-/

namespace TreeTable

open Numeric Text

/-- One selector of a selection. -/
inductive Selector where
  | position (n : Int64)
  | range (first last : Int64) (inclusive : Bool)
  /-- From a position to the end of the list. -/
  | onward (first : Int64)
  deriving DecidableEq

/-- Selectors, whose picks follow one another. -/
abbrev Selection := List Selector

namespace Selector

/-- A position in a list, a negative one counted from the end. It may lie outside. -/
def offset (length : Nat) (n : Int64) : Int :=
  if n.toInt < 0 then length + n.toInt else n.toInt

/-- A bound in a list, brought to the nearer end when it lies outside. -/
def clamp (length : Nat) (n : Int64) : Nat := Nat.min (offset length n).toNat length

/-- Where the picks of a range begin and, if they end before the end of the list, where. -/
def bounds (length : Nat) : Selector → Nat × Nat
  | position n => (clamp length n, clamp length n)
  | range first last inclusive =>
      (clamp length first, Nat.min (clamp length last + if inclusive then 1 else 0) length)
  | onward first => (clamp length first, length)

/-- The values that a selector picks. -/
def picks (items : List Value) : Selector → List Value
  | position n =>
      let i := offset items.length n
      [if i < 0 then .null else items[i.toNat]?.getD .null]
  | selector =>
      let (first, past) := selector.bounds items.length
      (items.take past).drop first

/-- The positions that a selector picks in a list of some length. -/
def positions (length : Nat) : Selector → List Nat
  | position n =>
      let i := offset length n
      if 0 ≤ i ∧ i < length then [i.toNat] else []
  | selector =>
      let (first, past) := selector.bounds length
      List.range' first (past - first)

/-- What a selector means: the positions of a list that it is about, its bounds being counted
from the end when they are negative. -/
def Selects (length : Nat) (i : Nat) : Selector → Prop
  | position n => i < length ∧ i = offset length n
  | range first last true => i < length ∧ offset length first ≤ i ∧ i ≤ offset length last
  | range first last false => i < length ∧ offset length first ≤ i ∧ i < offset length last
  | onward first => i < length ∧ offset length first ≤ i

/-- The text of a selector. -/
def render : Selector → String
  | position n => int64Text n
  | range first last true => int64Text first ++ ".." ++ int64Text last
  | range first last false => int64Text first ++ "..." ++ int64Text last
  | onward first => int64Text first ++ "+"

/-- An integer with an optional minus sign at the head of a text, and the rest. -/
def readInteger (cs : List Char) : Option (Int64 × List Char) :=
  let (negative, digits) := match cs with
    | '-' :: rest => (true, rest)
    | all => (false, all)
  (naturalOfChars? (digits.takeWhile Char.isDigit)).bind fun n =>
    (int64OfInt? (if negative then -(n : Int) else n)).map (·, digits.dropWhile Char.isDigit)

/-- An integer and nothing else. -/
def wholeInteger? (cs : List Char) : Option Int64 :=
  match readInteger cs with
  | some (n, []) => some n
  | _ => none

/-- A selector without blanks around it: `N`, `N+`, `N-M`, `N..M` or `N...M`. -/
def ofChars? (cs : List Char) : Option Selector := do
  let (first, rest) ← readInteger cs
  match rest with
  | [] => some (position first)
  | ['+'] => some (onward first)
  | '.' :: '.' :: '.' :: last => (wholeInteger? last).map (range first · false)
  | '.' :: '.' :: last => (wholeInteger? last).map (range first · true)
  | '-' :: last => (wholeInteger? last).map (range first · true)
  | _ => none

end Selector

namespace Selection

/-- The picks of all selectors, collapsed. -/
def resolve (selection : Selection) (items : List Value) : Value :=
  Value.sequester (selection.flatMap (Selector.picks items))

def positions (selection : Selection) (length : Nat) : List Nat :=
  selection.flatMap (Selector.positions length)

/-- The parts of a text between commas. -/
def splitCommas : List Char → List (List Char)
  | [] => [[]]
  | c :: rest =>
      if c = ',' then [] :: splitCommas rest
      else match splitCommas rest with
        | [] => [[c]]
        | part :: parts => (c :: part) :: parts

/-- Reads trimmed parts as selectors; the first that is none is the error. -/
def ofParts : List (List Char) → Except String Selection
  | [] => .ok []
  | part :: parts => do
      let part := trim part
      match Selector.ofChars? part with
      | none => throw (String.ofList part)
      | some selector => return selector :: (← ofParts parts)

/-- The selection that a text between brackets denotes, or its first bad selector. -/
def ofText (text : String) : Except String Selection := ofParts (splitCommas text.toList)

/-- The text of a selection. -/
def render (selection : Selection) : String :=
  ",".intercalate (selection.map Selector.render)

end Selection

end TreeTable
