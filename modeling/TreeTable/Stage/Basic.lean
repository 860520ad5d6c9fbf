import TreeTable.Numeric.Total
import TreeTable.Regex.Basic
import TreeTable.Stage.Sorting
import TreeTable.Text.Blank
import TreeTable.Value.Order
import TreeTable.Value.Text

/-! # Stages of composition

A captured value passes through a chain of stages before it is put into a row. Null passes
through every stage as it is, custom functions excepted, so what is missing stays missing.
Most stages treat a value that is no list as it is or as a list of one element.
-/

namespace TreeTable

open Numeric

/-- A group of a pattern, by its position or by its name. -/
inductive Group where
  | index (i : Nat)
  | name (name : String)
  deriving DecidableEq

/-- Digits denote a group by position, everything else by name. -/
def Group.ofText (text : String) : Group :=
  match positionOfText? text with
  | some i => index i
  | none => name text

/-- One step of a chain. -/
inductive Stage where
  /-- The sum of all numbers, beginning with `start`. -/
  | sum (start : Total)
  /-- The mean of all numbers. -/
  | average
  /-- The texts of all elements but nulls, with a separator between them. -/
  | join (separator : String)
  /-- The elements but nulls in order. -/
  | sort (descending : Bool)
  /-- The elements but nulls in an order of the caller's. -/
  | sortBy (compare : Value → Value → Ordering)
  /-- The elements without repetitions. -/
  | unique
  /-- The number of elements, or of those that are not null. -/
  | count (compact : Bool)
  /-- Every match of a pattern, or every group of every match. -/
  | scan (pattern : Pattern)
  /-- Some groups of the first match, or all of them when none is named. -/
  | capture (pattern : Pattern) (groups : List Group)
  /-- A function of the caller's on every element. -/
  | map (f : Value → Value)
  /-- A function of the caller's on the whole value, null included. -/
  | custom (f : Value → Value)

namespace Value

/-- The number that a value counts as in sums: zero unless it is a number or a text that
holds one. -/
def toTotal : Value → Total
  | int n => Total.ofInt64 n
  | float x => Total.ofBinary64 x
  | string s => (Total.ofText? (String.ofList (Text.trim s.toList))).getD .zero
  | _ => .zero

/-- The elements of a list but nulls. -/
def present (items : List Value) : List Value := items.filter fun item => !item.isNull

/-- The elements in order of first occurrence, each once. -/
def distinct (items : List Value) : List Value :=
  items.foldl (fun seen item => if seen.any (·.strictEq item) then seen else seen ++ [item]) []

/-- Applies a function to the texts of the elements of a list but nulls, or to the text of
anything else. -/
def mapText (f : List Char → Value) : Value → Value
  | list items => list ((present items).map fun item => f item.text.toList)
  | other => f other.text.toList

end Value

namespace Regex

/-- The values of all groups of a match but the whole. -/
def groupValues (r : Regex) (text : List Char) (m : Match) : List Value :=
  (List.range' 1 (r.groupCount - 1)).map fun i => Value.ofText? (m.text? text i)

/-- What a match contributes to a scan: its groups, or the whole when it has none. -/
def scanned (r : Regex) (text : List Char) (m : Match) : List Value :=
  if r.groupCount = 1 then [Value.ofText? (m.text? text 0)] else r.groupValues text m

/-- The value of one group of a match. -/
def groupValue (r : Regex) (text : List Char) (m : Match) : Group → Value
  | .index i => Value.ofText? (m.text? text i)
  | .name name => Value.ofText? ((r.names.lookup name).bind (m.text? text))

end Regex

namespace Pattern

/-- All that a scan finds in a text, null when there is nothing. -/
def scan (p : Pattern) (text : List Char) : Value :=
  let found := (p.regex.allMatches text).flatMap (p.regex.scanned text)
  if found.isEmpty then .null else Value.sequester found

/-- The chosen groups of the first match, the whole match when there is no group to
choose, and null when there is no match. -/
def capture (p : Pattern) (groups : List Group) (text : List Char) : Value :=
  match p.regex.find? text with
  | none => .null
  | some m =>
      -- Choosing no group means all of them, which may still be none.
      let picked :=
        if groups.isEmpty then p.regex.groupValues text m
        else groups.map (p.regex.groupValue text m)
      if picked.isEmpty then Value.ofText? (m.text? text 0) else Value.sequester picked

end Pattern

namespace Stage

/-- Applies a function to the elements of a list, and leaves anything else alone. -/
def onList (f : List Value → Value) : Value → Value
  | .list items => f items
  | other => other

/-- The present elements of a list in some order. -/
def sorted (compare : Value → Value → Ordering) : Value → Value :=
  onList fun items => .list (TreeTable.sortBy compare (Value.present items))

def totalValue (total : Total) : Value :=
  match total.toInt64? with
  | some n => .int n
  | none => .float total.toBinary64

/-- What a stage makes of a value that is not null. -/
def applyPresent (stage : Stage) (value : Value) : Value :=
  match stage with
  | sum start => totalValue (start.sum (value.selected.map Value.toTotal))
  | average =>
      let terms := value.selected.map Value.toTotal
      if terms.isEmpty then .null else .float ((Total.zero.sum terms).mean terms.length)
  | join separator =>
      onList (fun items =>
        .string (separator.intercalate ((Value.present items).map Value.text))) value
  | sort false => sorted Value.compare value
  | sort true => sorted (fun a b => b.compare a) value
  | sortBy compare => sorted compare value
  | unique => onList (fun items => .list (Value.distinct items)) value
  | count compact =>
      let items := if compact then Value.present value.selected else value.selected
      .int (Int64.ofNat items.length)
  | scan pattern => value.mapText pattern.scan
  | capture pattern groups => value.mapText (pattern.capture groups)
  | map f =>
      match value with
      | .list items => .list (items.map f)
      | other => f other
  | custom f => f value

/-- What a stage makes of a value. -/
def apply (stage : Stage) (value : Value) : Value :=
  match stage, value with
  | custom f, value => f value
  | _, .null => .null
  | stage, value => stage.applyPresent value

/-- Passes a value through stages from the first to the last. -/
def applyChain (stages : List Stage) (value : Value) : Value :=
  stages.foldl (fun value stage => stage.apply value) value

end Stage

end TreeTable
