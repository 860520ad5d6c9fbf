import TreeTable.Extract.Node
import TreeTable.Path.Evaluation

/-! # Rows of extraction trees

An interior node over a list repeats what is below it once for every element, and once over
null when the list is empty. Children combine as a cross product, the first one varying
slowest. So a missing value becomes a null in a column and never a missing row.
-/

namespace TreeTable

/-- Columns and their values, in order. -/
abbrev Row := Fields

namespace Row

/-- Every row of the first list merged with every row of the second. -/
def cross (first second : List Row) : List Row :=
  first.flatMap fun row => second.map fun other => Fields.merge row other

theorem length_cross (first second : List Row) :
    (cross first second).length = first.length * second.length := by
  induction first with
  | nil => simp [cross]
  | cons row rest ih =>
      have ih : (cross rest second).length = rest.length * second.length := ih
      simp only [cross, List.flatMap_cons, List.length_append, List.length_map] at ih ⊢
      rw [ih, List.length_cons, Nat.succ_mul, Nat.add_comm]

end Row

namespace Capture

/-- The number of elements of a value that is a list. -/
def listLength : Value → Nat
  | .list items => items.length
  | _ => 0

/-- The slot of a value in a collated row: the element of a list, anything else itself. -/
def slot (row : Nat) : Value → Value
  | .list items => items[row]?.getD .null
  | other => other

/-- Lines the values of several paths up by position. Lists are spread over as many rows as
the longest has elements, anything else stands in every row. -/
def collate (values : List Value) : List Value :=
  match (values.map listLength).foldl max 0 with
  | 0 => [.list values]
  | height => (List.range height).map fun row => .list (values.map (slot row))

/-- The value of a capture at a node. -/
def value (c : Capture) (e : Evaluator) (root current : Value) : Except EvalError Value :=
  match c.paths with
  | [] => .ok (Stage.applyChain c.stages current)
  | [path] => (e.eval path current root).map (Stage.applyChain c.stages)
  | paths => do
      let values ← paths.mapM fun path => e.eval path current root
      return Value.sequester ((collate values).map (Stage.applyChain c.stages))

/-- The columns that a value fills: one of the capture's own name, or one for every field or
element of a value that is splatted. -/
def row (c : Capture) (name : String) (value : Value) : Row :=
  match c.splat, value with
  | true, .object fields =>
      Fields.ofWrites (fields.map fun field => (name ++ "_" ++ field.1, field.2))
  | true, .list items =>
      Fields.ofWrites
        (items.zipIdx.map fun entry => (name ++ "[" ++ toString entry.2 ++ "]", entry.1))
  | _, value => [(name, value)]

end Capture

/-- The data of an interior node. -/
def Reach.follow (reach : Reach Path) (e : Evaluator) (root current : Value) :
    Except EvalError Value :=
  match reach with
  | .here => .ok current
  | .key name => .ok ((current.get? name).getD .null)
  | .find path => e.eval path current root

namespace Value

mutual

/-- The rows over data: those over the elements of a list one after another, at every level
of nesting, and those over null when a list is empty. -/
def rowsOver (rows : Value → Except ε (List Row)) : Value → Except ε (List Row)
  | list [] => rows null
  | list (item :: rest) => do
      let first ← rowsOver rows item
      let others ← rowsOverItems rows rest
      return first ++ others
  | other => rows other

def rowsOverItems (rows : Value → Except ε (List Row)) : List Value → Except ε (List Row)
  | [] => .ok []
  | item :: rest => do
      let first ← rowsOver rows item
      let others ← rowsOverItems rows rest
      return first ++ others

end

end Value

namespace ExtractNode

mutual

/-- The rows of a tree at the data of its parent. -/
def rows (e : Evaluator) (root : Value) : ExtractNode → Value → Except EvalError (List Row)
  | ⟨name, .capture capture, _⟩, current => do
      return [capture.row name (← capture.value e root current)]
  | ⟨_, .interior reach, children⟩, current => do
      let data ← reach.follow e root current
      data.rowsOver fun data => rowsFrom e root [[]] children data

/-- Crosses the rows so far with those of further children. -/
def rowsFrom (e : Evaluator) (root : Value) (sofar : List Row) :
    List ExtractNode → Value → Except EvalError (List Row)
  | [], _ => .ok sofar
  | child :: rest, data => do
      let produced ← rows e root child data
      rowsFrom e root (if produced.isEmpty then sofar else Row.cross sofar produced) rest data

end

end ExtractNode

end TreeTable
