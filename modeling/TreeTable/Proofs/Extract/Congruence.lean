import TreeTable.Proofs.Extract.Enumeration
import TreeTable.Proofs.Path.Congruence

/-! # Congruences of extracting rows

The rows of a tree are made from the values of its paths, and where two runs differ in those only, a
congruence that relates the values relates the rows.
-/

namespace TreeTable

/-- The paths in what a node does itself. -/
def Role.paths : Role → List Path
  | .interior (.find path) => [path]
  | .interior _ => []
  | .capture taken => taken.paths

namespace ExtractNode

mutual

/-- All paths in a tree, in the order of declaration. -/
def paths : ExtractNode → List Path
  | ⟨_, role, children⟩ => role.paths ++ pathsOf children

def pathsOf : List ExtractNode → List Path
  | [] => []
  | node :: rest => paths node ++ pathsOf rest

end

end ExtractNode

namespace Congruence

variable (c : Congruence EvalError) {e : Evaluator} {first second : Value}

theorem rowsOver {f g : Value → Except EvalError (List Row)}
    (h : ∀ data, c.Rel (f data) (g data)) (data : Value) :
    c.Rel (data.rowsOver f) (data.rowsOver g) := by
  rw [Value.rowsOver_eq_elements, Value.rowsOver_eq_elements]
  exact c.map (c.mapM fun element _ => h element) List.flatten

theorem captureValue {capture : Capture} {current : Value}
    (h : ∀ path ∈ capture.paths, c.Rel (e.eval path current first) (e.eval path current second)) :
    c.Rel (capture.value e first current) (capture.value e second current) := by
  obtain ⟨paths, splat, stages⟩ := capture
  match paths, h with
  | [], _ => exact c.ok _
  | [path], h => exact c.map (h path List.mem_cons_self) _
  | _ :: _ :: _, h => exact c.bind (c.mapM h) fun values => c.ok _

theorem follow {reach : Reach Path} {current : Value}
    (h : ∀ path ∈ (Role.interior reach).paths,
      c.Rel (e.eval path current first) (e.eval path current second)) :
    c.Rel (reach.follow e first current) (reach.follow e second current) := by
  cases reach with
  | here => exact c.ok _
  | key name => exact c.ok _
  | find path => exact h path List.mem_cons_self

mutual

/-- The rows of a tree in two documents are related if the values of its paths are. -/
theorem rows : (node : ExtractNode) →
    (∀ path ∈ node.paths, ∀ current,
      c.Rel (e.eval path current first) (e.eval path current second)) →
      (current : Value) → c.Rel (node.rows e first current) (node.rows e second current)
  | ⟨name, .capture capture, children⟩, h, current => by
      rw [ExtractNode.paths, List.forall_mem_append] at h
      rw [ExtractNode.rows, ExtractNode.rows]
      exact c.bind (c.captureValue fun path hpath => h.1 path hpath current) fun value => c.ok _
  | ⟨name, .interior reach, children⟩, h, current => by
      rw [ExtractNode.paths, List.forall_mem_append] at h
      rw [ExtractNode.rows, ExtractNode.rows]
      exact c.bind (c.follow fun path hpath => h.1 path hpath current)
        (c.rowsOver (rowsFrom children h.2 [[]]))

theorem rowsFrom : (children : List ExtractNode) →
    (∀ path ∈ ExtractNode.pathsOf children, ∀ current,
      c.Rel (e.eval path current first) (e.eval path current second)) →
      (sofar : List Row) → (data : Value) →
        c.Rel (ExtractNode.rowsFrom e first sofar children data)
          (ExtractNode.rowsFrom e second sofar children data)
  | [], _, sofar, _ => by
      rw [ExtractNode.rowsFrom, ExtractNode.rowsFrom]
      exact c.ok sofar
  | child :: rest, h, sofar, data => by
      rw [ExtractNode.pathsOf, List.forall_mem_append] at h
      rw [ExtractNode.rowsFrom, ExtractNode.rowsFrom]
      exact c.bind (rows child h.1 data) fun produced => rowsFrom rest h.2 _ data

end

end Congruence

end TreeTable
