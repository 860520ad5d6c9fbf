import TreeTable.Value.Basic

/-! # Leaves of lists

The leaves of a value are what is left when lists are spliced into one another at every
level and nulls are dropped. Splicing by one level and collapsing lists of one element do
not change them.
-/

namespace TreeTable.Value

mutual

/-- Everything in nested lists that is neither a list nor null, in order. -/
def leaves : Value → List Value
  | null => []
  | list items => leavesOf items
  | other => [other]

def leavesOf : List Value → List Value
  | [] => []
  | item :: rest => leaves item ++ leavesOf rest

end

@[simp] theorem leaves_null : leaves null = [] := by simp [leaves]

@[simp] theorem leaves_list (items : List Value) : leaves (list items) = leavesOf items := by
  simp [leaves]

@[simp] theorem leavesOf_nil : leavesOf [] = [] := by simp [leavesOf]

@[simp] theorem leavesOf_cons (item : Value) (rest : List Value) :
    leavesOf (item :: rest) = leaves item ++ leavesOf rest := by
  simp [leavesOf]

theorem leavesOf_append (first second : List Value) :
    leavesOf (first ++ second) = leavesOf first ++ leavesOf second := by
  induction first with
  | nil => simp
  | cons item rest ih => simp [ih, List.append_assoc]

theorem leavesOf_eq_flatMap (items : List Value) : leavesOf items = items.flatMap leaves := by
  induction items with
  | nil => simp
  | cons item rest ih => simp [ih]

/-- Collapsing a list of one element keeps the leaves. -/
@[simp] theorem leaves_sequester (items : List Value) :
    leaves (sequester items) = leavesOf items := by
  match items with
  | [] => simp [sequester]
  | [item] => simp [sequester]
  | _ :: _ :: _ => simp [sequester]

/-- Splicing lists by one level keeps the leaves. -/
@[simp] theorem leavesOf_flattenOne (items : List Value) :
    leavesOf (flattenOne items) = leavesOf items := by
  induction items with
  | nil => simp
  | cons item rest ih =>
      have split : flattenOne (item :: rest) = flattenOne [item] ++ flattenOne rest :=
        flattenOne_append [item] rest
      rw [split, leavesOf_append, ih, leavesOf_cons]
      cases item <;> simp [flattenOne]

end TreeTable.Value
