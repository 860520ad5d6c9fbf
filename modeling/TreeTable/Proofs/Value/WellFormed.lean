import TreeTable.Address

/-! # Well-formed documents

A document is well formed when the keys in each of its objects are distinct. Every node in such a
document is well formed as well.
-/

namespace TreeTable

namespace Value

theorem wellFormedItems_iff {items : List Value} :
    WellFormedItems items ↔ ∀ item ∈ items, item.WellFormed := by
  induction items with
  | nil => simp [WellFormedItems]
  | cons item rest ih => simp [WellFormedItems, ih]

theorem wellFormedFields_iff {fields : Fields} :
    WellFormedFields fields ↔ ∀ field ∈ fields, field.2.WellFormed := by
  induction fields with
  | nil => simp [WellFormedFields]
  | cons field rest ih => simp [WellFormedFields, ih]

theorem WellFormedFields.get? {fields : Fields} {key : String} {value : Value}
    (h : WellFormedFields fields) (hget : Fields.get? fields key = some value) :
    value.WellFormed :=
  wellFormedFields_iff.mp h (key, value) (Fields.mem_of_get? hget)

/-- What a step leads to in a well-formed node is well formed. -/
theorem WellFormed.step {node child : Value} {step : Step} (h : node.WellFormed)
    (hchild : step.get? node = some child) : child.WellFormed := by
  rcases Step.get?_cases hchild with
    ⟨i, items, rfl, rfl, hitem⟩ | ⟨key, fields, rfl, rfl, hfield⟩
  · exact wellFormedItems_iff.mp h child (List.mem_of_getElem? hitem)
  · exact h.2.get? hfield

/-- Every node in a well-formed document is well formed. -/
theorem WellFormed.address {node child : Value} {address : Address} (h : node.WellFormed)
    (hchild : address.get? node = some child) : child.WellFormed := by
  induction address generalizing node with
  | nil =>
      cases hchild
      exact h
  | cons step rest ih =>
      obtain ⟨next, hnext, hrest⟩ := Option.bind_eq_some_iff.mp hchild
      exact ih (h.step hnext) hrest

end Value

end TreeTable
