import TreeTable.Proofs.Address.Rewriting
import TreeTable.Proofs.Value.Fields

/-! # Slots in documents

An address opens a slot in a document: the node there, and what the document becomes with another
node in its place. Writing at an address is filling its slot. What was put into a slot is found
there, the containers around the slot keep their fields or their length, and every node that lies
neither around the slot nor in it is as it was.
-/

namespace TreeTable

/-- A place in a document that holds a node. -/
structure Slot where
  /-- The node in it. -/
  node : Value
  /-- The document with a node in it. -/
  put : Value → Value

/-- Containers with the same places for children, whatever the children are. -/
inductive SameFrame : Value → Value → Prop where
  | list {as bs : List Value} (sameLength : as.length = bs.length) :
      SameFrame (.list as) (.list bs)
  | object {as bs : Fields} (sameKeys : as.keys = bs.keys) :
      SameFrame (.object as) (.object bs)

namespace Step

/-- The slot that a step leads to. -/
def slot? : Step → Value → Option Slot
  | field key, .object fields =>
      (Fields.get? fields key).map fun child =>
        ⟨child, fun value => .object (Fields.set key value fields)⟩
  | index i, .list items =>
      items[i]?.map fun child => ⟨child, fun value => .list (items.set i value)⟩
  | _, _ => none

variable {step other : Step} {node child : Value}

theorem slot?_eq (step : Step) (node : Value) :
    step.slot? node =
      (step.get? node).map fun child => ⟨child, fun value => step.set value node⟩ := by
  cases step <;> cases node <;> rfl

theorem get?_set (h : step.get? node = some child) (value : Value) :
    step.get? (step.set value node) = some value := by
  rcases get?_cases h with ⟨i, items, rfl, rfl, hitem⟩ | ⟨key, fields, rfl, rfl, hfield⟩
  · obtain ⟨inside, -⟩ := List.getElem?_eq_some_iff.mp hitem
    simp [set, get?, inside]
  · simp [set, get?, Fields.get?_set, hfield]

theorem set_get? (h : step.get? node = some child) : step.set child node = node := by
  rcases get?_cases h with ⟨i, items, rfl, rfl, hitem⟩ | ⟨key, fields, rfl, rfl, hfield⟩
  · obtain ⟨inside, rfl⟩ := List.getElem?_eq_some_iff.mp hitem
    simp [set]
  · rw [set, Fields.set_get? hfield]

/-- A node that a step leads out of keeps its places when something is put where the step leads. -/
theorem sameFrame_set (h : step.get? node = some child) (value : Value) :
    SameFrame node (step.set value node) := by
  rcases get?_cases h with ⟨i, items, rfl, rfl, -⟩ | ⟨key, fields, rfl, rfl, -⟩
  · apply SameFrame.list
    simp
  · apply SameFrame.object
    rw [Fields.keys_set]

/-- What is put where one step leads is not seen by any other step. -/
theorem get?_set_of_ne (h : other ≠ step) (value node : Value) :
    other.get? (step.set value node) = other.get? node := by
  cases node with
  | list items =>
      cases step with
      | field key => rfl
      | index i =>
          cases other with
          | field name => rfl
          | index j =>
              have apart : i ≠ j := by simpa [eq_comm] using h
              simp [set, get?, apart]
  | object fields =>
      cases step with
      | field key =>
          cases other with
          | field name =>
              have apart : name ≠ key := by simpa using h
              simp [set, get?, Fields.get?_set, apart]
          | index j => rfl
      | index i => rfl
  | _ => cases step <;> rfl

end Step

namespace Address

/-- The slot at an address; none once a step does not match the data. -/
def slot? : Address → Value → Option Slot
  | [], node => some ⟨node, id⟩
  | step :: rest, node => do
      let outer ← step.slot? node
      let inner ← slot? rest outer.node
      return ⟨inner.node, fun value => outer.put (inner.put value)⟩

variable {address other outer : Address} {document node child : Value} {step : Step}

theorem set_cons (h : step.get? node = some child) (rest : Address) (value : Value) :
    set value (step :: rest) node = step.set (set value rest child) node := by
  rw [set, modify, h]
  rfl

/-- Changing a node is writing what it changes into. -/
theorem modify_eq_set (h : address.get? document = some node) (change : Value → Value) :
    address.modify change document = address.set (change node) document := by
  induction address generalizing document with
  | nil =>
      cases h
      rfl
  | cons step rest ih =>
      obtain ⟨child, hchild, hrest⟩ := Option.bind_eq_some_iff.mp h
      rw [set_cons hchild, ← ih hrest, modify, hchild]

/-- A slot is open where there is a node, and is filled by writing there. -/
theorem slot?_eq (address : Address) (document : Value) :
    address.slot? document =
      (address.get? document).map fun node => ⟨node, fun value => address.set value document⟩ := by
  induction address generalizing document with
  | nil => rfl
  | cons step rest ih =>
      rw [slot?, get?, Step.slot?_eq]
      cases hchild : step.get? document with
      | none => rfl
      | some child =>
          simp only [Option.map_some, Option.bind_eq_bind, Option.bind_some, ih, set_cons hchild]
          cases get? rest child <;> rfl

/-- Putting back what is at an address changes nothing. -/
theorem set_get? (h : address.get? document = some node) :
    address.set node document = document := by
  induction address generalizing document with
  | nil =>
      cases h
      rfl
  | cons step rest ih =>
      obtain ⟨child, hchild, hrest⟩ := Option.bind_eq_some_iff.mp h
      rw [set_cons hchild, ih hrest, Step.set_get? hchild]

/-- Writing where there is no node changes nothing. -/
theorem set_of_get?_eq_none (h : address.get? document = none) (value : Value) :
    address.set value document = document := by
  induction address generalizing document with
  | nil => cases h
  | cons step rest ih =>
      cases hchild : step.get? document with
      | none => rw [set, modify, hchild]
      | some child =>
          have missing : get? rest child = none := by
            rwa [get?, hchild, Option.bind_some] at h
          rw [set_cons hchild, ih missing, Step.set_get? hchild]

/-- What is written at a node is found there. -/
theorem get?_set (h : address.get? document = some node) (value : Value) :
    address.get? (address.set value document) = some value := by
  induction address generalizing document with
  | nil => rfl
  | cons step rest ih =>
      obtain ⟨child, hchild, hrest⟩ := Option.bind_eq_some_iff.mp h
      rw [set_cons hchild, get?, Step.get?_set hchild, Option.bind_some, ih hrest]

/-- Writing at an address is not seen at any address apart from it. -/
theorem get?_set_of_apart (apart : Apart address other) (value document : Value) :
    other.get? (address.set value document) = other.get? document := by
  induction address generalizing other document with
  | nil => exact absurd List.nil_prefix apart.1
  | cons step rest ih =>
      cases other with
      | nil => exact absurd List.nil_prefix apart.2
      | cons first others =>
          cases hchild : step.get? document with
          | none => rw [set, modify, hchild]
          | some child =>
              rw [set_cons hchild, get?, get?]
              by_cases same : first = step
              · -- Both go through one child, and part further down.
                subst same
                have below : Apart rest others := by
                  simpa [Apart, List.cons_prefix_cons] using apart
                rw [Step.get?_set hchild, hchild, Option.bind_some, Option.bind_some, ih below]
              · rw [Step.get?_set_of_ne same]

/-- Writing at a node keeps the places in every container around it. -/
theorem exists_sameFrame (h : address.get? document = some node) (around : outer <+: address)
    (proper : outer ≠ address) (value : Value) :
    ∃ before after, outer.get? document = some before ∧
      outer.get? (address.set value document) = some after ∧ SameFrame before after := by
  induction outer generalizing address document with
  | nil =>
      obtain ⟨step, rest, rfl⟩ := List.exists_cons_of_ne_nil proper.symm
      obtain ⟨child, hchild, -⟩ := Option.bind_eq_some_iff.mp h
      rw [set_cons hchild]
      exact ⟨_, _, rfl, rfl, Step.sameFrame_set hchild _⟩
  | cons step inner ih =>
      obtain ⟨rest, rfl, inside⟩ := List.cons_prefix_iff.mp around
      have proper : inner ≠ rest := by
        rintro rfl
        exact proper rfl
      obtain ⟨child, hchild, hrest⟩ := Option.bind_eq_some_iff.mp h
      rw [set_cons hchild, get?, get?, Step.get?_set hchild, hchild]
      exact ih hrest inside proper

/-- An address opens a slot exactly where there is a node, which is then the one in it, and writing
or changing something at the address fills the slot. What is written is found there, putting back
what was there changes nothing, and neither does writing where there is no node. At every address
that leads neither around the slot nor into it there is what was there before. Around it there are
still containers of the same kind, objects with the same keys in the same order and lists of the
same length. -/
theorem lens_laws (address : Address) (document value : Value) :
    (address.slot? document).map Slot.node = address.get? document ∧
      (∀ slot, address.slot? document = some slot →
        slot.put value = address.set value document ∧
          (∀ change, slot.put (change slot.node) = address.modify change document) ∧
          slot.put slot.node = document ∧
          address.get? (slot.put value) = some value ∧
          ∀ outer : Address, outer <+: address → outer ≠ address →
            ∃ before after, outer.get? document = some before ∧
              outer.get? (slot.put value) = some after ∧ SameFrame before after) ∧
      (∀ other : Address, Apart address other →
        other.get? (address.set value document) = other.get? document) ∧
      (address.get? document = none → address.set value document = document) := by
  refine ⟨?_, ?_, fun other apart => get?_set_of_apart apart value document,
    fun missing => set_of_get?_eq_none missing value⟩
  · rw [slot?_eq, Option.map_map]
    exact congrFun Option.map_id _
  · intro slot hslot
    rw [slot?_eq] at hslot
    obtain ⟨node, hnode, rfl⟩ := Option.map_eq_some_iff.mp hslot
    exact ⟨rfl, fun change => (modify_eq_set hnode change).symm, set_get? hnode,
      get?_set hnode value,
      fun outer around proper => exists_sameFrame hnode around proper value⟩

theorem lens_laws_mixed :
    let first : Value := .object [("x", .int 1)]
    let document (second : Value) : Value := .object [("b", .string "s"),
      ("a", .list [first, .object [("z", .null), ("y", second), ("x", .int 3)]])]
    let address : Address := [.field "a", .index 1, .field "y"]
    let around : Address := [.field "a", .index 1]
    let other : Address := [.field "a", .index 0, .field "x"]
    let nowhere : Address := [.field "b", .index 0]
    let value : Value := .list [.int 7]
    address.set value (document (.int 2)) = document value ∧
      (∃ slot, address.slot? (document (.int 2)) = some slot ∧ slot.put value = document value ∧
        slot.put slot.node = document (.int 2)) ∧
      address.get? (document value) = some value ∧
      (∃ before after, around.get? (document (.int 2)) = some before ∧
        around.get? (document value) = some after ∧ SameFrame before after) ∧
      Apart address other ∧ other.get? (document value) = other.get? (document (.int 2)) ∧
      nowhere.get? (document (.int 2)) = none ∧
      nowhere.set value (document (.int 2)) = document (.int 2) := by
  intro first document address around other nowhere value
  have written : address.set value (document (.int 2)) = document value := by decide
  have apart : Apart address other := by decide
  have missing : nowhere.get? (document (.int 2)) = none := by decide
  obtain ⟨-, filled, beside, -⟩ := lens_laws address (document (.int 2)) value
  obtain ⟨-, -, -, unchanged⟩ := lens_laws nowhere (document (.int 2)) value
  obtain ⟨slot, hslot⟩ : ∃ slot, address.slot? (document (.int 2)) = some slot := ⟨_, rfl⟩
  obtain ⟨put, -, back, found, frames⟩ := filled slot hslot
  have frame := frames around (by decide) (by decide)
  rw [put, written] at found frame
  have same := beside other apart
  rw [written] at same
  exact ⟨written, ⟨slot, hslot, put.trans written, back⟩, found, frame, apart, same, missing,
    unchanged missing⟩

end Address

end TreeTable
