import TreeTable.Proofs.Value.Fields
import TreeTable.Proofs.Value.Reordering

/-! # Changing the objects in a document

The fields of an object may be changed, or those of every object in a list, or what stands under one
key. Properties that a document has when its nodes have them are kept when the new fields have them.
-/

namespace TreeTable

/-- The values that a field selects. -/
def Fields.valuesAt (fields : Fields) (key : String) : List Value :=
  ((fields.get? key).getD .null).selected

theorem Fields.valuesAt_alter {key other : String} (h : other ≠ key) (change : Value → Value)
    (fields : Fields) : (fields.alter key change).valuesAt other = fields.valuesAt other := by
  rw [valuesAt, get?_alter, if_neg h, valuesAt]

namespace Value

/-- Changes the fields of an object. -/
def onObject (change : Fields → Fields) : Value → Value
  | object fields => object (change fields)
  | other => other

/-- Changes the fields of an object, or of every object in a list. -/
def eachObject (change : Fields → Fields) : Value → Value
  | list items => list (items.map (onObject change))
  | other => onObject change other

/-- A property that a list has when its elements have it, and an object when its values have it and
its keys are allowed. Of what else there is in a document only numbers may lack it. -/
structure Hereditary (holds : Value → Prop) (allowed : List String → Prop) : Prop where
  null : holds null
  bool : ∀ b, holds (bool b)
  string : ∀ s, holds (string s)
  list_iff : ∀ items, holds (list items) ↔ ∀ item ∈ items, holds item
  object_iff : ∀ fields : Fields,
    holds (object fields) ↔ allowed fields.keys ∧ ∀ field ∈ fields, holds field.2
  empty : allowed []
  insert : ∀ (fields : Fields) key value, allowed fields.keys →
    allowed (fields.insert key value).keys

theorem hereditary_wellFormed : Hereditary WellFormed List.Nodup where
  null := trivial
  bool _ := trivial
  string _ := trivial
  list_iff _ := wellFormedItems_iff
  object_iff _ := and_congr_right' wellFormedFields_iff
  empty := List.nodup_nil
  insert _ key value h := Fields.nodup_keys_insert h key value

theorem hereditary_nanFree : Hereditary (fun node => node.nanFree = true) fun _ => True where
  null := rfl
  bool _ := rfl
  string _ := rfl
  list_iff _ := allFloatsIn_iff
  object_iff _ := by
    rw [true_and]
    exact allFloatsOf_iff
  empty := trivial
  insert _ _ _ h := h

theorem holds_onObject {holds : Value → Prop} {node : Value} (h : holds node)
    {change : Fields → Fields}
    (hchange : ∀ fields, holds (object fields) → holds (object (change fields))) :
    holds (node.onObject change) := by
  cases node with
  | object fields => exact hchange fields h
  | _ => exact h

namespace Hereditary

variable {holds : Value → Prop} {allowed : List String → Prop}
  (hereditary : Hereditary holds allowed)

include hereditary

theorem selected {node : Value} (h : holds node) : ∀ item ∈ node.selected, holds item := by
  intro item hitem
  cases node with
  | null => cases hitem
  | list items => exact (hereditary.list_iff items).mp h item hitem
  | _ =>
      rw [List.mem_singleton.mp hitem]
      exact h

theorem valuesAt {fields : Fields} (h : holds (object fields)) (key : String) :
    ∀ value ∈ fields.valuesAt key, holds value := by
  apply hereditary.selected
  cases hvalue : fields.get? key with
  | none => exact hereditary.null
  | some value => exact ((hereditary.object_iff fields).mp h).2 _ (Fields.mem_of_get? hvalue)

theorem sequester {items : List Value} (h : ∀ item ∈ items, holds item) :
    holds (sequester items) := by
  match items, h with
  | [item], h => exact h item List.mem_cons_self
  | [], h => exact (hereditary.list_iff _).mpr h
  | _ :: _ :: _, h => exact (hereditary.list_iff _).mpr h

theorem insert_object {fields : Fields} (h : holds (object fields)) (key : String) {value : Value}
    (hvalue : holds value) : holds (object (fields.insert key value)) := by
  rw [hereditary.object_iff] at h ⊢
  refine ⟨hereditary.insert fields key value h.1, ?_⟩
  intro field hfield
  rcases Fields.mem_insert hfield with rfl | hfield
  · exact hvalue
  · exact h.2 field hfield

theorem alter {fields : Fields} (h : holds (object fields)) (key : String)
    {change : Value → Value} (hchange : ∀ value, holds value → holds (change value)) :
    holds (object (fields.alter key change)) := by
  rw [hereditary.object_iff] at h ⊢
  rw [Fields.keys_alter]
  refine ⟨h.1, ?_⟩
  intro field hfield
  obtain ⟨before, hbefore, rfl⟩ := List.mem_map.mp hfield
  dsimp only
  split
  · exact hchange _ (h.2 before hbefore)
  · exact h.2 before hbefore

theorem eachObject {node : Value} (h : holds node) {change : Fields → Fields}
    (hchange : ∀ fields, holds (object fields) → holds (object (change fields))) :
    holds (node.eachObject change) := by
  cases node with
  | list items =>
      rw [hereditary.list_iff] at h
      rw [Value.eachObject, hereditary.list_iff]
      intro item hitem
      obtain ⟨before, hbefore, rfl⟩ := List.mem_map.mp hitem
      exact holds_onObject (h before hbefore) hchange
  | _ => exact holds_onObject h hchange

end Hereditary

/-- When objects become the same but for the order of fields, so do lists of them. -/
theorem reordered_eachObject {node : Value} (wellFormed : node.WellFormed)
    {first second : Fields → Fields}
    (h : ∀ fields : Fields, fields.keys.Nodup →
      Reordered (object (first fields)) (object (second fields))) :
    Reordered (node.eachObject first) (node.eachObject second) := by
  have alone {node : Value} (wellFormed : node.WellFormed) :
      Reordered (node.onObject first) (node.onObject second) := by
    cases node with
    | object fields => exact h fields wellFormed.1
    | _ => exact .refl _
  cases node with
  | list items =>
      apply Reordered.list
      · rw [List.length_map, List.length_map]
      · intro i a b ha hb
        rw [List.getElem?_map] at ha hb
        obtain ⟨item, hitem, rfl⟩ := Option.map_eq_some_iff.mp ha
        rw [hitem] at hb
        obtain rfl := Option.some.inj hb
        exact alone (wellFormedItems_iff.mp wellFormed item (List.mem_of_getElem? hitem))
  | _ => exact alone wellFormed

theorem eachObject_eachObject (first second : Fields → Fields) (node : Value) :
    (node.eachObject first).eachObject second =
      node.eachObject fun fields => second (first fields) := by
  have alone (node : Value) : (node.onObject first).onObject second =
      node.onObject fun fields => second (first fields) := by
    cases node <;> rfl
  cases node with
  | list items =>
      rw [eachObject, eachObject, eachObject, List.map_map]
      congr 2
      funext item
      exact alone item
  | _ => rfl

theorem reordered_alter {fields : Fields} (wellFormed : (object fields).WellFormed) (key : String)
    {first second : Value → Value}
    (h : ∀ value : Value, value.WellFormed → Reordered (first value) (second value)) :
    Reordered (object (fields.alter key first)) (object (fields.alter key second)) := by
  apply Reordered.object
  · rw [Fields.keys_alter, Fields.keys_alter]
  · intro other a b ha hb
    rw [Fields.get?_alter] at ha hb
    split at ha
    next same =>
      rw [if_pos same] at hb
      obtain ⟨value, hvalue, rfl⟩ := Option.map_eq_some_iff.mp ha
      rw [hvalue] at hb
      obtain rfl := Option.some.inj hb
      exact h value (wellFormed.2.get? hvalue)
    next apart =>
      rw [if_neg apart, ha] at hb
      obtain rfl := Option.some.inj hb
      exact .refl a

/-- Changes under two keys may be made in either order, if they may be where the keys are one. -/
theorem reordered_alter_alter {fields : Fields} (wellFormed : (object fields).WellFormed)
    {key other : String} {first second : Value → Value}
    (h : ∀ value : Value, value.WellFormed →
      Reordered (second (first value)) (first (second value))) :
    Reordered (object ((fields.alter key first).alter other second))
      (object ((fields.alter other second).alter key first)) := by
  by_cases hkey : key = other
  · subst hkey
    rw [Fields.alter_alter_self, Fields.alter_alter_self]
    exact reordered_alter wellFormed key h
  · rw [Fields.alter_alter_comm hkey]
    exact .refl _

end Value

end TreeTable
