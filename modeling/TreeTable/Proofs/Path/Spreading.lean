import TreeTable.Path.Location
import TreeTable.Proofs.Outcome
import TreeTable.Value.Leaves

/-! # Spreading over nested lists

What is read from a list element by element is read from all leaves of the list, however deeply
it is nested. Evaluating and locating are both spread in that way, each by a recursion of its
own.
-/

namespace TreeTable

open Outcome

namespace Value

theorem fieldsAt_eq_map (key : String) (selection : Option Selection) (items : List Value) :
    fieldsAt key selection items = items.map (fieldAt key selection) := by
  induction items with
  | nil => rw [fieldsAt, List.map_nil]
  | cons item rest ih => rw [fieldsAt, ih, List.map_cons]

theorem allKeysAt_eq_map (pattern : Pattern) (items : List Value) :
    allKeysAt pattern items = items.map (keysAt pattern) := by
  induction items with
  | nil => rw [allKeysAt, List.map_nil]
  | cons item rest ih => rw [allKeysAt, ih, List.map_cons]

/-- Whether something that is collected from a value is collected from the elements of lists. -/
structure Spreads (collect : Value → List Value) : Prop where
  null : collect null = []
  list : ∀ items, collect (list items) = items.flatMap collect

mutual

/-- What is collected from the elements of lists is collected from leaves. -/
theorem Spreads.eq_flatMap_leaves {collect : Value → List Value} (h : Spreads collect) :
    (node : Value) → collect node = node.leaves.flatMap collect
  | .null => by rw [h.null, leaves_null, List.flatMap_nil]
  | .list items => by rw [h.list, leaves_list, h.flatMap_eq_flatMap_leavesOf items]
  | .bool _ | .int _ | .float _ | .string _ | .object _ => by simp [leaves]

theorem Spreads.flatMap_eq_flatMap_leavesOf {collect : Value → List Value}
    (h : Spreads collect) :
    (items : List Value) → items.flatMap collect = (leavesOf items).flatMap collect
  | [] => by rw [leavesOf_nil]
  | item :: rest => by
      rw [List.flatMap_cons, leavesOf_cons, List.flatMap_append,
        ← h.eq_flatMap_leaves item, ← h.flatMap_eq_flatMap_leavesOf rest]

end

/-- The leaves of what a field holds are collected from the elements of lists. -/
theorem spreads_fieldAt {key : String} (named : Path.namesField key = true)
    (selection : Option Selection) :
    Spreads fun node => (node.fieldAt key selection).leaves := by
  rw [Path.namesField, Bool.and_eq_true, bne_iff_ne, Option.isNone_iff_eq_none] at named
  obtain ⟨noWildcard, noInteger⟩ := named
  refine ⟨by simp [fieldAt], ?_⟩
  intro items
  rw [fieldAt, if_neg noWildcard, noInteger]
  dsimp only
  rw [leaves_sequester, leavesOf_flattenOne, fieldsAt_eq_map, leavesOf_eq_flatMap,
    List.flatMap_map]

theorem spreads_keysAt (pattern : Pattern) :
    Spreads fun node => (node.keysAt pattern).leaves := by
  refine ⟨by simp [keysAt], ?_⟩
  intro items
  rw [keysAt, leaves_sequester, leavesOf_flattenOne, allKeysAt_eq_map, leavesOf_eq_flatMap,
    List.flatMap_map]

mutual

/-- A function that is spread over lists gives the leaves that are collected from them. -/
theorem leaves_spread {f : Value → Except EvalError Value} {collect : Value → List Value}
    (h : Spreads collect) (hf : ∀ node, ∃ value, f node = .ok value ∧ value.leaves = collect node) :
    (node : Value) → ∃ value, spread f node = .ok value ∧ value.leaves = collect node
  | .list items => by
      obtain ⟨values, hvalues, hleaves⟩ := leavesOf_spreadItems h hf items
      refine ⟨sequester (flattenOne values), ?_, ?_⟩
      · rw [spread, hvalues]
        rfl
      · rw [leaves_sequester, leavesOf_flattenOne, hleaves, h.list]
  | .null => by
      rw [spread]
      · exact hf null
      · nofun
  | .bool _ | .int _ | .float _ | .string _ | .object _ => by
      rw [spread]
      · exact hf _
      · nofun

theorem leavesOf_spreadItems {f : Value → Except EvalError Value}
    {collect : Value → List Value} (h : Spreads collect)
    (hf : ∀ node, ∃ value, f node = .ok value ∧ value.leaves = collect node) :
    (items : List Value) →
      ∃ values, spreadItems f items = .ok values ∧ leavesOf values = items.flatMap collect
  | [] => ⟨[], by rw [spreadItems], by simp⟩
  | item :: rest => by
      obtain ⟨value, hvalue, hleaves⟩ := leaves_spread h hf item
      obtain ⟨values, hvalues, hothers⟩ := leavesOf_spreadItems h hf rest
      refine ⟨value :: values, ?_, ?_⟩
      · rw [spreadItems, hvalue, ok_bind, hvalues]
        rfl
      · rw [leavesOf_cons, hleaves, hothers, List.flatMap_cons]

end

end Value

namespace Address

/-- The leaves of the node at an address. -/
def leaves (root : Value) (address : Address) : List Value :=
  ((address.get? root).getD .null).leaves

theorem leaves_of_get? {root node : Value} {address : Address}
    (h : address.get? root = some node) : address.leaves root = node.leaves := by
  rw [leaves, h, Option.getD_some]

theorem leavesOf_filterMap (root : Value) (found : List Address) :
    Value.leavesOf (found.filterMap fun address => address.get? root) =
      found.flatMap (leaves root) := by
  induction found with
  | nil => rfl
  | cons address rest ih =>
      rw [List.flatMap_cons, ← ih, leaves]
      cases h : address.get? root with
      | none => simp [h]
      | some node => simp [h]

end Address

namespace Path

theorem locateFieldIn_eq_flatMap (key : String) (selection : Option Selection) (here : Address)
    (start : Nat) (items : List Value) :
    locateFieldIn key selection here start items = (items.zipIdx start).flatMap fun entry =>
      locateField key selection (here.index entry.2) entry.1 := by
  induction items generalizing start with
  | nil => rw [locateFieldIn, List.zipIdx_nil, List.flatMap_nil]
  | cons item rest ih => rw [locateFieldIn, ih, List.zipIdx_cons, List.flatMap_cons]

theorem locateKeysIn_eq_flatMap (pattern : Pattern) (here : Address) (start : Nat)
    (items : List Value) :
    locateKeysIn pattern here start items = (items.zipIdx start).flatMap fun entry =>
      locateKeys pattern (here.index entry.2) entry.1 := by
  induction items generalizing start with
  | nil => rw [locateKeysIn, List.zipIdx_nil, List.flatMap_nil]
  | cons item rest ih => rw [locateKeysIn, ih, List.zipIdx_cons, List.flatMap_cons]

/-- Whether what is located in a list is located in its elements, and nothing in null. -/
structure LocatesInLists (find : Address → Value → List Address) : Prop where
  null : ∀ here, find here .null = []
  list : ∀ here items, find here (.list items) =
    items.zipIdx.flatMap fun entry => find (here.index entry.2) entry.1

theorem locatesInLists_field {key : String} (named : namesField key = true)
    (selection : Option Selection) : LocatesInLists (locateField key selection) := by
  rw [namesField, Bool.and_eq_true, bne_iff_ne, Option.isNone_iff_eq_none] at named
  obtain ⟨noWildcard, noInteger⟩ := named
  refine ⟨fun here => by simp [locateField], ?_⟩
  intro here items
  rw [locateField, if_neg noWildcard, noInteger]
  exact locateFieldIn_eq_flatMap key selection here 0 items

theorem locatesInLists_keys (pattern : Pattern) : LocatesInLists (locateKeys pattern) := by
  refine ⟨fun here => by simp [locateKeys], ?_⟩
  intro here items
  rw [locateKeys]
  exact locateKeysIn_eq_flatMap pattern here 0 items

section Located

variable {root : Value} {find : Address → Value → List Address}
  {collect : Value → List Value}

mutual

/-- What is located in nested lists has the leaves that are collected from them, if that is so
where no list stands. -/
theorem LocatesInLists.leaves_eq (hfind : LocatesInLists find) (hcollect : Value.Spreads collect)
    (alone : ∀ here node, (∀ items, node ≠ .list items) → node.WellFormed →
      here.get? root = some node → (find here node).flatMap (Address.leaves root) = collect node) :
    (node : Value) → node.WellFormed → (here : Address) → here.get? root = some node →
      (find here node).flatMap (Address.leaves root) = collect node
  | .null, _, here, _ => by rw [hfind.null, hcollect.null, List.flatMap_nil]
  | .list items, wellFormed, here, h => by
      rw [hfind.list, hcollect.list]
      apply hfind.leaves_items_eq hcollect alone here 0 items wellFormed
      intro i item hitem
      rw [Address.get?_index h, Nat.zero_add, hitem]
  | .bool b, wellFormed, here, h => alone here (.bool b) nofun wellFormed h
  | .int n, wellFormed, here, h => alone here (.int n) nofun wellFormed h
  | .float x, wellFormed, here, h => alone here (.float x) nofun wellFormed h
  | .string s, wellFormed, here, h => alone here (.string s) nofun wellFormed h
  | .object fields, wellFormed, here, h =>
      alone here (.object fields) nofun wellFormed h

theorem LocatesInLists.leaves_items_eq (hfind : LocatesInLists find)
    (hcollect : Value.Spreads collect)
    (alone : ∀ here node, (∀ items, node ≠ .list items) → node.WellFormed →
      here.get? root = some node → (find here node).flatMap (Address.leaves root) = collect node)
    (here : Address) (start : Nat) :
    (items : List Value) → Value.WellFormedItems items →
      (∀ i item, items[i]? = some item → (here.index (start + i)).get? root = some item) →
        ((items.zipIdx start).flatMap fun entry => find (here.index entry.2) entry.1).flatMap
          (Address.leaves root) = items.flatMap collect
  | [], _, _ => by rw [List.zipIdx_nil, List.flatMap_nil, List.flatMap_nil, List.flatMap_nil]
  | item :: rest, wellFormed, h => by
      have first := hfind.leaves_eq hcollect alone item wellFormed.1 (here.index start)
        (h 0 item rfl)
      have there : ∀ i value, rest[i]? = some value →
          (here.index (start + 1 + i)).get? root = some value := by
        intro i value hvalue
        rw [Nat.add_assoc, Nat.add_comm 1 i]
        exact h (i + 1) value hvalue
      have others := hfind.leaves_items_eq hcollect alone here (start + 1) rest wellFormed.2 there
      rw [List.zipIdx_cons, List.flatMap_cons, List.flatMap_append, first, others,
        List.flatMap_cons]

end

end Located

end Path

end TreeTable
