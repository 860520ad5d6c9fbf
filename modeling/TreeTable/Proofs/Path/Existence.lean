import TreeTable.Proofs.Path.Spreading
import TreeTable.Proofs.Selection.Positions

/-! # Located addresses exist

Addresses grow step by step: a step extends the address of a node to addresses of nodes in it, and a
lookup begins again at the root. So what holds of the addresses at which locating begins, and is
kept by single steps, holds of all addresses that any path leads to. That there is a node at an
address is such a property.
-/

namespace TreeTable

open Outcome

namespace Path

/-- What holds of the root and is kept by single steps into a document. -/
structure KeptBySteps (root : Value) (P : Address → Prop) : Prop where
  start : P []
  field : ∀ key selection here, P here →
    ∀ address ∈ locateField key selection here ((here.get? root).getD .null), P address
  keys : ∀ pattern here, P here →
    ∀ address ∈ locateKeys pattern here ((here.get? root).getD .null), P address

/-- What single steps keep and the targets of lookups have. -/
structure Kept (find : AddressResolver) (root : Value) (P : Address → Prop) : Prop extends
    KeptBySteps root P where
  target : ∀ key found, find key = .ok found → ∀ address ∈ found, P address

variable {resolve : Resolver} {find : AddressResolver} {root : Value} {P : Address → Prop}

/-- What holds of the addresses of two computations holds of both one after another. -/
theorem forall_mem_appended {first second : Except EvalError (List Address)}
    {found : List Address} (h : (do return (← first) ++ (← second)) = .ok found)
    (hfirst : ∀ located, first = .ok located → ∀ address ∈ located, P address)
    (hsecond : ∀ located, second = .ok located → ∀ address ∈ located, P address) :
    ∀ address ∈ found, P address := by
  obtain ⟨located, hlocated, h⟩ := bind_eq_ok_iff.mp h
  obtain ⟨others, hothers, h⟩ := bind_eq_ok_iff.mp h
  cases h
  rw [List.forall_mem_append]
  exact ⟨hfirst located hlocated, hsecond others hothers⟩

theorem Kept.locateLookups (kept : Kept find root P) (keys : List Value) :
    ∀ found, locateLookups find keys = .ok found → ∀ address ∈ found, P address := by
  induction keys with
  | nil =>
      rintro _ ⟨⟩
      nofun
  | cons key rest ih =>
      intro found h
      rw [Path.locateLookups] at h
      cases htext : key.key? with
      | none =>
          rw [htext] at h
          refine forall_mem_appended h ?_ ih
          rintro _ ⟨⟩
          nofun
      | some text =>
          rw [htext] at h
          exact forall_mem_appended h (kept.target text) ih

theorem locateFrom_kept {locate : Address → Except EvalError (List Address)}
    (step : ∀ here, P here → ∀ found, locate here = .ok found → ∀ address ∈ found, P address)
    (current : List Address) (holds : ∀ here ∈ current, P here) :
    ∀ found, locateFrom locate current = .ok found → ∀ address ∈ found, P address := by
  induction current with
  | nil =>
      rintro _ ⟨⟩
      nofun
  | cons here rest ih =>
      intro found h
      rw [List.forall_mem_cons] at holds
      rw [locateFrom] at h
      exact forall_mem_appended h (step here holds.1) (ih holds.2)

mutual

/-- What steps and lookups keep is kept by every path. -/
theorem Kept.locate (kept : Kept find root P) : (path : Path) → (here : Address) → P here →
    (found : List Address) → path.locate resolve find root here = .ok found →
      ∀ address ∈ found, P address
  | .literal _, _, _, _, h => by
      rw [Path.locate] at h
      cases h
      nofun
  | .field key selection, here, there, _, h => by
      rw [Path.locate] at h
      cases h
      exact kept.field key selection here there
  | .keys pattern, here, there, _, h => by
      rw [Path.locate] at h
      cases h
      exact kept.keys pattern here there
  | .any branches, here, there, found, h => by
      rw [Path.locate] at h
      exact kept.locateAny branches here there found h
  | .all branches, here, there, found, h => by
      rw [Path.locate, bind_eq_ok_iff] at h
      obtain ⟨located, hlocated, h⟩ := h
      cases h
      cases located with
      | none => nofun
      | some found => exact kept.locateAll branches here there found hlocated
  | .each branches, here, there, found, h => by
      rw [Path.locate] at h
      exact kept.locateEach branches here there found h
  | .lookup inner, here, _, found, h => by
      -- Where the lookup stands does not matter, its targets are located from the root.
      rw [Path.locate, bind_eq_ok_iff] at h
      obtain ⟨key, -, h⟩ := h
      exact kept.locateLookups key.selected found h
  | .inverse _, _, _, _, h => by
      rw [Path.locate] at h
      cases h
  | .steps path, here, there, found, h => by
      rw [Path.locate] at h
      exact kept.locateSteps path [here] (by simpa using there) found h

theorem Kept.locateAny (kept : Kept find root P) : (branches : List Path) → (here : Address) →
    P here → (found : List Address) → locateAny resolve find root branches here = .ok found →
      ∀ address ∈ found, P address
  | [], _, _, _, h => by
      rw [Path.locateAny] at h
      cases h
      nofun
  | branch :: rest, here, there, found, h => by
      rw [Path.locateAny, bind_eq_ok_iff] at h
      obtain ⟨located, hlocated, h⟩ := h
      split at h
      next => exact kept.locateAny rest here there found h
      next =>
        cases h
        exact kept.locate branch here there found hlocated

theorem Kept.locateAll (kept : Kept find root P) : (branches : List Path) → (here : Address) →
    P here → (found : List Address) →
      locateAll resolve find root branches here = .ok (some found) → ∀ address ∈ found, P address
  | [], _, _, _, h => by
      rw [Path.locateAll] at h
      cases h
      nofun
  | branch :: rest, here, there, found, h => by
      rw [Path.locateAll, bind_eq_ok_iff] at h
      obtain ⟨located, hlocated, h⟩ := h
      split at h
      next => cases h
      next =>
        obtain ⟨others, hothers, h⟩ := bind_eq_ok_iff.mp h
        cases others with
        | none => cases h
        | some others =>
            cases h
            rw [List.forall_mem_append]
            exact ⟨kept.locate branch here there located hlocated,
              kept.locateAll rest here there others hothers⟩

theorem Kept.locateEach (kept : Kept find root P) : (branches : List Path) → (here : Address) →
    P here → (found : List Address) → locateEach resolve find root branches here = .ok found →
      ∀ address ∈ found, P address
  | [], _, _, _, h => by
      rw [Path.locateEach] at h
      cases h
      nofun
  | branch :: rest, here, there, found, h => by
      rw [Path.locateEach] at h
      exact forall_mem_appended h (kept.locate branch here there)
        (kept.locateEach rest here there)

theorem Kept.locateSteps (kept : Kept find root P) : (path : List Path) →
    (current : List Address) → (∀ here ∈ current, P here) → (found : List Address) →
      locateSteps resolve find root path current = .ok found → ∀ address ∈ found, P address
  | [], current, holds, _, h => by
      rw [Path.locateSteps] at h
      cases h
      exact holds
  | head :: rest, current, holds, found, h => by
      rw [Path.locateSteps, bind_eq_ok_iff] at h
      obtain ⟨next, hnext, h⟩ := h
      refine kept.locateSteps rest next ?_ found h
      exact locateFrom_kept (kept.locate head) current holds next hnext

end

/-- What single steps keep is kept by lookups, however many of them are nested. -/
theorem KeptBySteps.kept (steps : KeptBySteps root P) (limit remaining : Nat) :
    Kept (findWithin limit root remaining) root P := by
  refine ⟨steps, ?_⟩
  induction remaining with
  | zero =>
      intro key found h
      rw [findWithin] at h
      cases h
  | succ remaining ih =>
      intro key found h
      rw [findWithin] at h
      split at h
      next path _ =>
        have kept : Kept (findWithin limit root remaining) root P := ⟨steps, ih⟩
        exact kept.locate path [] steps.start found h
      next =>
        cases h
        nofun

end Path

namespace Address

/-- Whether there is a node at an address. -/
def LeadsIn (root : Value) (address : Address) : Prop := ∃ node, address.get? root = some node

variable {root : Value} {here : Address}

theorem leadsIn_field {fields : Fields} {key : String}
    (h : here.get? root = some (.object fields)) (among : key ∈ fields.keys) :
    (here.field key).LeadsIn root := by
  rw [LeadsIn, get?_field h, ← Option.isSome_iff_exists]
  exact Fields.get?_isSome_iff.mpr among

theorem leadsIn_index {items : List Value} {i : Nat}
    (h : here.get? root = some (.list items)) (inside : i < items.length) :
    (here.index i).LeadsIn root := by
  rw [LeadsIn, get?_index h]
  exact ⟨items[i], List.getElem?_eq_getElem inside⟩

end Address

namespace Path

open Address

variable {root : Value}

/-- What a selection leaves of a node is there: the node itself, or elements of it when it is a
list. -/
theorem leadsIn_of_mem_narrowAddress {selection : Option Selection} {here address : Address}
    {value : Value} (h : here.get? root = some value)
    (found : address ∈ narrowAddress selection here value) : address.LeadsIn root := by
  have itself : here.LeadsIn root := ⟨value, h⟩
  unfold narrowAddress at found
  split at found
  next =>
    rw [List.mem_singleton.mp found]
    exact itself
  next => cases found
  next =>
    obtain ⟨i, hi, rfl⟩ := List.mem_map.mp found
    exact leadsIn_index h (Selection.mem_positions_lt hi)
  next =>
    -- What is no list is left as it is, or left out.
    split at found
    next => cases found
    next =>
      rw [List.mem_singleton.mp found]
      exact itself

/-- What is located in the elements of a list is there, if each of them has what is located in
it. -/
theorem leadsIn_of_mem_elements {locate : Address → Value → List Address} {items : List Value}
    {here address : Address} (h : here.get? root = some (.list items))
    (each : ∀ item ∈ items, ∀ there : Address, there.get? root = some item →
      ∀ address ∈ locate there item, address.LeadsIn root)
    (found : address ∈ items.zipIdx.flatMap fun entry => locate (here.index entry.2) entry.1) :
    address.LeadsIn root := by
  obtain ⟨⟨item, i⟩, hitem, found⟩ := List.mem_flatMap.mp found
  rw [List.mem_zipIdx_iff_getElem?] at hitem
  have there : (here.index i).get? root = some item := (get?_index h i).trans hitem
  exact each item (List.mem_of_getElem? hitem) (here.index i) there address found

theorem leadsIn_of_mem_locateField (key : String) (selection : Option Selection) (node : Value) :
    ∀ here : Address, here.get? root = some node →
      ∀ address ∈ locateField key selection here node, address.LeadsIn root := by
  induction node using Value.nodeInduction with
  | null | bool _ | int _ | float _ | string _ => nofun
  | object fields =>
      intro here h address found
      rw [locateField] at found
      split at found
      next =>
        obtain ⟨i, -, hi⟩ := List.mem_filterMap.mp found
        obtain ⟨field, hfield, rfl⟩ := Option.map_eq_some_iff.mp hi
        exact leadsIn_field h (List.mem_map_of_mem (List.mem_of_getElem? hfield))
      next =>
        split at found
        next value hvalue =>
          exact leadsIn_of_mem_narrowAddress ((get?_field h key).trans hvalue) found
        next => cases found
  | list items ih =>
      intro here h address found
      rw [locateField] at found
      split at found
      next =>
        obtain ⟨i, hi, rfl⟩ := List.mem_map.mp found
        exact leadsIn_index h (mem_childPositions_lt hi)
      next =>
        split at found
        next n _ =>
          -- The number of a position is a selection of its own, before the one of the step.
          obtain ⟨i, -, found⟩ := List.mem_flatMap.mp found
          split at found
          next item hitem =>
            exact leadsIn_of_mem_narrowAddress ((get?_index h i).trans hitem) found
          next => cases found
        next =>
          rw [locateFieldIn_eq_flatMap] at found
          exact leadsIn_of_mem_elements h ih found

theorem leadsIn_of_mem_locateKeys (pattern : Pattern) (node : Value) :
    ∀ here : Address, here.get? root = some node →
      ∀ address ∈ locateKeys pattern here node, address.LeadsIn root := by
  induction node using Value.nodeInduction with
  | null | bool _ | int _ | float _ | string _ => nofun
  | object fields =>
      intro here h address found
      rw [locateKeys] at found
      obtain ⟨field, hfield, rfl⟩ := List.mem_map.mp found
      exact leadsIn_field h (List.mem_map_of_mem (List.mem_of_mem_filter hfield))
  | list items ih =>
      intro here h address found
      rw [locateKeys, locateKeysIn_eq_flatMap] at found
      exact leadsIn_of_mem_elements h ih found

theorem keptBySteps_leadsIn (root : Value) : KeptBySteps root (LeadsIn root) where
  start := ⟨root, rfl⟩
  field key selection here := by
    rintro ⟨node, h⟩
    rw [h, Option.getD_some]
    exact leadsIn_of_mem_locateField key selection node here h
  keys pattern here := by
    rintro ⟨node, h⟩
    rw [h, Option.getD_some]
    exact leadsIn_of_mem_locateKeys pattern node here h

end Path

namespace Evaluator

/-- Every address that a path leads to in a document is the address of a node of the document. -/
theorem exists_get?_of_mem_locate (e : Evaluator) (path : Path) (document : Value)
    {found : List Address} (h : e.locate path document = .ok found) :
    ∀ address ∈ found, ∃ node, address.get? document = some node := by
  have kept := (Path.keptBySteps_leadsIn document).kept e.limit e.limit
  exact kept.locate path [] ⟨document, rfl⟩ found h

theorem exists_get?_of_mem_locate_mixed :
    let rows : Path := .field "rows" none
    let path : Path := .each [.field "*" none,
      .steps [rows, .field "*" (some [.position (-1), .position 0, .position 0, .position 7])],
      .field "alone" (some [.position (-1), .position 1]),
      .lookup (.field "targets" none),
      .steps [rows, .field "-2" (some [.position 0]), .field "v" (some [.range (-2) 9 true])]]
    let document : Value := .object [
      ("rows", .list [.object [("k", .null), ("v", .list [.int 1, .int 2, .int 3])],
        .object [("k", .string "x")]]),
      ("alone", .int 5), ("targets", .list [.string "rows.k", .null, .string "none"])]
    let row (i : Nat) : Address := [.field "rows", .index i]
    let found : List Address := [[.field "rows"], [.field "alone"], [.field "targets"],
      row 1, row 0, row 0, [.field "alone"], (row 0).field "k", (row 1).field "k",
      ((row 0).field "v").index 1, ((row 0).field "v").index 2]
    locate {} path document = .ok found ∧
      ∀ address ∈ found, ∃ node, address.get? document = some node := by
  intro rows path document row found
  have hfound : locate {} path document = .ok found := by decide +kernel
  exact ⟨hfound, exists_get?_of_mem_locate {} path document hfound⟩

end Evaluator

end TreeTable
