import TreeTable.Proofs.Join.Connection
import TreeTable.Proofs.Path.Existence

/-! # No located node lies in another

A step leads from a node to the node itself, to children of it, or, through lists, to nodes in
different elements. So what a step selects from nodes that lie apart lies apart as well, and only a
path that joins the selections of several branches, or begins again at the root, can select a node
and something in it. Replacing lists by their elements keeps the nodes apart once more, so that what
is written into one left object of a rule is never seen through another.
-/

namespace TreeTable

open Outcome

namespace Address

/-- Addresses at a node or in it, of which none leads into the node of another. -/
structure Separated (here : Address) (found : List Address) : Prop where
  below : ∀ address ∈ found, here <+: address
  antichain : ∀ outer ∈ found, ∀ inner ∈ found, outer <+: inner → outer = inner

namespace Separated

variable {here there : Address} {found : List Address}

theorem nil (here : Address) : Separated here [] :=
  ⟨List.forall_mem_nil _, List.forall_mem_nil _⟩

theorem children (h : ∀ address ∈ found, ∃ step, address = here ++ [step]) :
    Separated here found := by
  constructor
  · intro address haddress
    obtain ⟨step, rfl⟩ := h address haddress
    exact List.prefix_append here [step]
  · intro outer houter inner hinner inside
    obtain ⟨first, rfl⟩ := h outer houter
    obtain ⟨second, rfl⟩ := h inner hinner
    exact inside.eq_of_length (by rw [List.length_append, List.length_append]; rfl)

theorem itself (here : Address) : Separated here [here] := by
  constructor
  · intro address haddress
    obtain rfl := List.mem_singleton.mp haddress
    exact List.prefix_refl _
  · intro outer houter inner hinner _
    rw [List.mem_singleton.mp houter, List.mem_singleton.mp hinner]

theorem lower (h : Separated there found) (inside : here <+: there) : Separated here found :=
  ⟨fun address haddress => inside.trans (h.below address haddress), h.antichain⟩

theorem subset {less : List Address} (h : Separated here found)
    (fewer : ∀ address ∈ less, address ∈ found) : Separated here less where
  below address haddress := h.below address (fewer address haddress)
  antichain outer houter inner hinner :=
    h.antichain outer (fewer outer houter) inner (fewer inner hinner)

/-- What grows from places that lie apart lies apart: two places on the way to one node would lie
one in the other. -/
theorem flatMap {ι : Type} {entries : List ι} {part : ι → List Address} (place : ι → Address)
    (below : ∀ entry ∈ entries, here <+: place entry)
    (apart : ∀ first ∈ entries, ∀ second ∈ entries,
      place first <+: place second → first = second)
    (each : ∀ entry ∈ entries, Separated (place entry) (part entry)) :
    Separated here (entries.flatMap part) := by
  constructor
  · intro address haddress
    obtain ⟨entry, hentry, haddress⟩ := List.mem_flatMap.mp haddress
    exact (below entry hentry).trans ((each entry hentry).below address haddress)
  · intro outer houter inner hinner inside
    obtain ⟨first, hfirst, houter⟩ := List.mem_flatMap.mp houter
    obtain ⟨second, hsecond, hinner⟩ := List.mem_flatMap.mp hinner
    have same : first = second := by
      have toInner : place first <+: inner :=
        ((each first hfirst).below outer houter).trans inside
      have toInner' : place second <+: inner := (each second hsecond).below inner hinner
      rcases List.prefix_or_prefix_of_prefix toInner toInner' with h | h
      · exact apart first hfirst second hsecond h
      · exact (apart second hsecond first hfirst h).symm
    subst same
    exact (each first hfirst).antichain outer houter inner hinner inside

/-- The same for places that are located themselves. -/
theorem extend (h : Separated here found) {part : Address → List Address}
    (each : ∀ start ∈ found, Separated start (part start)) :
    Separated here (found.flatMap part) :=
  flatMap id h.below h.antichain each

theorem eq_or_apart (h : Separated here found) :
    ∀ first ∈ found, ∀ second ∈ found, first = second ∨ Apart first second := by
  intro first hfirst second hsecond
  by_cases same : first = second
  · exact .inl same
  · refine .inr ⟨fun inside => same ?_, fun inside => same ?_⟩
    · exact h.antichain first hfirst second hsecond inside
    · exact (h.antichain second hsecond first hfirst inside).symm

end Separated

variable {here : Address}

theorem eq_of_index_prefix {i j : Nat} (inside : here.index i <+: here.index j) : i = j := by
  rw [index, index, List.prefix_append_right_inj] at inside
  simpa using inside

theorem separated_indexes (here : Address) (positions : List Nat) :
    Separated here (positions.map here.index) := by
  apply Separated.children
  intro address haddress
  obtain ⟨i, -, rfl⟩ := List.mem_map.mp haddress
  exact ⟨.index i, rfl⟩

/-- What is located in each element of a list apart from the others. -/
theorem separated_elements {locate : Address → Value → List Address} (here : Address)
    {items : List Value} (each : ∀ item ∈ items, ∀ there, Separated there (locate there item)) :
    Separated here (items.zipIdx.flatMap fun entry => locate (here.index entry.2) entry.1) := by
  have item {entry : Value × Nat} (h : entry ∈ items.zipIdx) : items[entry.2]? = some entry.1 :=
    List.mem_zipIdx_iff_getElem?.mp h
  apply Separated.flatMap fun entry => here.index entry.2
  · intro entry _
    exact List.prefix_append here _
  · rintro ⟨first, i⟩ hfirst ⟨second, j⟩ hsecond inside
    obtain rfl := eq_of_index_prefix inside
    obtain rfl : first = second := Option.some.inj ((item hfirst).symm.trans (item hsecond))
    rfl
  · rintro ⟨value, i⟩ hentry
    exact each value (List.mem_of_getElem? (item hentry)) (here.index i)

theorem separated_spread (document : Value) (here : Address) :
    Separated here (spread document here) := by
  unfold spread
  split
  next items _ => exact separated_indexes here _
  next => exact .itself here
  next => exact .nil here

theorem Separated.objects {found : List Address} (h : Separated here found) (document : Value) :
    Separated here (Address.objects document found) := by
  have spreads := h.extend fun start _ => separated_spread document start
  apply spreads.subset
  intro address haddress
  exact List.mem_flatMap.mpr (mem_objects_iff.mp haddress).2

end Address

namespace Path

open Address

variable {resolve : Resolver} {find : AddressResolver} {root : Value}

theorem separated_narrowAddress (selection : Option Selection) (here : Address) (value : Value) :
    Separated here (narrowAddress selection here value) := by
  unfold narrowAddress
  split
  next => exact .itself here
  next => exact .nil here
  next => exact separated_indexes here _
  next =>
    split
    next => exact .nil here
    next => exact .itself here

theorem separated_locateField (key : String) (selection : Option Selection) (node : Value) :
    ∀ here, Separated here (locateField key selection here node) := by
  induction node using Value.nodeInduction with
  | null | bool _ | int _ | float _ | string _ =>
      intro here
      rw [locateField]
      · exact .nil here
      all_goals simp
  | object fields =>
      intro here
      rw [locateField]
      split
      next =>
        apply Separated.children
        intro address found
        obtain ⟨i, -, hi⟩ := List.mem_filterMap.mp found
        obtain ⟨field, -, rfl⟩ := Option.map_eq_some_iff.mp hi
        exact ⟨.field field.1, rfl⟩
      next =>
        split
        next value _ =>
          exact (separated_narrowAddress selection (here.field key) value).lower
            (List.prefix_append here _)
        next => exact .nil here
  | list items ih =>
      intro here
      rw [locateField]
      split
      next => exact separated_indexes here _
      next =>
        split
        next n _ =>
          apply Separated.flatMap here.index
          · exact fun i _ => List.prefix_append here _
          · exact fun i _ j _ => eq_of_index_prefix
          · intro i _
            split
            next item _ => exact separated_narrowAddress selection (here.index i) item
            next => exact .nil _
        next =>
          rw [locateFieldIn_eq_flatMap]
          exact separated_elements here ih

theorem separated_locateKeys (pattern : Pattern) (node : Value) :
    ∀ here, Separated here (locateKeys pattern here node) := by
  induction node using Value.nodeInduction with
  | null | bool _ | int _ | float _ | string _ =>
      intro here
      rw [locateKeys]
      · exact .nil here
      all_goals simp
  | object fields =>
      intro here
      rw [locateKeys]
      apply Separated.children
      intro address found
      obtain ⟨field, -, rfl⟩ := List.mem_map.mp found
      exact ⟨.field field.1, rfl⟩
  | list items ih =>
      intro here
      rw [locateKeys, locateKeysIn_eq_flatMap]
      exact separated_elements here ih

/-- What is located from several addresses is made of what is located from each of them. -/
theorem exists_parts_of_locateFrom {locate : Address → Except EvalError (List Address)}
    {current found : List Address} (h : locateFrom locate current = .ok found) :
    ∃ part : Address → List Address, found = current.flatMap part ∧
      ∀ here ∈ current, locate here = .ok (part here) := by
  refine ⟨fun here => (locate here).toOption.getD [], ?_⟩
  induction current generalizing found with
  | nil =>
      cases h
      exact ⟨rfl, List.forall_mem_nil _⟩
  | cons here rest ih =>
      rw [locateFrom] at h
      obtain ⟨located, hlocated, h⟩ := bind_eq_ok_iff.mp h
      obtain ⟨others, hothers, h⟩ := bind_eq_ok_iff.mp h
      cases h
      obtain ⟨rfl, each⟩ := ih hothers
      rw [List.flatMap_cons, List.forall_mem_cons]
      simp only [hlocated]
      exact ⟨rfl, rfl, each⟩

theorem isSingleTrack_any {branches : List Path} (h : (any branches).isSingleTrack = true) :
    ∀ branch ∈ branches, branch.isSingleTrack = true := by
  rw [isSingleTrack, everywhere, Bool.true_and, everywhereIn_iff] at h
  exact h

theorem isSingleTrack_steps {path : List Path} (h : (steps path).isSingleTrack = true) :
    ∀ step ∈ path, step.isSingleTrack = true := by
  rw [isSingleTrack, everywhere, Bool.true_and, everywhereIn_iff] at h
  exact h

mutual

/-- A path that never selects for two reasons at once selects nodes that lie apart. -/
theorem separated_locate : (path : Path) → path.isSingleTrack = true → (here : Address) →
    (found : List Address) → path.locate resolve find root here = .ok found →
      Separated here found
  | .literal _, _, here, _, h => by
      rw [Path.locate] at h
      cases h
      exact .nil here
  | .field key selection, _, here, _, h => by
      rw [Path.locate] at h
      cases h
      exact separated_locateField key selection _ here
  | .keys pattern, _, here, _, h => by
      rw [Path.locate] at h
      cases h
      exact separated_locateKeys pattern _ here
  | .any branches, single, here, found, h => by
      rw [Path.locate] at h
      exact separated_locateAny branches (isSingleTrack_any single) here found h
  | .all _, single, _, _, _ | .each _, single, _, _, _ | .lookup _, single, _, _, _ => by
      cases single
  | .inverse _, _, _, _, h => by
      rw [Path.locate] at h
      cases h
  | .steps path, single, here, found, h => by
      rw [Path.locate] at h
      exact separated_locateSteps path (isSingleTrack_steps single) here [here] (.itself here)
        found h

theorem separated_locateAny : (branches : List Path) →
    (∀ branch ∈ branches, branch.isSingleTrack = true) → (here : Address) →
      (found : List Address) → locateAny resolve find root branches here = .ok found →
        Separated here found
  | [], _, here, _, h => by
      rw [locateAny] at h
      cases h
      exact .nil here
  | branch :: rest, single, here, found, h => by
      rw [List.forall_mem_cons] at single
      rw [locateAny, bind_eq_ok_iff] at h
      obtain ⟨located, hlocated, h⟩ := h
      split at h
      next => exact separated_locateAny rest single.2 here found h
      next =>
        cases h
        exact separated_locate branch single.1 here _ hlocated

/-- Addresses that lie apart are kept apart by every step. -/
theorem separated_locateSteps : (path : List Path) →
    (∀ step ∈ path, step.isSingleTrack = true) → (here : Address) →
      (current : List Address) → Separated here current → (found : List Address) →
        locateSteps resolve find root path current = .ok found → Separated here found
  | [], _, here, _, separated, _, h => by
      rw [locateSteps] at h
      cases h
      exact separated
  | head :: rest, single, here, current, separated, found, h => by
      rw [List.forall_mem_cons] at single
      rw [locateSteps, bind_eq_ok_iff] at h
      obtain ⟨next, hnext, h⟩ := h
      obtain ⟨part, rfl, each⟩ := exists_parts_of_locateFrom hnext
      refine separated_locateSteps rest single.2 here _ (separated.extend ?_) found h
      intro start hstart
      exact separated_locate head single.1 start (part start) (each start hstart)

end

end Path

/-- Two addresses that a path without joined branches and lookups selects are the same, or neither
node lies in the other; and the left objects that a rule gets from them, each listed once, lie apart
from each other. -/
theorem Evaluator.apart_of_locate (e : Evaluator) {path : Path}
    (single : path.isSingleTrack = true) {document : Value} {found : List Address}
    (h : e.locate path document = .ok found) :
    (∀ first ∈ found, ∀ second ∈ found, first = second ∨ Address.Apart first second) ∧
      (Address.objects document found).Pairwise Address.Apart := by
  have separated := Path.separated_locate path single [] found h
  exact ⟨separated.eq_or_apart,
    Address.pairwise_apart_objects (separated.objects document).antichain⟩

theorem Evaluator.apart_of_locate_repeated :
    let path : Path := .any [.steps [.literal "rows"], .steps [.field "rows" none,
      .field "parts" (some [.position 0, .range (-2) 5 true, .position 0])]]
    let part (n : Int64) : Value := .object [("n", .int n)]
    let document : Value := .object [("rows", .list [
      .object [("parts", .list [part 1, .list [part 2, .int 3, part 4]])],
      .list [.object [("parts", part 5)], .null]])]
    let row : Address := [.field "rows", .index 0, .field "parts"]
    let alone : Address := [.field "rows", .index 1, .index 0, .field "parts"]
    let found := [row.index 0, row.index 0, row.index 1, row.index 0, alone]
    let objects := [row.index 0, (row.index 1).index 0, (row.index 1).index 2, alone]
    path.isSingleTrack = true ∧ Evaluator.locate {} path document = .ok found ∧
      Address.objects document found = objects ∧
      (∀ first ∈ found, ∀ second ∈ found, first = second ∨ Address.Apart first second) ∧
      objects.Pairwise Address.Apart := by
  intro path part document row alone found objects
  have single : path.isSingleTrack = true := by decide
  have hfound : Evaluator.locate {} path document = .ok found := by decide +kernel
  have hobjects : Address.objects document found = objects := by decide +kernel
  obtain ⟨apart, pairwise⟩ := Evaluator.apart_of_locate {} single hfound
  exact ⟨single, hfound, hobjects, apart, hobjects ▸ pairwise⟩

end TreeTable
