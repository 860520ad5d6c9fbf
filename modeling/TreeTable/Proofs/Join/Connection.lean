import TreeTable.Proofs.Join.Snapshot
import TreeTable.Proofs.Pipeline.Failure
import TreeTable.Proofs.Value.Objects

/-! # Rules between two fields of a document

A rule may join the objects at one field of a document with the values at another field of it,
comparing fields of the former with what the latter hold themselves. Such a rule can fail at its
right keys only, and not if these are paths that were read. All that it changes is the field of its
left objects: each of the objects there takes over its matches, which depend on the values at the
other field only.
-/

namespace TreeTable

open Outcome

namespace Evaluator

variable (e : Evaluator) {key : String}

theorem eval_field (named : key ≠ Path.wildcard) (fields : Fields) (root : Value) :
    e.eval (.field key none) (.object fields) root = .ok ((fields.get? key).getD .null) := by
  simp [eval, Path.eval, Value.fieldAt, Value.narrow, named]

theorem locate_field (named : key ≠ Path.wildcard) (fields : Fields) :
    e.locate (.field key none) (.object fields) =
      .ok (match fields.get? key with
        | some _ => [[.field key]]
        | none => []) := by
  simp only [locate, Path.locate, Path.locateField, Address.get?, Option.getD_some, if_neg named]
  cases fields.get? key <;> rfl

end Evaluator

namespace Value

theorem rewriteFields_eq_map (changes : Changes) (fields : Fields) :
    rewriteFields changes fields =
      fields.map fun field => (field.1, field.2.rewrite (changes.below (.field field.1))) := by
  induction fields with
  | nil => rw [rewriteFields, List.map_nil]
  | cons field rest ih => rw [rewriteFields, List.map_cons, ih]

end Value

namespace Address

variable {document : Value} {address : Address}

theorem isObject_iff :
    address.isObject document = true ↔ ∃ inner, address.get? document = some (.object inner) := by
  rw [isObject]
  split
  next inner h => simp [h]
  next h => simpa using h

theorem mem_objects_iff {found : List Address} : address ∈ objects document found ↔
    isObject document address = true ∧ ∃ start ∈ found, address ∈ spread document start := by
  rw [objects, List.mem_eraseDups, List.mem_filter, List.mem_flatMap, and_comm]

end Address

namespace JoinRule

/-- A rule joins the objects at one field of a document with the values at another one, and puts the
matches under a target. Its left keys are fields, and its right keys look nothing up. -/
structure Connects (rule : JoinRule) (left right target : String) : Prop where
  left_path : rule.left.path = .field left none
  right_path : rule.right.path = .field right none
  target_eq : rule.target = some target
  left_named : left ≠ Path.wildcard
  right_named : right ≠ Path.wildcard
  leftKeys : ∀ matcher ∈ rule.matchers, ∃ key, matcher.1.path = .field key none ∧
    key ≠ Path.wildcard
  rightKeys : ∀ matcher ∈ rule.matchers, matcher.2.path.noLookup = true

/-- Whether a field of left objects is a key of a rule. -/
def ReadsLeft (rule : JoinRule) (key : String) : Prop :=
  ∃ matcher ∈ rule.matchers, matcher.1.path = .field key none

instance (rule : JoinRule) (key : String) : Decidable (rule.ReadsLeft key) :=
  inferInstanceAs (Decidable (∃ matcher ∈ rule.matchers, matcher.1.path = .field key none))

/-- What becomes of the fields of a left object when it is joined with right values and nothing is
looked up. -/
def joined (e : Evaluator) (rule : JoinRule) (rights : List Value) (fields : Fields) : Fields :=
  let matched := rule.matched e .null rights (.object fields)
  if matched = [] then fields else fields.merge (rule.joinedFields matched)

/-- What becomes of the fields of a document when the objects at one field are joined with the
values at another one. -/
def connect (e : Evaluator) (rule : JoinRule) (left right : String) (fields : Fields) : Fields :=
  fields.alter left (Value.eachObject (rule.joined e (fields.valuesAt right)))

/-- The right keys of a rule have values at right values. Nothing is looked up for them. -/
def RightKeysEnd (e : Evaluator) (rule : JoinRule) (rights : List Value) : Prop :=
  ∀ matcher ∈ rule.matchers, ∀ right ∈ rights, error? (e.eval matcher.2.path right .null) = none

/-- The addresses at which the objects at a field may stand. -/
def IsPlace (field : String) (address : Address) : Prop :=
  address = [.field field] ∨ ∃ i, address = [.field field, .index i]

theorem get?_place {field : String} {fields : Fields} (value : Value)
    (h : fields.get? field = some value) :
    Address.get? [.field field] (.object fields) = some value ∧
      ∀ i, Address.get? [.field field, .index i] (.object fields) = Step.get? (.index i) value := by
  simp [Address.get?, Step.get?, h]

/-- Changing the fields of objects at one field leaves the objects at every field in their
places. -/
theorem isObject_alter {place : String} {address : Address} (hplace : IsPlace place address)
    (key : String) (change : Fields → Fields) (fields : Fields) :
    address.isObject (.object (fields.alter key (Value.eachObject change))) =
      address.isObject (.object fields) := by
  by_cases same : place = key
  · subst same
    cases hvalue : fields.get? place with
    | none =>
        rcases hplace with rfl | ⟨i, rfl⟩ <;>
          simp [Address.isObject, Address.get?, Step.get?, Fields.get?_alter, hvalue]
    | some value =>
        obtain ⟨here, inside⟩ := get?_place value hvalue
        have hchanged : (fields.alter place (Value.eachObject change)).get? place =
            some (value.eachObject change) := by
          rw [Fields.get?_alter, if_pos rfl, hvalue, Option.map_some]
        obtain ⟨here', inside'⟩ := get?_place _ hchanged
        rcases hplace with rfl | ⟨i, rfl⟩
        · rw [Address.isObject, Address.isObject, here, here']
          cases value <;> rfl
        · rw [Address.isObject, Address.isObject, inside i, inside' i]
          cases value with
          | list items =>
              rw [Value.eachObject, Step.get?, Step.get?, List.getElem?_map]
              cases items[i]? with
              | none => rfl
              | some item => cases item <;> rfl
          | _ => rfl
  · rcases hplace with rfl | ⟨i, rfl⟩ <;>
      simp [Address.isObject, Address.get?, Step.get?, Fields.get?_alter, same]

variable {e : Evaluator} {rule : JoinRule} {left right target : String}

namespace Connects

variable (connects : rule.Connects left right target)

include connects

/-- Objects with the same left keys have the same matches, whatever the document around them is. -/
theorem matched_congr {first second : Fields}
    (same : ∀ key, rule.ReadsLeft key → first.get? key = second.get? key)
    (document other : Value) (rights : List Value) :
    rule.matched e document rights (.object first) =
      rule.matched e other rights (.object second) := by
  rw [matched, matched]
  apply List.filter_congr
  intro value _
  have agree : ∀ matcher ∈ rule.matchers, keysMatch e document (.object first) value matcher =
      keysMatch e other (.object second) value matcher := by
    intro matcher hmatcher
    obtain ⟨key, hkey, named⟩ := connects.leftKeys matcher hmatcher
    have noLookup := connects.rightKeys matcher hmatcher
    rw [keysMatch, keysMatch, hkey, e.eval_field named, e.eval_field named,
      same key ⟨matcher, hmatcher, hkey⟩,
      Evaluator.eval_eq_of_noLookup noLookup e e value document other]
  rw [joins, joins, Bool.eq_iff_iff, Bool.and_eq_true, Bool.and_eq_true, List.all_eq_true,
    List.all_eq_true]
  exact and_congr_right' (forall₂_congr fun matcher hmatcher => by rw [agree matcher hmatcher])

theorem rightValues_eq (fields : Fields) : rule.rightValues e (.object fields) =
    .ok (fields.valuesAt right) := by
  rw [rightValues, connects.right_path, Evaluator.evaluate, e.eval_field connects.right_named]
  rfl

theorem exists_leftObjects (e : Evaluator) (fields : Fields) :
    ∃ lefts, rule.leftObjects e (.object fields) = .ok lefts := by
  rw [leftObjects, connects.left_path, e.locate_field connects.left_named]
  exact ⟨_, rfl⟩

/-- The left objects are those at the left field, or in a list there. -/
theorem mem_leftObjects_iff {fields : Fields} {lefts : List Address}
    (hlefts : rule.leftObjects e (.object fields) = .ok lefts) {address : Address} :
    address ∈ lefts ↔ address.isObject (.object fields) = true ∧ IsPlace left address := by
  rw [leftObjects, connects.left_path, e.locate_field connects.left_named] at hlefts
  obtain rfl := Except.ok.inj hlefts
  rw [Address.mem_objects_iff, and_congr_right_iff, Address.isObject_iff]
  rintro ⟨inner, hinner⟩
  cases hvalue : fields.get? left with
  | none =>
      have nowhere : ¬ IsPlace left address := by
        rintro (rfl | ⟨i, rfl⟩) <;> simp [Address.get?, Step.get?, hvalue] at hinner
      simp [nowhere]
  | some value =>
      obtain ⟨here, inside⟩ := get?_place value hvalue
      simp only [List.mem_singleton, exists_eq_left]
      rw [Address.spread, here]
      constructor
      · intro among
        split at among
        next items _ =>
          obtain ⟨i, -, rfl⟩ := List.mem_map.mp among
          exact .inr ⟨i, rfl⟩
        next => exact .inl (List.mem_singleton.mp among)
        next => cases among
      · rintro (rfl | ⟨i, rfl⟩)
        · rw [here] at hinner
          cases hinner
          exact List.mem_singleton_self _
        · rw [inside i] at hinner
          cases value with
          | list items =>
              have bound := (List.getElem?_eq_some_iff.mp hinner).1
              exact List.mem_map.mpr ⟨i, List.mem_range.mpr bound, rfl⟩
          | _ => cases hinner

/-- No left object lies in another one. -/
theorem pairwise_apart {fields : Fields} {lefts : List Address}
    (hlefts : rule.leftObjects e (.object fields) = .ok lefts) : lefts.Pairwise Address.Apart := by
  have mem_iff {address : Address} : address ∈ lefts ↔
      address.isObject (.object fields) = true ∧ IsPlace left address :=
    connects.mem_leftObjects_iff hlefts
  obtain ⟨found, -, h⟩ := bind_eq_ok_iff.mp hlefts
  obtain rfl := Except.ok.inj h
  apply Address.pairwise_apart_objects
  intro outer houter inner hinner within
  rw [mem_iff, Address.isObject_iff] at houter hinner
  obtain ⟨⟨first, hfirst⟩, rfl | ⟨i, rfl⟩⟩ := houter
  · obtain ⟨⟨second, hsecond⟩, rfl | ⟨j, rfl⟩⟩ := hinner
    · rfl
    · -- What stands at the field is an object, which has no elements.
      have here : fields.get? left = some (.object first) := by
        simpa [Address.get?, Step.get?] using hfirst
      rw [(get?_place _ here).2 j] at hsecond
      cases hsecond
  · obtain ⟨-, rfl | ⟨j, rfl⟩⟩ := hinner
    · simpa using within.length_le
    · exact within.eq_of_length rfl

/-- Such a rule fails only where one of its right keys does, and only if there is a left object. -/
theorem failure_eq_none_iff {fields : Fields} {lefts : List Address}
    (hlefts : rule.leftObjects e (.object fields) = .ok lefts) :
    rule.failure e (.object fields) = none ↔
      lefts = [] ∨ rule.RightKeysEnd e (fields.valuesAt right) := by
  have leftKeys : ∀ matcher ∈ rule.matchers, ∀ address ∈ lefts, error? (e.eval matcher.1.path
      ((address.get? (.object fields)).getD .null) (.object fields)) = none := by
    intro matcher hmatcher address haddress
    obtain ⟨key, hkey, named⟩ := connects.leftKeys matcher hmatcher
    obtain ⟨inner, hinner⟩ := get?_of_mem_leftObjects hlefts haddress
    rw [hkey, hinner, Option.getD_some, e.eval_field named, error?_ok]
  rw [failure, hlefts, connects.rightValues_eq]
  dsimp only
  split
  next nothing =>
    rw [Bool.or_eq_true, List.isEmpty_iff, List.isEmpty_iff] at nothing
    refine iff_of_true rfl (nothing.imp_right fun h matcher _ => ?_)
    rw [h]
    exact List.forall_mem_nil _
  next something =>
    rw [Bool.or_eq_true, not_or, List.isEmpty_iff] at something
    rw [or_iff_right something.1, List.findSome?_eq_none_iff]
    refine forall₂_congr fun matcher hmatcher => ?_
    rw [Option.or_eq_none_iff, List.findSome?_eq_none_iff, List.findSome?_eq_none_iff,
      and_iff_left (leftKeys matcher hmatcher)]
    refine forall₂_congr fun value _ => ?_
    rw [Evaluator.eval_eq_of_noLookup (connects.rightKeys matcher hmatcher) e e value _ .null]

/-- Such a rule does not fail if its right keys were read. -/
theorem failure_of_noInverse
    (noInverse : ∀ matcher ∈ rule.matchers, matcher.2.path.noInverse = true) (e : Evaluator)
    (fields : Fields) : rule.failure e (.object fields) = none := by
  obtain ⟨lefts, hlefts⟩ := connects.exists_leftObjects e fields
  rw [connects.failure_eq_none_iff hlefts]
  refine .inr fun matcher hmatcher value _ => ?_
  cases h : e.eval matcher.2.path value .null with
  | ok key => rfl
  | error error =>
      have ends := Evaluator.ends_of_eval_error (List.mem_singleton_self matcher.2.path)
        (noInverse matcher hmatcher) h
      cases ends with
      | tooDeep among lookup =>
          rw [List.mem_singleton.mp among] at lookup
          cases (connects.rightKeys matcher hmatcher).symm.trans lookup

/-- Whether such a rule fails is not changed by a rule that changes none of its right values. -/
theorem failure_alter {key : String} (apart : right ≠ key) (change : Fields → Fields)
    (fields : Fields) :
    rule.failure e (.object (fields.alter key (Value.eachObject change))) = none ↔
      rule.failure e (.object fields) = none := by
  obtain ⟨lefts, hlefts⟩ := connects.exists_leftObjects e fields
  obtain ⟨lefts', hlefts'⟩ :=
    connects.exists_leftObjects e (fields.alter key (Value.eachObject change))
  have same : lefts' = [] ↔ lefts = [] := by
    rw [List.eq_nil_iff_forall_not_mem, List.eq_nil_iff_forall_not_mem]
    refine forall_congr' fun address => not_congr ?_
    rw [connects.mem_leftObjects_iff hlefts, connects.mem_leftObjects_iff hlefts']
    exact and_congr_left fun place => by rw [isObject_alter place]
  rw [connects.failure_eq_none_iff hlefts, connects.failure_eq_none_iff hlefts', same,
    Fields.valuesAt_alter apart]

/-- Such a rule rewrites the left objects of a document, unless it fails. -/
theorem exists_rewrite {fields : Fields} {after : Value}
    (wellFormed : (Value.object fields).WellFormed)
    (h : (rule.applyInPlace e).perform (.object fields) = (after, none)) :
    ∃ lefts, rule.leftObjects e (.object fields) = .ok lefts ∧ after =
      (Value.object fields).rewrite
        (rule.joinChanges e (.object fields) lefts (fields.valuesAt right)) := by
  obtain ⟨updates, hupdates, -⟩ := perform_applyInPlace_eq_none_iff.mp h
  obtain ⟨lefts, hlefts, -⟩ := bind_eq_ok_iff.mp hupdates
  obtain ⟨rights, hrights, whole⟩ :=
    exists_rewrite_of_perform wellFormed hlefts (connects.pairwise_apart hlefts) h
  rw [connects.rightValues_eq] at hrights
  obtain rfl := Except.ok.inj hrights
  exact ⟨lefts, hlefts, whole⟩

section Changes

variable {fields : Fields} {lefts : List Address} {rights : List Value}
  (hlefts : rule.leftObjects e (.object fields) = .ok lefts)

include hlefts

theorem joinChanges_eq_none {address : Address}
    (h : IsPlace left address → ∀ inner, address.get? (.object fields) ≠ some (.object inner)) :
    rule.joinChanges e (.object fields) lefts rights address = none := by
  rw [joinChanges]
  apply if_neg
  rintro ⟨among, -⟩
  rw [connects.mem_leftObjects_iff hlefts, Address.isObject_iff] at among
  obtain ⟨⟨inner, hinner⟩, hplace⟩ := among
  exact h hplace inner hinner

/-- What is changed about an object at a place is that it takes over its matches, if any. -/
theorem joinChanges_cases (rights : List Value) {address : Address} {inner : Fields}
    (hplace : IsPlace left address)
    (hinner : address.get? (.object fields) = some (.object inner)) :
    rule.joinChanges e (.object fields) lefts rights address = none ∧
        rule.joined e rights inner = inner ∨
      ∃ change, rule.joinChanges e (.object fields) lefts rights address = some change ∧
        change (.object inner) = .object (rule.joined e rights inner) := by
  have among : address ∈ lefts :=
    (connects.mem_leftObjects_iff hlefts).mpr ⟨Address.isObject_iff.mpr ⟨inner, hinner⟩, hplace⟩
  have here : rule.matchedAt e (.object fields) rights address =
      rule.matched e .null rights (.object inner) := by
    rw [matchedAt, hinner]
    exact connects.matched_congr (fun _ _ => rfl) _ _ rights
  rw [joinChanges, joined, here]
  by_cases h : rule.matched e .null rights (.object inner) = []
  · exact .inl ⟨if_neg fun changed => changed.2 h, if_pos h⟩
  · refine .inr ⟨_, if_pos ⟨among, h⟩, ?_⟩
    rw [if_neg h]
    rfl

/-- An object at a place below which there is none takes over its matches, and everything else
stays. -/
theorem rewrite_place {address : Address} {node : Value} (hplace : IsPlace left address)
    (hnode : address.get? (.object fields) = some node)
    (below : ∀ rest, rest ≠ [] → IsPlace left (address ++ rest) →
      ∀ inner, Address.get? (address ++ rest) (.object fields) ≠ some (.object inner)) :
    node.rewrite (fun rest => rule.joinChanges e (.object fields) lefts rights (address ++ rest)) =
      node.onObject (rule.joined e rights) := by
  have unchanged (rest : Address) (h : rest ≠ []) :
      rule.joinChanges e (.object fields) lefts rights (address ++ rest) = none :=
    connects.joinChanges_eq_none hlefts (below rest h)
  have stays (here : rule.joinChanges e (.object fields) lefts rights address = none) :
      node.rewrite
          (fun rest => rule.joinChanges e (.object fields) lefts rights (address ++ rest)) =
        node := by
    apply Value.rewrite_of_none
    intro rest
    by_cases h : rest = []
    · rwa [h, List.append_nil]
    · exact unchanged rest h
  have noObject (h : ∀ inner, node ≠ .object inner) :
      rule.joinChanges e (.object fields) lefts rights address = none := by
    apply connects.joinChanges_eq_none hlefts
    intro _ inner hinner
    rw [hnode] at hinner
    exact h inner (Option.some.inj hinner)
  cases node with
  | object inner =>
      have taken := connects.joinChanges_cases hlefts rights hplace hnode
      rcases taken with ⟨none, same⟩ | ⟨change, some, changed⟩
      · rw [stays none, Value.onObject, same]
      · rw [Value.onObject, ← changed]
        apply Value.rewrite_of_some
        rwa [List.append_nil]
  | _ => exact stays (noObject nofun)

/-- What stands at the left field, be it a list or not, has its objects changed. -/
theorem rewrite_left {value : Value} (hvalue : fields.get? left = some value) :
    value.rewrite (fun rest =>
        rule.joinChanges e (.object fields) lefts rights (.field left :: rest)) =
      value.eachObject (rule.joined e rights) := by
  obtain ⟨here, inside⟩ := get?_place value hvalue
  cases value with
  | list items =>
      have notHere : rule.joinChanges e (.object fields) lefts rights [.field left] = none := by
        apply connects.joinChanges_eq_none hlefts
        intro _ inner hinner
        rw [here] at hinner
        cases hinner
      rw [Value.rewrite_list notHere, Value.eachObject]
      congr 1
      apply List.ext_getElem?
      intro i
      rw [Value.getElem?_rewriteItems, List.getElem?_map, Nat.zero_add]
      cases hitem : items[i]? with
      | none => rfl
      | some item =>
          refine congrArg some (connects.rewrite_place hlefts (.inr ⟨i, rfl⟩) ?_ ?_)
          · rw [inside i]
            exact hitem
          · intro rest hrest place
            rcases place with h | ⟨j, h⟩ <;> simp [hrest] at h
  | _ =>
      refine connects.rewrite_place hlefts (.inl rfl) here ?_
      intro rest hrest place inner hinner
      rcases place with h | ⟨j, h⟩
      · simp [hrest] at h
      · rw [h, inside j] at hinner
        cases hinner

end Changes

/-- A rule between two fields of a document changes the objects at the left field, unless it
fails. -/
theorem eq_connect {fields : Fields} {after : Value}
    (wellFormed : (Value.object fields).WellFormed)
    (h : (rule.applyInPlace e).perform (.object fields) = (after, none)) :
    after = .object (rule.connect e left right fields) := by
  obtain ⟨lefts, hlefts, rfl⟩ := connects.exists_rewrite wellFormed h
  rw [Value.rewrite_object (connects.joinChanges_eq_none hlefts nofun), Value.rewriteFields_eq_map]
  congr 1
  apply List.map_congr_left
  rintro ⟨key, value⟩ hfield
  congr 1
  by_cases h : key = left
  · subst h
    rw [if_pos rfl]
    exact connects.rewrite_left hlefts (Fields.get?_of_mem wellFormed.1 hfield)
  · rw [if_neg h]
    apply Value.rewrite_of_none
    intro rest
    apply connects.joinChanges_eq_none hlefts
    intro place
    rcases place with hplace | ⟨i, hplace⟩ <;> simp [h] at hplace

theorem perform_eq_none_iff {fields : Fields} (wellFormed : (Value.object fields).WellFormed)
    {after : Value} : (rule.applyInPlace e).perform (.object fields) = (after, none) ↔
      rule.failure e (.object fields) = none ∧
        after = .object (rule.connect e left right fields) := by
  rw [← error?_apply, error?_eq_none_iff]
  simp only [apply_eq_ok_iff]
  constructor
  · intro h
    exact ⟨⟨after, h⟩, connects.eq_connect wellFormed h⟩
  · rintro ⟨⟨after, h⟩, rfl⟩
    rw [h, connects.eq_connect wellFormed h]

end Connects

end JoinRule

end TreeTable
