import TreeTable.Proofs.Stage.Sorting
import TreeTable.Proofs.Value.Reordering

/-! # Dropping repetitions before or after sorting

Of elements that equal each other the first one is kept. Elements that are equal tie in every order
of sorting, and ties keep their order, so the first of equal elements is the same one before sorting
as after it. Which elements tie is a coarser question than which are equal, and sorting drops nulls,
yet both steps may change places.
-/

namespace TreeTable

open Numeric

namespace Value

/-- The elements that no earlier element equals, in order. -/
def firsts (items : List Value) : List Value :=
  (items.zipIdx.filter fun entry => !(items.take entry.2).any (·.strictEq entry.1)).map Prod.fst

theorem distinct_concat (items : List Value) (item : Value) :
    distinct (items ++ [item]) =
      if (distinct items).any (·.strictEq item) then distinct items
      else distinct items ++ [item] := by
  simp [distinct]

/-- An element that equals an earlier one equals one that was kept. -/
theorem any_distinct (items : List Value) (item : Value) :
    (distinct items).any (·.strictEq item) = items.any (·.strictEq item) := by
  induction items using List.reverseRecOn with
  | nil => rfl
  | append_singleton rest last ih =>
      rw [distinct_concat, List.any_append, ← ih]
      split
      next dropped =>
        rw [eq_comm, List.any_cons, List.any_nil, Bool.or_false, Bool.or_eq_left_iff_imp]
        intro equal
        obtain ⟨kept, hkept, heq⟩ := List.any_eq_true.mp dropped
        exact List.any_eq_true.mpr ⟨kept, hkept, strictEq_trans heq equal⟩
      next => rw [List.any_append]

theorem firsts_concat (items : List Value) (item : Value) :
    firsts (items ++ [item]) =
      if items.any (·.strictEq item) then firsts items else firsts items ++ [item] := by
  have before : items.zipIdx.filter (fun entry =>
        !((items ++ [item]).take entry.2).any (·.strictEq entry.1)) =
      items.zipIdx.filter fun entry => !(items.take entry.2).any (·.strictEq entry.1) := by
    apply List.filter_congr
    intro entry hentry
    rw [List.take_append_of_le_length (Nat.le_of_lt (List.mem_zipIdx' hentry).1)]
  rw [firsts, List.zipIdx_append, List.filter_append, before, List.map_append, ← firsts]
  cases h : items.any (·.strictEq item) <;> simp [h]

/-- What is kept are exactly the elements that no earlier element equals. -/
theorem distinct_eq_firsts (items : List Value) : distinct items = firsts items := by
  induction items using List.reverseRecOn with
  | nil => rfl
  | append_singleton rest last ih => rw [distinct_concat, firsts_concat, any_distinct, ih]

theorem distinct_sublist (items : List Value) : (distinct items).Sublist items := by
  induction items using List.reverseRecOn with
  | nil => exact .slnil
  | append_singleton rest last ih =>
      rw [distinct_concat]
      split
      · exact ih.trans (List.sublist_append_left rest [last])
      · exact ih.append_right [last]

/-- Repetitions may be dropped before or after choosing elements by what equal elements share. -/
theorem distinct_filter {test : Value → Bool}
    (respects : ∀ a b, a.strictEq b = true → test a = test b) (items : List Value) :
    distinct (items.filter test) = (distinct items).filter test := by
  induction items using List.reverseRecOn with
  | nil => rfl
  | append_singleton rest last ih =>
      rw [List.filter_append, distinct_concat]
      by_cases passes : test last = true
      · -- What equals the last element passes as well, so none is missed among those that do.
        have seen : ((distinct rest).filter test).any (·.strictEq last) =
            (distinct rest).any (·.strictEq last) := by
          rw [List.any_filter]
          congr 1
          funext other
          cases equal : other.strictEq last with
          | false => rw [Bool.and_false]
          | true => rw [respects other last equal, passes, Bool.and_self]
        rw [List.filter_cons_of_pos passes, List.filter_nil, distinct_concat, ih, seen]
        split
        · rfl
        · rw [List.filter_append, List.filter_cons_of_pos passes, List.filter_nil]
      · rw [List.filter_cons_of_neg passes, List.filter_nil, List.append_nil, ih]
        split
        · rfl
        · rw [List.filter_append, List.filter_cons_of_neg passes, List.filter_nil, List.append_nil]

/-- Equal floats compare alike with any float. -/
theorem compareFloats_congr {x y : Binary64} (z : Binary64) (h : x.eq y = true) :
    compareFloats z x = compareFloats z y := by
  simp only [Binary64.eq, Bool.and_eq_true, Bool.not_eq_true', decide_eq_true_iff] at h
  simp only [compareFloats, Binary64.compare?, h]

/-- Equal documents compare alike with any document. -/
theorem compare_congr {a b : Value} (c : Value) (h : a.strictEq b = true) :
    c.compare a = c.compare b := by
  cases a with
  | null =>
      cases b with
      | null => rfl
      | _ => cases h
  | bool p =>
      cases b with
      | bool q => rw [eq_of_beq h]
      | _ => cases h
  | int m =>
      cases b with
      | int n => rw [of_decide_eq_true h]
      | _ => cases h
  | float x =>
      cases b with
      | float y =>
          cases c with
          | int n => exact compareFloats_congr _ h
          | float z => exact compareFloats_congr z h
          | _ => rfl
      | _ => cases h
  | string s =>
      cases b with
      | string t => rw [of_decide_eq_true h]
      | _ => cases h
  | list as =>
      obtain ⟨bs, rfl⟩ := eq_list_of_equals h
      cases c <;> rfl
  | object as =>
      obtain ⟨bs, rfl⟩ := eq_object_of_equals h
      cases c <;> rfl

/-- Repetitions may be dropped before or after sorting by a comparison in which equal elements
tie. -/
theorem distinct_sortBy {compare : Value → Value → Ordering} {items : List Value}
    (orders : Orders compare items)
    (respects : ∀ a b c : Value, a.strictEq b = true → compare c a = compare c b) :
    distinct (sortBy compare items) = sortBy compare (distinct items) := by
  have kept : distinct items ⊆ items := (distinct_sublist items).subset
  have keptSorted := distinct_sublist (sortBy compare items)
  have ties (item : Value) (items : List Value) :
      tiesWith compare item (distinct items) = distinct (tiesWith compare item items) := by
    refine (distinct_filter ?_ items).symm
    intro a b h
    rw [respects a b item h]
  apply eq_of_ascending orders
  · exact List.Subset.trans keptSorted.subset (sortBy_perm compare items).subset
  · exact List.Subset.trans (sortBy_perm compare (distinct items)).subset kept
  · exact (ascending_sortBy orders).sublist keptSorted
  · exact ascending_sortBy (orders.mono kept)
  · intro item hitem
    rw [ties, tiesWith_sortBy orders hitem (List.Subset.refl items), ← ties,
      tiesWith_sortBy orders hitem kept]

theorem isNull_congr {a b : Value} (h : a.strictEq b = true) : a.isNull = b.isNull := by
  cases a with
  | null =>
      cases b with
      | null => rfl
      | _ => cases h
  | _ =>
      cases b with
      | null => cases h
      | _ => rfl

theorem distinct_present (items : List Value) :
    distinct (present items) = present (distinct items) := by
  apply distinct_filter
  intro a b h
  rw [isNull_congr h]

/-- Elements that compare as equal elements do may be sorted before or after repetitions and nulls
are dropped. -/
theorem distinct_sortBy_present {compare : Value → Value → Ordering} {items : List Value}
    (orders : Orders compare items)
    (respects : ∀ a b c : Value, a.strictEq b = true → compare c a = compare c b) :
    distinct (sortBy compare (present items)) = sortBy compare (present (distinct items)) := by
  have among : present items ⊆ items := List.filter_subset_self items
  rw [distinct_sortBy (orders.mono among) respects, distinct_present]

end Value

namespace Stage

/-- Dropping repetitions keeps exactly the elements of a list that no earlier element equals, and
elements are equal as soon as they are the same but for the order of fields. When there is no float
among the elements, which is so in particular if there is none at any depth, it does not matter
whether repetitions are dropped before or after sorting, in ascending or in descending order: the
results are the same to the order of fields. -/
theorem unique_sort_comm (items : List Value) :
    unique.apply (.list items) = .list (Value.firsts items) ∧
      (∀ a ∈ items, a.WellFormed → a.nanFree = true → ∀ b, a.Reordered b →
        a.strictEq b = true) ∧
      ((∀ x, .float x ∉ items) → ∀ descending,
        applyChain [unique, sort descending] (.list items) =
          applyChain [sort descending, unique] (.list items)) := by
  refine ⟨congrArg Value.list (Value.distinct_eq_firsts items), ?_, ?_⟩
  · intro a _ wellFormed numbers b reordered
    exact reordered.equals wellFormed numbers
  · intro noFloat descending
    have orders := Value.orders_compare noFloat
    have respects (a b c : Value) (h : a.strictEq b = true) : c.compare a = c.compare b :=
      Value.compare_congr c h
    cases descending with
    | false =>
        have same := Value.distinct_sortBy_present orders respects
        exact congrArg Value.list same.symm
    | true =>
        have reversed (a b c : Value) (h : a.strictEq b = true) : a.compare c = b.compare c := by
          rw [Value.compare_swap c a, Value.compare_swap c b, respects a b c h]
        have same := Value.distinct_sortBy_present orders.flip reversed
        exact congrArg Value.list same.symm

theorem unique_sort_comm_fields :
    let first : Value := .object [("a", .int 1), ("b", .list [.null])]
    let second : Value := .object [("b", .list [.null]), ("a", .int 1)]
    let other : Value := .object [("a", .int 2)]
    let items : List Value := [.null, other, first, .int 3, .list [first], .null, second, .int 3,
      .list [second], .string "x", other]
    first.WellFormed ∧ first.nanFree = true ∧ first.Reordered second ∧
      first.strictEq second = true ∧ (∀ x, .float x ∉ items) ∧
      unique.apply (.list items) = .list [.null, other, first, .int 3, .list [first], .string "x"] ∧
      applyChain [unique, sort true] (.list items) =
        applyChain [sort true, unique] (.list items) ∧
      applyChain [sort true, unique] (.list items) =
        .list [other, first, .list [first], .string "x", .int 3] := by
  intro first second other items
  have wellFormed : first.WellFormed := by
    simp [first, Value.WellFormed, Value.WellFormedItems, Value.WellFormedFields, Fields.keys]
  have reordered : first.Reordered second := by
    apply Value.reordered_of_get? wellFormed.1 (by decide)
    intro key
    by_cases h : key = "a" <;> simp [Fields.get?_cons, h]
  have noFloat : ∀ x, .float x ∉ items := by simp [items, first, second, other]
  obtain ⟨kept, equal, commutes⟩ := unique_sort_comm items
  have same := equal first (by simp [items]) wellFormed rfl second reordered
  exact ⟨wellFormed, rfl, reordered, same, noFloat, by decide +kernel, commutes noFloat true,
    by decide +kernel⟩

end Stage

end TreeTable
