import TreeTable.Proofs.Value.Equality

/-! # Documents up to the order of fields

Equality of documents ignores in which order the fields of an object come, at any depth, and ignores
nothing else that a document without floats has. A document is equal to itself unless there is a
float in it that is not a number, and documents without floats are equal exactly when they are the
same but for the order of fields. So there is only one equality of such documents, which is an
equivalence.
-/

namespace TreeTable.Value

open Numeric

/-- Two documents that are the same but for the order of fields. -/
inductive Reordered : Value → Value → Prop where
  | refl (node : Value) : Reordered node node
  | list {as bs : List Value} (sameLength : as.length = bs.length)
      (items : ∀ (i : Nat) (a b : Value), as[i]? = some a → bs[i]? = some b → Reordered a b) :
      Reordered (list as) (list bs)
  | object {as bs : Fields} (sameKeys : as.keys.Perm bs.keys)
      (values : ∀ (key : String) (a b : Value), as.get? key = some a → bs.get? key = some b →
        Reordered a b) : Reordered (object as) (object bs)

/-- Objects with distinct keys that have the same under every key. -/
theorem reordered_of_get? {as bs : Fields} (distinct : as.keys.Nodup) (others : bs.keys.Nodup)
    (same : ∀ key, as.get? key = bs.get? key) : Reordered (.object as) (.object bs) := by
  apply Reordered.object
  · rw [List.perm_ext_iff_of_nodup distinct others]
    intro key
    rw [← Fields.get?_isSome_iff, ← Fields.get?_isSome_iff, same]
  · intro key a b ha hb
    rw [same, hb] at ha
    cases ha
    exact .refl a

theorem Reordered.symm {a b : Value} (h : Reordered a b) : Reordered b a := by
  induction h with
  | refl node => exact .refl node
  | list sameLength items ih =>
      exact .list sameLength.symm fun i b a hb ha => ih i a b ha hb
  | object sameKeys values ih =>
      exact .object sameKeys.symm fun key b a hb ha => ih key a b ha hb

theorem Reordered.isNull_eq {a b : Value} (h : Reordered a b) : a.isNull = b.isNull := by
  cases h <;> rfl

/-- Each element of a list has a counterpart in a list that is the same but for the order of
fields. -/
theorem exists_getElem?_of_length_eq {as bs : List Value} (sameLength : as.length = bs.length)
    {i : Nat} {b : Value} (hb : bs[i]? = some b) : ∃ a, as[i]? = some a := by
  have inside : i < as.length := sameLength ▸ (List.getElem?_eq_some_iff.mp hb).1
  exact ⟨as[i], List.getElem?_eq_getElem inside⟩

theorem exists_get?_of_perm {as bs : Fields} (sameKeys : as.keys.Perm bs.keys) {key : String}
    {b : Value} (hb : bs.get? key = some b) : ∃ a, as.get? key = some a := by
  have present : key ∈ bs.keys := Fields.get?_isSome_iff.mp (Option.isSome_of_eq_some hb)
  exact Option.isSome_iff_exists.mp (Fields.get?_isSome_iff.mpr (sameKeys.mem_iff.mpr present))

theorem Reordered.wellFormed {a b : Value} (h : Reordered a b) (wellFormed : a.WellFormed) :
    b.WellFormed := by
  induction h with
  | refl node => exact wellFormed
  | @list as bs sameLength items ih =>
      refine wellFormedItems_iff.mpr ?_
      intro b hb
      obtain ⟨i, hi⟩ := List.mem_iff_getElem?.mp hb
      obtain ⟨a, ha⟩ := exists_getElem?_of_length_eq sameLength hi
      exact ih i a b ha hi (wellFormedItems_iff.mp wellFormed a (List.mem_of_getElem? ha))
  | @object as bs sameKeys values ih =>
      have distinct : bs.keys.Nodup := sameKeys.nodup_iff.mp wellFormed.1
      refine ⟨distinct, wellFormedFields_iff.mpr ?_⟩
      intro field hfield
      have hb := Fields.get?_of_mem distinct hfield
      obtain ⟨a, ha⟩ := exists_get?_of_perm sameKeys hb
      exact ih field.1 a field.2 ha hb (wellFormed.2.get? ha)

variable {rule : Matching}

/-- A document equals itself when its keys are distinct and its floats are numbers. -/
theorem equals_self {node : Value} (wellFormed : node.WellFormed) (numbers : node.nanFree = true) :
    equals rule node node = true := by
  induction node using nodeInduction with
  | null => rfl
  | bool b => exact beq_self_eq_true b
  | int n => exact decide_eq_true rfl
  | float x => exact Binary64.eq_self (by simpa [nanFree, allFloats] using numbers)
  | string s => exact decide_eq_true rfl
  | list items ih =>
      rw [nanFree, allFloats, allFloatsIn_iff] at numbers
      refine equalItems_iff.mpr ⟨rfl, ?_⟩
      intro i item hitem
      have among := List.mem_of_getElem? hitem
      exact ⟨item, hitem, ih item among (wellFormedItems_iff.mp wellFormed item among)
        (numbers item among)⟩
  | object fields ih =>
      rw [nanFree, allFloats, allFloatsOf_iff] at numbers
      apply equals_of_partners wellFormed.1 rfl
      intro key value hvalue
      have among := Fields.mem_of_get? hvalue
      exact ⟨value, hvalue, ih (key, value) among (wellFormed.2.get? hvalue)
        (numbers (key, value) among)⟩

/-- Documents that are the same but for the order of fields are equal. -/
theorem Reordered.equals {a b : Value} (h : Reordered a b) (wellFormed : a.WellFormed)
    (numbers : a.nanFree = true) : equals rule a b = true := by
  induction h with
  | refl node => exact equals_self wellFormed numbers
  | @list as bs sameLength items ih =>
      rw [nanFree, allFloats, allFloatsIn_iff] at numbers
      refine equalItems_iff.mpr ⟨sameLength, ?_⟩
      intro i a ha
      obtain ⟨b, hb⟩ := exists_getElem?_of_length_eq sameLength.symm ha
      have among := List.mem_of_getElem? ha
      exact ⟨b, hb, ih i a b ha hb (wellFormedItems_iff.mp wellFormed a among) (numbers a among)⟩
  | @object as bs sameKeys values ih =>
      rw [nanFree, allFloats, allFloatsOf_iff] at numbers
      have sameLength : as.length = bs.length := by simpa [Fields.keys] using sameKeys.length_eq
      apply equals_of_partners wellFormed.1 sameLength
      intro key a ha
      obtain ⟨b, hb⟩ := exists_get?_of_perm sameKeys.symm ha
      exact ⟨b, hb, ih key a b ha hb (wellFormed.2.get? ha)
        (numbers (key, a) (Fields.mem_of_get? ha))⟩

variable {a b : Value}

/-- What equals a document equals it with the fields in another order. -/
theorem equals_of_reordered {a' : Value} (h : Reordered a a') (wellFormed : a.WellFormed)
    (hab : equals rule a b = true) : equals rule a' b = true := by
  induction h generalizing b with
  | refl node => exact hab
  | @list as as' sameLength items ih =>
      obtain ⟨bs, rfl⟩ := eq_list_of_equals hab
      obtain ⟨asMany, partners⟩ := equalItems_iff.mp hab
      refine equalItems_iff.mpr ⟨sameLength.symm.trans asMany, ?_⟩
      intro i a' ha'
      obtain ⟨a, ha⟩ := exists_getElem?_of_length_eq sameLength ha'
      obtain ⟨b, hb, equal⟩ := partners i a ha
      exact ⟨b, hb, ih i a a' ha ha'
        (wellFormedItems_iff.mp wellFormed a (List.mem_of_getElem? ha)) equal⟩
  | @object as as' sameKeys values ih =>
      obtain ⟨bs, rfl⟩ := eq_object_of_equals hab
      obtain ⟨asMany, partners⟩ := partners_of_equals hab
      have sameLength : as'.length = as.length := by
        simpa [Fields.keys] using sameKeys.symm.length_eq
      apply equals_of_partners (sameKeys.nodup_iff.mp wellFormed.1) (sameLength.trans asMany)
      intro key a' ha'
      obtain ⟨a, ha⟩ := exists_get?_of_perm sameKeys ha'
      obtain ⟨b, hb, equal⟩ := partners key a ha
      exact ⟨b, hb, ih key a a' ha ha' (wellFormed.2.get? ha) equal⟩

theorem equals_congr_left {a' : Value} (h : Reordered a a') (wellFormed : a.WellFormed) :
    equals rule a' b = equals rule a b :=
  Bool.eq_iff_iff.mpr
    ⟨equals_of_reordered h.symm (h.wellFormed wellFormed), equals_of_reordered h wellFormed⟩

/-- Equality does not depend on the order of fields, on either side. -/
theorem equals_congr {a' b' : Value} (ha : Reordered a a') (hb : Reordered b b')
    (first : a.WellFormed) (second : b.WellFormed) : equals rule a' b' = equals rule a b := by
  rw [equals_congr_left ha first, equals_comm first (hb.wellFormed second),
    equals_congr_left hb second, equals_comm second first]

/-- Documents without floats that are equal are the same but for the order of fields. -/
theorem reordered_of_equals (wellFormed : a.WellFormed) (first : a.floatFree = true)
    (second : b.floatFree = true) (h : equals rule a b = true) : Reordered a b := by
  induction a using nodeInduction generalizing b with
  | null =>
      cases b with
      | null => exact .refl _
      | _ => cases h
  | bool p =>
      cases b with
      | bool q =>
          rw [eq_of_beq h]
          exact .refl _
      | _ => cases h
  | int m =>
      cases b with
      | int n =>
          rw [of_decide_eq_true h]
          exact .refl _
      | float x => cases second
      | _ => cases h
  | float x => cases first
  | string p =>
      cases b with
      | string q =>
          rw [of_decide_eq_true h]
          exact .refl _
      | _ => cases h
  | list as ih =>
      obtain ⟨bs, rfl⟩ := eq_list_of_equals h
      obtain ⟨sameLength, partners⟩ := equalItems_iff.mp h
      refine .list sameLength ?_
      intro i a b ha hb
      obtain ⟨b', hb', equal⟩ := partners i a ha
      obtain rfl := Option.some.inj (hb.symm.trans hb')
      have amongFirst := List.mem_of_getElem? ha
      exact ih a amongFirst (wellFormedItems_iff.mp wellFormed a amongFirst)
        (allFloatsIn_iff.mp first a amongFirst)
        (allFloatsIn_iff.mp second b (List.mem_of_getElem? hb)) equal
  | object as ih =>
      obtain ⟨bs, rfl⟩ := eq_object_of_equals h
      refine .object (perm_keys_of_equals wellFormed.1 h) ?_
      intro key a b ha hb
      obtain ⟨b', hb', equal⟩ := (partners_of_equals h).2 key a ha
      obtain rfl := Option.some.inj (hb.symm.trans hb')
      have amongFirst := Fields.mem_of_get? ha
      exact ih (key, a) amongFirst (wellFormed.2.get? ha)
        (allFloatsOf_iff.mp first (key, a) amongFirst)
        (allFloatsOf_iff.mp second (key, b) (Fields.mem_of_get? hb)) equal

theorem allFloats_mono {test other : Numeric.Binary64 → Bool}
    (h : ∀ x, test x = true → other x = true) (hall : a.allFloats test = true) :
    a.allFloats other = true := by
  induction a using nodeInduction with
  | float x => exact h x hall
  | list items ih =>
      rw [allFloats, allFloatsIn_iff] at hall ⊢
      exact fun item hitem => ih item hitem (hall item hitem)
  | object fields ih =>
      rw [allFloats, allFloatsOf_iff] at hall ⊢
      exact fun field hfield => ih field hfield (hall field hfield)
  | _ => rfl

theorem nanFree_of_floatFree (h : a.floatFree = true) : a.nanFree = true :=
  allFloats_mono (fun _ impossible => absurd impossible Bool.false_ne_true) h

/-- Without floats, both equalities ignore the order of fields and nothing else. -/
theorem equals_iff_reordered (wellFormed : a.WellFormed) (first : a.floatFree = true)
    (second : b.floatFree = true) : equals rule a b = true ↔ Reordered a b :=
  ⟨reordered_of_equals wellFormed first second,
    fun h => h.equals wellFormed (nanFree_of_floatFree first)⟩

/-- The documents with distinct keys and without floats. -/
abbrev FloatFree := { node : Value // node.WellFormed ∧ node.floatFree = true }

theorem looseEq_iff_reordered (a b : FloatFree) : a.1.looseEq b.1 = true ↔ Reordered a.1 b.1 :=
  equals_iff_reordered a.2.1 a.2.2 b.2.2

/-- Without floats the equality of join keys is an equivalence. -/
theorem looseEq_equivalence : Equivalence fun a b : FloatFree => a.1.looseEq b.1 = true where
  refl a := equals_self a.2.1 (nanFree_of_floatFree a.2.2)
  symm {a _} h := equals_symm a.2.1 h
  trans {a b c} hab hbc := by
    have strict (a b : FloatFree) : a.1.looseEq b.1 = true ↔ a.1.strictEq b.1 = true :=
      (looseEq_iff_reordered a b).trans (equals_iff_reordered a.2.1 a.2.2 b.2.2).symm
    exact (strict a c).mpr (strictEq_trans ((strict a b).mp hab) ((strict b c).mp hbc))

end TreeTable.Value
