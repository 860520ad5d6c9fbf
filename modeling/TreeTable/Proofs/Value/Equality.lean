import Mathlib.Data.List.Perm.Subperm
import TreeTable.Proofs.Numeric.ExactIntegers
import TreeTable.Proofs.Value.Fields
import TreeTable.Proofs.Value.WellFormed
import TreeTable.Value.Floats
import TreeTable.Value.Order

/-! # Equality of join keys

Equal documents have equal nodes at the same addresses. The integers among them are compared with
the floats after they have been rounded to doubles, so a float equals every integer that is
rounded to it, and two documents that equal a third one may differ from each other: exactly when
both have an integer where the third one has a float, and these two integers are not the same.
One of them is then an integer that no double stands for.
-/

namespace TreeTable

open Numeric

namespace Value

/-- Two documents have different integers at an address at which a third one has a float. -/
def Clash (a b c : Value) : Prop :=
  ∃ (address : Address) (m n : Int64) (x : Binary64), address.get? a = some (.int m) ∧
    address.get? b = some (.float x) ∧ address.get? c = some (.int n) ∧ m ≠ n

/-- Whether for every integer in a document some double stands. -/
def IntegersHeld (document : Value) : Prop :=
  ∀ (address : Address) (n : Int64), address.get? document = some (.int n) →
    Binary64.Holds n.toInt

variable {rule : Matching}

theorem equalItems_iff {as bs : List Value} : equalItems rule as bs = true ↔
    as.length = bs.length ∧
      ∀ (i : Nat) (a : Value), as[i]? = some a → ∃ b, bs[i]? = some b ∧ equals rule a b = true := by
  induction as generalizing bs with
  | nil => cases bs <;> simp [equalItems]
  | cons a as ih =>
      cases bs with
      | nil => simp [equalItems]
      | cons b bs =>
          rw [equalItems, Bool.and_eq_true, ih]
          constructor
          · rintro ⟨first, sameLength, rest⟩
            refine ⟨congrArg (· + 1) sameLength, ?_⟩
            intro i
            cases i with
            | zero =>
                rintro _ ⟨⟩
                exact ⟨b, rfl, first⟩
            | succ i => exact rest i
          · rintro ⟨sameLength, all⟩
            obtain ⟨_, ⟨⟩, first⟩ := all 0 a rfl
            exact ⟨first, Nat.succ.inj sameLength, fun i => all (i + 1)⟩

theorem includedFields_iff {as bs : Fields} : includedFields rule as bs = true ↔
    ∀ field ∈ as, ∃ b, Fields.get? bs field.1 = some b ∧ equals rule field.2 b = true := by
  induction as with
  | nil => simp [includedFields]
  | cons field rest ih =>
      obtain ⟨key, a⟩ := field
      rw [includedFields, Bool.and_eq_true, ih, List.forall_mem_cons]
      apply and_congr_left'
      cases Fields.get? bs key with
      | none => simp
      | some b => simp

theorem eq_list_of_equals {as : List Value} {b : Value} (h : equals rule (list as) b = true) :
    ∃ bs, b = list bs := by
  cases b with
  | list bs => exact ⟨bs, rfl⟩
  | _ => cases h

theorem eq_object_of_equals {as : Fields} {b : Value} (h : equals rule (object as) b = true) :
    ∃ bs, b = object bs := by
  cases b with
  | object bs => exact ⟨bs, rfl⟩
  | _ => cases h

/-- Equal objects have as many fields, and what stands under a key has an equal partner under
that key. -/
theorem partners_of_equals {as bs : Fields} (h : equals rule (object as) (object bs) = true) :
    as.length = bs.length ∧ ∀ key a, as.get? key = some a →
      ∃ b, bs.get? key = some b ∧ equals rule a b = true := by
  rw [equals, Bool.and_eq_true, decide_eq_true_iff, includedFields_iff] at h
  refine ⟨h.1, ?_⟩
  intro key a hkey
  exact h.2 (key, a) (Fields.mem_of_get? hkey)

/-- An object with distinct keys equals another one when both have as many fields and what stands
under a key has an equal partner under that key. -/
theorem equals_of_partners {as bs : Fields} (distinct : as.keys.Nodup)
    (sameLength : as.length = bs.length) (partners : ∀ key a, as.get? key = some a →
      ∃ b, bs.get? key = some b ∧ equals rule a b = true) :
    equals rule (object as) (object bs) = true := by
  rw [equals, Bool.and_eq_true, decide_eq_true_iff, includedFields_iff]
  refine ⟨sameLength, ?_⟩
  intro field hfield
  exact partners field.1 field.2 (Fields.get?_of_mem distinct hfield)

/-- A step from a document leads to a node that equals where it leads from an equal document. -/
theorem equals_step {a b v : Value} {step : Step} (h : equals rule a b = true)
    (hv : step.get? a = some v) : ∃ w, step.get? b = some w ∧ equals rule v w = true := by
  rcases Step.get?_cases hv with ⟨i, as, rfl, rfl, hitem⟩ | ⟨key, as, rfl, rfl, hfield⟩
  · obtain ⟨bs, rfl⟩ := eq_list_of_equals h
    exact (equalItems_iff.mp h).2 i v hitem
  · obtain ⟨bs, rfl⟩ := eq_object_of_equals h
    exact (partners_of_equals h).2 key v hfield

/-- At an address at which a document has a node, an equal document has an equal one. -/
theorem equals_address {a b v : Value} {address : Address} (h : equals rule a b = true)
    (hv : address.get? a = some v) : ∃ w, address.get? b = some w ∧ equals rule v w = true := by
  induction address generalizing a b with
  | nil =>
      cases hv
      exact ⟨b, rfl, h⟩
  | cons step rest ih =>
      obtain ⟨next, hnext, hrest⟩ := Option.bind_eq_some_iff.mp hv
      obtain ⟨other, hother, heq⟩ := equals_step h hnext
      obtain ⟨w, hw, hvw⟩ := ih heq hrest
      exact ⟨w, Option.bind_eq_some_iff.mpr ⟨other, hother, hw⟩, hvw⟩

theorem Clash.step {a b c a' b' c' : Value} (step : Step) (h : Clash a' b' c')
    (ha : step.get? a = some a') (hb : step.get? b = some b') (hc : step.get? c = some c') :
    Clash a b c := by
  have below (parent : Value) (address : Address) :
      Address.get? (step :: address) parent = (step.get? parent).bind address.get? := rfl
  obtain ⟨address, m, n, x, hm, hx, hn, hne⟩ := h
  refine ⟨step :: address, m, n, x, ?_, ?_, ?_, hne⟩
  · rw [below, ha, Option.bind_some, hm]
  · rw [below, hb, Option.bind_some, hx]
  · rw [below, hc, Option.bind_some, hn]

theorem looseEq_int_float (n : Int64) (x : Binary64) :
    (int n).looseEq (float x) = (Binary64.ofInt n.toInt).eq x := rfl

theorem equals_int_float_iff {n : Int64} {x : Binary64} :
    equals rule (int n) (float x) = true ↔
      rule = .loose ∧ (Binary64.ofInt n.toInt).eq x = true := by
  simp [equals]

theorem equals_float_int_iff {x : Binary64} {n : Int64} :
    equals rule (float x) (int n) = true ↔
      rule = .loose ∧ (Binary64.ofInt n.toInt).eq x = true := by
  simp [equals]

theorem equals_trans_int {m : Int64} {b c : Value}
    (noClash : rule = .loose → ¬ Clash (int m) b c) (hab : equals rule (int m) b = true)
    (hbc : equals rule b c = true) : equals rule (int m) c = true := by
  cases b with
  | int n =>
      rw [of_decide_eq_true hab]
      exact hbc
  | float x =>
      obtain ⟨loose, hx⟩ := equals_int_float_iff.mp hab
      cases c with
      | int n =>
          apply decide_eq_true
          by_contra hne
          exact noClash loose ⟨[], m, n, x, rfl, rfl, rfl, hne⟩
      | float y => exact equals_int_float_iff.mpr ⟨loose, Binary64.eq_trans hx hbc⟩
      | _ => cases hbc
  | _ => cases hab

theorem equals_trans_float {x : Binary64} {b c : Value} (hab : equals rule (float x) b = true)
    (hbc : equals rule b c = true) : equals rule (float x) c = true := by
  cases b with
  | int n =>
      cases c with
      | int m =>
          rw [← of_decide_eq_true hbc]
          exact hab
      | float y =>
          have hx := (equals_float_int_iff.mp hab).2
          rw [Binary64.eq_comm] at hx
          exact Binary64.eq_trans hx (equals_int_float_iff.mp hbc).2
      | _ => cases hbc
  | float y =>
      cases c with
      | int m =>
          obtain ⟨loose, hy⟩ := equals_float_int_iff.mp hbc
          rw [equals, Binary64.eq_comm] at hab
          exact equals_float_int_iff.mpr ⟨loose, Binary64.eq_trans hy hab⟩
      | float z => exact Binary64.eq_trans hab hbc
      | _ => cases hbc
  | _ => cases hab

/-- Equality carries over from one document to another, but for integers that equal one float when
numbers are compared by their value. -/
theorem equals_trans {a b c : Value} (apart : rule = .loose → a.WellFormed ∧ ¬ Clash a b c)
    (hab : equals rule a b = true) (hbc : equals rule b c = true) : equals rule a c = true := by
  -- A clash below a step is a clash of the whole documents, so the children cannot clash either.
  induction a using nodeInduction generalizing b c with
  | null =>
      cases b with
      | null => exact hbc
      | _ => cases hab
  | bool p =>
      cases b with
      | bool q =>
          rw [eq_of_beq hab]
          exact hbc
      | _ => cases hab
  | int m => exact equals_trans_int (fun loose => (apart loose).2) hab hbc
  | float x => exact equals_trans_float hab hbc
  | string p =>
      cases b with
      | string q =>
          rw [of_decide_eq_true hab]
          exact hbc
      | _ => cases hab
  | list as ih =>
      obtain ⟨bs, rfl⟩ := eq_list_of_equals hab
      obtain ⟨cs, rfl⟩ := eq_list_of_equals hbc
      obtain ⟨firstLength, first⟩ := equalItems_iff.mp hab
      obtain ⟨secondLength, second⟩ := equalItems_iff.mp hbc
      refine equalItems_iff.mpr ⟨firstLength.trans secondLength, ?_⟩
      intro i va ha
      obtain ⟨vb, hb, hvab⟩ := first i va ha
      obtain ⟨vc, hc, hvbc⟩ := second i vb hb
      refine ⟨vc, hc, ih va (List.mem_of_getElem? ha) (fun loose => ?_) hvab hvbc⟩
      obtain ⟨wellFormed, noClash⟩ := apart loose
      exact ⟨wellFormedItems_iff.mp wellFormed va (List.mem_of_getElem? ha),
        fun clash => noClash (clash.step (.index i) ha hb hc)⟩
  | object as ih =>
      obtain ⟨bs, rfl⟩ := eq_object_of_equals hab
      obtain ⟨cs, rfl⟩ := eq_object_of_equals hbc
      rw [equals, Bool.and_eq_true, decide_eq_true_iff, includedFields_iff] at hab hbc ⊢
      refine ⟨hab.1.trans hbc.1, ?_⟩
      intro field hfield
      obtain ⟨vb, hb, hvab⟩ := hab.2 field hfield
      obtain ⟨vc, hc, hvbc⟩ := hbc.2 (field.1, vb) (Fields.mem_of_get? hb)
      refine ⟨vc, hc, ih field hfield (fun loose => ?_) hvab hvbc⟩
      obtain ⟨wellFormed, noClash⟩ := apart loose
      have ha := Fields.get?_of_mem wellFormed.1 hfield
      exact ⟨wellFormed.2.get? ha, fun clash => noClash (clash.step (.field field.1) ha hb hc)⟩

theorem looseEq_trans_of_not_clash {a b c : Value} (wellFormed : a.WellFormed)
    (noClash : ¬ Clash a b c) (hab : a.looseEq b = true) (hbc : b.looseEq c = true) :
    a.looseEq c = true :=
  equals_trans (fun _ => ⟨wellFormed, noClash⟩) hab hbc

/-- Where integers are told from floats, equality carries over from any document to any other. -/
theorem strictEq_trans {a b c : Value} (hab : a.strictEq b = true) (hbc : b.strictEq c = true) :
    a.strictEq c = true :=
  equals_trans nofun hab hbc

/-- Objects that are equal have the same keys, when those of the first one are distinct. -/
theorem perm_keys_of_equals {as bs : Fields} (distinct : as.keys.Nodup)
    (h : equals rule (object as) (object bs) = true) : as.keys.Perm bs.keys := by
  obtain ⟨sameLength, partners⟩ := partners_of_equals h
  -- The keys of the first object are among those of the second, which has no more of them.
  have included : as.keys ⊆ bs.keys := by
    intro key hkey
    obtain ⟨a, ha⟩ := Option.isSome_iff_exists.mp (Fields.get?_isSome_iff.mpr hkey)
    obtain ⟨b, hb, -⟩ := partners key a ha
    exact Fields.get?_isSome_iff.mp (Option.isSome_of_eq_some hb)
  have asMany : bs.keys.length ≤ as.keys.length := by simp [Fields.keys, sameLength]
  exact (distinct.subperm included).perm_of_length_le asMany

/-- Equality does not depend on the side, for documents with distinct keys. -/
theorem equals_symm {a b : Value} (wellFormed : a.WellFormed) (h : equals rule a b = true) :
    equals rule b a = true := by
  induction a using nodeInduction generalizing b with
  | null =>
      cases b with
      | null => exact h
      | _ => cases h
  | bool p =>
      cases b with
      | bool q => exact beq_iff_eq.mpr (eq_of_beq h).symm
      | _ => cases h
  | int m =>
      cases b with
      | int n => exact decide_eq_true (of_decide_eq_true h).symm
      | float x => exact h
      | _ => cases h
  | float x =>
      cases b with
      | int n => exact h
      | float y => exact (Binary64.eq_comm y x).trans h
      | _ => cases h
  | string p =>
      cases b with
      | string q => exact decide_eq_true (of_decide_eq_true h).symm
      | _ => cases h
  | list as ih =>
      obtain ⟨bs, rfl⟩ := eq_list_of_equals h
      obtain ⟨sameLength, partners⟩ := equalItems_iff.mp h
      refine equalItems_iff.mpr ⟨sameLength.symm, ?_⟩
      intro i b hb
      have inside : i < as.length := sameLength ▸ (List.getElem?_eq_some_iff.mp hb).1
      have among := List.getElem_mem inside
      obtain ⟨b', hb', hab⟩ := partners i as[i] (List.getElem?_eq_getElem inside)
      obtain rfl := Option.some.inj (hb.symm.trans hb')
      exact ⟨as[i], List.getElem?_eq_getElem inside,
        ih as[i] among (wellFormedItems_iff.mp wellFormed as[i] among) hab⟩
  | object as ih =>
      obtain ⟨bs, rfl⟩ := eq_object_of_equals h
      obtain ⟨sameLength, partners⟩ := partners_of_equals h
      have sameKeys := perm_keys_of_equals wellFormed.1 h
      apply equals_of_partners (sameKeys.nodup_iff.mp wellFormed.1) sameLength.symm
      intro key b hb
      -- The partner of what the first object has under the key is what the second has there.
      have hkey : key ∈ as.keys :=
        sameKeys.mem_iff.mpr (Fields.get?_isSome_iff.mp (Option.isSome_of_eq_some hb))
      obtain ⟨a, ha⟩ := Option.isSome_iff_exists.mp (Fields.get?_isSome_iff.mpr hkey)
      obtain ⟨b', hb', hab⟩ := partners key a ha
      obtain rfl := Option.some.inj (hb.symm.trans hb')
      exact ⟨a, ha, ih (key, a) (Fields.mem_of_get? ha) (wellFormed.2.get? ha) hab⟩

theorem equals_comm {a b : Value} (first : a.WellFormed) (second : b.WellFormed) :
    equals rule a b = equals rule b a :=
  Bool.eq_iff_iff.mpr ⟨equals_symm first, equals_symm second⟩

/-- A document does not equal another one with a different integer at some address. -/
theorem not_clash_of_looseEq {a b c : Value} (h : a.looseEq c = true) : ¬ Clash a b c := by
  rintro ⟨address, m, n, x, hm, -, hn, hne⟩
  obtain ⟨w, hw, hmw⟩ := equals_address h hm
  obtain rfl := Option.some.inj (hn.symm.trans hw)
  exact hne (of_decide_eq_true hmw)

/-- Of two integers that equal one float without being the same, one is held by no double. -/
theorem not_integersHeld_of_clash {a b c : Value} (clash : Clash a b c)
    (hab : a.looseEq b = true) (hbc : b.looseEq c = true) :
    ¬ (a.IntegersHeld ∧ c.IntegersHeld) := by
  rintro ⟨heldFirst, heldLast⟩
  obtain ⟨address, m, n, x, hm, hx, hn, hne⟩ := clash
  obtain ⟨w, hw, hmx⟩ := equals_address hab hm
  obtain rfl := Option.some.inj (hx.symm.trans hw)
  obtain ⟨w, hw, hxn⟩ := equals_address hbc hx
  obtain rfl := Option.some.inj (hn.symm.trans hw)
  have denotesFirst := (Binary64.eq_ofInt_iff_denotes (heldFirst address m hm) x).mp hmx
  have denotesLast := (Binary64.eq_ofInt_iff_denotes (heldLast address n hn) x).mp hxn
  exact hne (Int64.toInt_inj.mp (denotesFirst.unique denotesLast))

/-- An integer for which some double stands equals exactly the floats that stand for it, and every
integer of up to 53 binary digits is one. Two documents of which each equals a third one, whichever
side it stands on, equal each other unless they clash over it. Of two that clash, one has an
integer for which no double stands. -/
theorem looseEq_trans_iff (n : Int64) (x : Binary64) (a b c : Value) :
    (Binary64.Holds n.toInt → ((int n).looseEq (float x) = true ↔ x.Denotes n.toInt)) ∧
    (n.toInt.natAbs ≤ twoPow 53 → Binary64.Holds n.toInt) ∧
    (a.WellFormed → b.WellFormed → a.looseEq b = true ∨ b.looseEq a = true →
      b.looseEq c = true →
        (a.looseEq c = true ↔ ¬ Clash a b c) ∧
        (Clash a b c → ¬ (a.IntegersHeld ∧ c.IntegersHeld))) := by
  refine ⟨?_, Binary64.holds_of_natAbs_le, ?_⟩
  · intro held
    rw [looseEq_int_float]
    exact Binary64.eq_ofInt_iff_denotes held x
  · intro first second matched hbc
    have hab : a.looseEq b = true := by
      rcases matched with hab | hba
      · exact hab
      · exact equals_symm second hba
    refine ⟨⟨not_clash_of_looseEq, ?_⟩, ?_⟩
    · intro noClash
      exact looseEq_trans_of_not_clash first noClash hab hbc
    · intro clash
      exact not_integersHeld_of_clash clash hab hbc

theorem looseEq_trans_iff_records :
    let x := Binary64.ofNat (twoPow 53)
    let left := object [("key", float x)]
    let first := object [("key", int 9007199254740992)]
    let second := object [("key", int 9007199254740993)]
    first.WellFormed ∧ left.WellFormed ∧ left.looseEq first = true ∧ left.looseEq second = true ∧
      first.looseEq second = false ∧ ¬ (first.IntegersHeld ∧ second.IntegersHeld) ∧
      (int 9007199254740992).looseEq (float x) = true := by
  intro x left first second
  have firstWellFormed : first.WellFormed := ⟨by decide, trivial, trivial⟩
  have leftWellFormed : left.WellFormed := ⟨by decide, trivial, trivial⟩
  have hfirst : left.looseEq first = true := by decide +kernel
  have hsecond : left.looseEq second = true := by decide +kernel
  have clash : Clash first left second :=
    ⟨[.field "key"], 9007199254740992, 9007199254740993, x, rfl, rfl, rfl, by decide⟩
  obtain ⟨exact, held, carries⟩ := looseEq_trans_iff 9007199254740992 x first left second
  obtain ⟨same, unheld⟩ := carries firstWellFormed leftWellFormed (.inr hfirst) hsecond
  refine ⟨firstWellFormed, leftWellFormed, hfirst, hsecond, ?_, unheld clash,
    (exact (held (by decide))).mpr (by decide +kernel)⟩
  rw [Bool.eq_false_iff]
  intro equal
  exact same.mp equal clash

/-- The integer one above `2 ^ 53` equals the float `2 ^ 53`, and so does the integer `2 ^ 53`, but
the two integers are not equal. The float stands for the latter only. -/
theorem looseEq_trans_ne :
    let a := int 9007199254740993
    let b := float (Binary64.ofNat (twoPow 53))
    let c := int 9007199254740992
    a.nanFree = true ∧ b.nanFree = true ∧ c.nanFree = true ∧ a.looseEq b = true ∧
      b.looseEq c = true ∧ a.looseEq c = false ∧
      ¬ (Binary64.ofNat (twoPow 53)).Denotes 9007199254740993 := by
  decide +kernel

end Value

end TreeTable
