import TreeTable.Proofs.Join.Connection

/-! # Rules that are applied again or in another order

What a rule between two fields of a document does depends on the left keys of its left objects and
on the values at its right field. A rule that puts its matches where it does not read them finds the
same matches again, so applying it a second time changes nothing. Two rules of which neither reads
what the other one writes may be applied in either order: the results differ in the order of fields
at most.
-/

namespace TreeTable

open Numeric Outcome Value

namespace JoinRule

variable {e : Evaluator} {rule : JoinRule} {left right target : String}

namespace Connects

variable (connects : rule.Connects left right target) {rights : List Value} {fields : Fields}

include connects

theorem joined_eq (e : Evaluator) (rights : List Value) (fields : Fields) :
    rule.joined e rights fields =
      if rule.matched e .null rights (.object fields) = [] then fields
      else fields.insert target (sequester (rule.matched e .null rights (.object fields))) := by
  rw [joined, joinedFields, connects.target_eq]
  rfl

/-- Only the target may be changed. -/
theorem get?_joined (key : String) : (rule.joined e rights fields).get? key =
    if key = target ∧ rule.matched e .null rights (.object fields) ≠ [] then
      some (sequester (rule.matched e .null rights (.object fields)))
    else fields.get? key := by
  rw [connects.joined_eq]
  split
  next none => simp [none]
  next some => simp [Fields.get?_insert, some]

theorem nodup_keys_joined (distinct : fields.keys.Nodup) :
    (rule.joined e rights fields).keys.Nodup := by
  rw [connects.joined_eq]
  split
  · exact distinct
  · exact Fields.nodup_keys_insert distinct _ _

/-- A rule that does not read a target finds the same matches after a rule that writes it. -/
theorem matched_joined {other : JoinRule} {left' right' target' : String}
    (others : other.Connects left' right' target') (unread : ¬ other.ReadsLeft target)
    (rights' : List Value) :
    other.matched e .null rights' (.object (rule.joined e rights fields)) =
      other.matched e .null rights' (.object fields) := by
  apply others.matched_congr
  intro key read
  have apart : key ≠ target := by
    rintro rfl
    exact unread read
  rw [connects.get?_joined]
  exact if_neg fun changed => apart changed.1

/-- Joining a second time changes nothing. -/
theorem joined_joined (unread : ¬ rule.ReadsLeft target) :
    rule.joined e rights (rule.joined e rights fields) = rule.joined e rights fields := by
  rw [connects.joined_eq e rights (rule.joined e rights fields),
    connects.matched_joined connects unread, connects.joined_eq]
  split
  · rfl
  · exact Fields.insert_insert _ _ _ fields

/-- Two rules join objects with the same values in either order, if neither reads what the other one
writes. Only the order of fields depends on which is first. -/
theorem reordered_joined {other : JoinRule} {left' right' target' : String}
    (others : other.Connects left' right' target') (targets : target ≠ target')
    (unread : ¬ rule.ReadsLeft target') (unreadOther : ¬ other.ReadsLeft target)
    (rights' : List Value) (distinct : fields.keys.Nodup) :
    Reordered (object (other.joined e rights' (rule.joined e rights fields)))
      (object (rule.joined e rights (other.joined e rights' fields))) := by
  apply reordered_of_get?
  · exact others.nodup_keys_joined (connects.nodup_keys_joined distinct)
  · exact connects.nodup_keys_joined (others.nodup_keys_joined distinct)
  · intro key
    rw [others.get?_joined, connects.get?_joined key, connects.get?_joined key, others.get?_joined,
      connects.matched_joined others unreadOther, others.matched_joined connects unread]
    by_cases h : key = target
    · simp [h, targets]
    · simp [h]

/-- What a rule makes of a document keeps the properties of the document. -/
theorem holds_connect (e : Evaluator) {holds : Value → Prop} {allowed : List String → Prop}
    (hereditary : Hereditary holds allowed) (h : holds (.object fields)) :
    holds (.object (rule.connect e left right fields)) := by
  apply hereditary.alter h
  intro value hvalue
  apply hereditary.eachObject hvalue
  intro inner hinner
  rw [connects.joined_eq]
  split
  · exact hinner
  · apply hereditary.insert_object hinner
    apply hereditary.sequester
    intro item hitem
    exact hereditary.valuesAt h right item (List.mem_of_mem_filter hitem)

/-- Connecting a second time changes nothing. -/
theorem connect_connect (apart : right ≠ left) (unread : ¬ rule.ReadsLeft target) :
    rule.connect e left right (rule.connect e left right fields) =
      rule.connect e left right fields := by
  rw [connect, connect, Fields.valuesAt_alter apart, Fields.alter_alter_self]
  simp only [eachObject_eachObject, connects.joined_joined unread]

/-- Two rules connect fields in either order, if neither reads what the other one writes. -/
theorem reordered_connect {other : JoinRule} {left' right' target' : String}
    (others : other.Connects left' right' target') (targets : target ≠ target')
    (apart : right ≠ left') (apartOther : right' ≠ left) (unread : ¬ rule.ReadsLeft target')
    (unreadOther : ¬ other.ReadsLeft target) (wellFormed : (object fields).WellFormed) :
    Reordered (object (other.connect e left' right' (rule.connect e left right fields)))
      (object (rule.connect e left right (other.connect e left' right' fields))) := by
  rw [connect, connect, connect, connect, Fields.valuesAt_alter apart,
    Fields.valuesAt_alter apartOther]
  apply reordered_alter_alter wellFormed
  intro value hvalue
  rw [eachObject_eachObject, eachObject_eachObject]
  apply reordered_eachObject hvalue
  intro inner distinct
  exact connects.reordered_joined others targets unread unreadOther _ distinct

end Connects

/-- Applying a rule a second time succeeds when the first time does, and changes nothing, if the
rule joins one field of a document with another one and puts the matches where it does not read
them. The first time does succeed if the right keys were read, and so have no inverse. -/
theorem applyAll_again {rule : JoinRule} {left right target : String}
    (connects : rule.Connects left right target) (apart : right ≠ left)
    (unread : ¬ rule.ReadsLeft target) (e : Evaluator) {fields : Fields}
    (wellFormed : (Value.object fields).WellFormed) :
    (∀ after, applyAll e [rule] (.object fields) = (after, none) →
      applyAll e [rule] after = (after, none)) ∧
    ((∀ matcher ∈ rule.matchers, matcher.2.path.noInverse = true) →
      ∃ after, applyAll e [rule] (.object fields) = (after, none)) := by
  have changed := connects.holds_connect e hereditary_wellFormed wellFormed
  simp only [applyAll_cons_eq_none_iff, applyAll_nil_eq_none_iff,
    connects.perform_eq_none_iff wellFormed]
  constructor
  · rintro _ ⟨_, ⟨succeeds, rfl⟩, rfl⟩
    refine ⟨_, (connects.perform_eq_none_iff changed).mpr ⟨?_, ?_⟩, rfl⟩
    · exact (connects.failure_alter apart _ fields).mpr succeeds
    · rw [connects.connect_connect apart unread]
  · intro noInverse
    exact ⟨_, _, ⟨connects.failure_of_noInverse noInverse e fields, rfl⟩, rfl⟩

theorem applyAll_again_guests :
    let ada : Value := .object [("code", .int 7), ("name", .string "Ada")]
    let bob : Value := .object [("pass", .float (Binary64.ofInt 7))]
    let other : Value := .object [("guest", .int 8)]
    let guests : Fields := [("guests", .list [ada, .int 7, bob])]
    let document : Fields := ("visits", .list [
      .object [("host", .null), ("guest", .int 7)], .int 7, other]) :: guests
    let after : Fields := ("visits", .list [
      .object [("host", .list [ada, bob]), ("guest", .int 7)], .int 7, other]) :: guests
    let rule : JoinRule := ⟨⟨"visits", .field "visits" none⟩,
      ⟨"guests", .field "guests" none⟩,
      [(⟨"guest", .field "guest" none⟩,
        ⟨"code|pass", .any [.field "code" none, .field "pass" none]⟩)],
      some "host"⟩
    rule.Connects "visits" "guests" "host" ∧ ¬ rule.ReadsLeft "host" ∧
      (Value.object document).WellFormed ∧
      applyAll {} [rule] (.object document) = (.object after, none) ∧
      applyAll {} [rule] (.object after) = (.object after, none) := by
  intro ada bob other guests document after rule
  have leftKeys : ∀ matcher ∈ rule.matchers, ∃ key, matcher.1.path = .field key none ∧
      key ≠ Path.wildcard := by
    intro matcher hmatcher
    rw [List.mem_singleton.mp hmatcher]
    exact ⟨"guest", rfl, by decide⟩
  have connects : rule.Connects "visits" "guests" "host" :=
    ⟨rfl, rfl, rfl, by decide, by decide, leftKeys, by decide +kernel⟩
  have unread : ¬ rule.ReadsLeft "host" := by decide +kernel
  have wellFormed : (Value.object document).WellFormed := by
    simp [document, guests, other, bob, ada, WellFormed, WellFormedItems, WellFormedFields,
      Fields.keys]
  have once : applyAll {} [rule] (.object document) = (.object after, none) := by decide +kernel
  obtain ⟨again, -⟩ := applyAll_again connects (by decide) unread {} wellFormed
  exact ⟨connects, unread, wellFormed, once, again _ once⟩

/-- Two rules succeed when each of them succeeds on its own, if the first of them does not change
the right values of the second. -/
theorem Connects.applyAll_pair_iff {first second : JoinRule}
    {left₁ left₂ right₁ right₂ target₁ target₂ : String}
    (connectsFirst : first.Connects left₁ right₁ target₁)
    (connectsSecond : second.Connects left₂ right₂ target₂) (apart : right₂ ≠ left₁)
    {e : Evaluator} {fields : Fields} (wellFormed : (Value.object fields).WellFormed)
    {after : Value} : applyAll e [first, second] (.object fields) = (after, none) ↔
      (first.failure e (.object fields) = none ∧ second.failure e (.object fields) = none) ∧
        after = .object (second.connect e left₂ right₂ (first.connect e left₁ right₁ fields)) := by
  have next := connectsFirst.holds_connect e hereditary_wellFormed wellFormed
  have unchanged := connectsSecond.failure_alter (e := e) apart
    (first.joined e (fields.valuesAt right₁)) fields
  simp only [applyAll_cons_eq_none_iff, applyAll_nil_eq_none_iff,
    connectsFirst.perform_eq_none_iff wellFormed]
  constructor
  · rintro ⟨_, ⟨succeeds, rfl⟩, _, h, rfl⟩
    obtain ⟨succeedsSecond, rfl⟩ := (connectsSecond.perform_eq_none_iff next).mp h
    exact ⟨⟨succeeds, unchanged.mp succeedsSecond⟩, rfl⟩
  · rintro ⟨⟨succeeds, succeedsSecond⟩, rfl⟩
    refine ⟨_, ⟨succeeds, rfl⟩, _, ?_, rfl⟩
    exact (connectsSecond.perform_eq_none_iff next).mpr ⟨unchanged.mpr succeedsSecond, rfl⟩

/-- Rules between fields may be applied in either order, if they have different targets and neither
of them reads what the other one writes. They succeed in both orders or in none, and do succeed if
the right keys were read. The results differ in the order of fields at most, and are equal if all
floats in the document are numbers, as they are in documents that are read. -/
theorem applyAll_comm {first second : JoinRule}
    {left₁ left₂ right₁ right₂ target₁ target₂ : String}
    (connectsFirst : first.Connects left₁ right₁ target₁)
    (connectsSecond : second.Connects left₂ right₂ target₂) (targets : target₁ ≠ target₂)
    (apartFirst : right₁ ≠ left₂) (apartSecond : right₂ ≠ left₁)
    (unreadFirst : ¬ first.ReadsLeft target₂) (unreadSecond : ¬ second.ReadsLeft target₁)
    (e : Evaluator) {fields : Fields} (wellFormed : (Value.object fields).WellFormed) :
    ((∃ one, applyAll e [first, second] (.object fields) = (one, none)) ↔
      ∃ other, applyAll e [second, first] (.object fields) = (other, none)) ∧
    (∀ one other, applyAll e [first, second] (.object fields) = (one, none) →
      applyAll e [second, first] (.object fields) = (other, none) → one.Reordered other ∧
        ((Value.object fields).nanFree = true → one.strictEq other = true)) ∧
    ((∀ matcher ∈ first.matchers ++ second.matchers, matcher.2.path.noInverse = true) →
      ∃ one, applyAll e [first, second] (.object fields) = (one, none)) := by
  simp only [connectsFirst.applyAll_pair_iff connectsSecond apartSecond wellFormed,
    connectsSecond.applyAll_pair_iff connectsFirst apartFirst wellFormed]
  refine ⟨?_, ?_, ?_⟩
  · constructor
    · rintro ⟨_, ⟨succeeds, succeedsSecond⟩, -⟩
      exact ⟨_, ⟨succeedsSecond, succeeds⟩, rfl⟩
    · rintro ⟨_, ⟨succeedsSecond, succeeds⟩, -⟩
      exact ⟨_, ⟨succeeds, succeedsSecond⟩, rfl⟩
  · rintro _ _ ⟨-, rfl⟩ ⟨-, rfl⟩
    have alike := connectsFirst.reordered_connect (e := e) connectsSecond targets apartFirst
      apartSecond unreadFirst unreadSecond wellFormed
    refine ⟨alike, fun numbers => alike.equals ?_ ?_⟩
    · apply connectsSecond.holds_connect e hereditary_wellFormed
      exact connectsFirst.holds_connect e hereditary_wellFormed wellFormed
    · apply connectsSecond.holds_connect e hereditary_nanFree
      exact connectsFirst.holds_connect e hereditary_nanFree numbers
  · intro noInverse
    rw [List.forall_mem_append] at noInverse
    exact ⟨_, ⟨connectsFirst.failure_of_noInverse noInverse.1 e fields,
      connectsSecond.failure_of_noInverse noInverse.2 e fields⟩, rfl⟩

theorem applyAll_comm_visits :
    let ada : Value := .object [("code", .int 7)]
    let bob : Value := .object [("pass", .float (Binary64.ofInt 7))]
    let room : Value := .object [("number", .string "p")]
    let visit : Fields := [("guest", .int 7), ("room", .string "p")]
    let document (visits : Value) : Value := .object [("visits", visits),
      ("guests", .list [ada, bob]), ("rooms", room)]
    let host : String × Value := ("host", .list [ada, bob])
    let first : JoinRule := ⟨⟨"visits", .field "visits" none⟩,
      ⟨"guests", .field "guests" none⟩,
      [(⟨"guest", .field "guest" none⟩,
        ⟨"code|pass", .any [.field "code" none, .field "pass" none]⟩)],
      some "host"⟩
    let second : JoinRule := ⟨⟨"visits", .field "visits" none⟩,
      ⟨"rooms", .field "rooms" none⟩,
      [(⟨"room", .field "room" none⟩,
        ⟨"number", .field "number" none⟩)],
      some "place"⟩
    let one := document (.list [.object (visit ++ [host, ("place", room)]), .int 7])
    let other := document (.list [.object (visit ++ [("place", room), host]), .int 7])
    let start := document (.list [.object visit, .int 7])
    first.Connects "visits" "guests" "host" ∧ second.Connects "visits" "rooms" "place" ∧
      ¬ first.ReadsLeft "place" ∧ ¬ second.ReadsLeft "host" ∧ start.WellFormed ∧
      start.nanFree = true ∧ applyAll {} [first, second] start = (one, none) ∧
      applyAll {} [second, first] start = (other, none) ∧ one.Reordered other ∧ one ≠ other ∧
      one.strictEq other = true := by
  intro ada bob room visit document host first second one other start
  have leftFirst : ∀ matcher ∈ first.matchers, ∃ key, matcher.1.path = .field key none ∧
      key ≠ Path.wildcard := by
    intro matcher hmatcher
    rw [List.mem_singleton.mp hmatcher]
    exact ⟨"guest", rfl, by decide⟩
  have leftSecond : ∀ matcher ∈ second.matchers, ∃ key, matcher.1.path = .field key none ∧
      key ≠ Path.wildcard := by
    intro matcher hmatcher
    rw [List.mem_singleton.mp hmatcher]
    exact ⟨"room", rfl, by decide⟩
  have connectsFirst : first.Connects "visits" "guests" "host" :=
    ⟨rfl, rfl, rfl, by decide, by decide, leftFirst, by decide +kernel⟩
  have connectsSecond : second.Connects "visits" "rooms" "place" :=
    ⟨rfl, rfl, rfl, by decide, by decide, leftSecond, by decide +kernel⟩
  have unreadFirst : ¬ first.ReadsLeft "place" := by decide +kernel
  have unreadSecond : ¬ second.ReadsLeft "host" := by decide +kernel
  have wellFormed : start.WellFormed := by
    simp [start, document, visit, room, bob, ada, WellFormed, WellFormedItems, WellFormedFields,
      Fields.keys]
  have numbers : start.nanFree = true := by decide +kernel
  have forth : applyAll {} [first, second] start = (one, none) := by decide +kernel
  have back : applyAll {} [second, first] start = (other, none) := by decide +kernel
  obtain ⟨-, same, -⟩ := applyAll_comm connectsFirst connectsSecond (by decide) (by decide)
    (by decide) unreadFirst unreadSecond {} wellFormed
  obtain ⟨alike, equal⟩ := same one other forth back
  exact ⟨connectsFirst, connectsSecond, unreadFirst, unreadSecond, wellFormed, numbers, forth, back,
    alike, by decide +kernel, equal numbers⟩

end JoinRule

end TreeTable
