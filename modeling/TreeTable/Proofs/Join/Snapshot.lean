import TreeTable.Proofs.Address.Rewriting
import TreeTable.Proofs.Join.Pairing
import TreeTable.Proofs.Join.Updates
import TreeTable.Proofs.Value.Fields

/-! # A merge rule as a join on a snapshot

What a rule means is said on the document as it was: every left object that has matches gets
their fields, all at once. The rule is applied by narrowing down the pairs of records that match,
gathering the matches of each left object from them, and writing into one left object after another.
At every moment of that the document is the original one, rewritten by the changes that have
been made so far, because no left object lies in another.
-/

namespace TreeTable

open Numeric Outcome

namespace Address

theorem nodup_eraseDups : (addresses : List Address) → addresses.eraseDups.Nodup
  | [] => by simp
  | first :: rest => by
      rw [List.eraseDups_cons, List.nodup_cons]
      refine ⟨?_, nodup_eraseDups _⟩
      simp [List.mem_eraseDups]
  termination_by addresses => addresses.length
  decreasing_by
    have shorter := List.length_filter_le (fun other => !other == first) rest
    simp only [List.length_cons]
    omega

theorem get?_of_mem_objects {document : Value} {found : List Address} {address : Address}
    (h : address ∈ objects document found) :
    ∃ fields, address.get? document = some (.object fields) := by
  rw [objects, List.mem_eraseDups, List.mem_filter, isObject] at h
  obtain ⟨-, h⟩ := h
  split at h
  next fields hfields => exact ⟨fields, hfields⟩
  next => cases h

/-- Left objects none of which lies strictly in another are apart from each other. -/
theorem pairwise_apart_objects {document : Value} {found : List Address}
    (antichain : ∀ outer ∈ objects document found, ∀ inner ∈ objects document found,
      outer <+: inner → outer = inner) :
    (objects document found).Pairwise Apart := by
  have distinct : (objects document found).Nodup := nodup_eraseDups _
  apply List.Pairwise.imp_of_mem _ distinct
  intro first second hfirst hsecond ne
  refine ⟨fun h => ne ?_, fun h => ne ?_⟩
  · exact antichain first hfirst second hsecond h
  · exact (antichain second hsecond first hfirst h).symm

end Address

namespace JoinRule

/-- Whether both keys of a matcher are there and equal by value. -/
def keysMatch (e : Evaluator) (document left right : Value)
    (matcher : WrittenPath × WrittenPath) : Bool :=
  match e.eval matcher.1.path left document, e.eval matcher.2.path right document with
  | .ok leftKey, .ok rightKey => !leftKey.isNull && !rightKey.isNull && leftKey.looseEq rightKey
  | _, _ => false

/-- Whether a rule joins two records: it has a matcher, and their keys match under every one. -/
def joins (e : Evaluator) (rule : JoinRule) (document left right : Value) : Bool :=
  !rule.matchers.isEmpty && rule.matchers.all (keysMatch e document left right)

/-- The right values that a rule joins with a left one. -/
def matched (e : Evaluator) (rule : JoinRule) (document : Value) (rights : List Value)
    (left : Value) : List Value :=
  rights.filter (rule.joins e document left)

/-- The right values that match the node at an address. -/
def matchedAt (e : Evaluator) (rule : JoinRule) (document : Value) (rights : List Value)
    (address : Address) : List Value :=
  match address.get? document with
  | some left => rule.matched e document rights left
  | none => []

/-- The fields that matches put into a left object: the target, or the fields of all matches
that are objects. -/
def joinedFields (rule : JoinRule) (matched : List Value) : Fields :=
  match rule.target with
  | some field => [(field, Value.sequester matched)]
  | none => matched.flatMap fun
      | .object fields => fields
      | _ => []

/-- Puts the fields of matches into an object. -/
def joinInto (rule : JoinRule) (matched : List Value) : Value → Value
  | .object fields => .object (Fields.merge fields (rule.joinedFields matched))
  | other => other

/-- What becomes of each left object that has matches. -/
def joinChanges (e : Evaluator) (rule : JoinRule) (document : Value) (lefts : List Address)
    (rights : List Value) : Changes := fun address =>
  let matched := rule.matchedAt e document rights address
  if address ∈ lefts ∧ matched ≠ [] then some (rule.joinInto matched) else none

section Matching

variable {e : Evaluator} {document : Value} {lefts rights : List Value} {pair : RecordPair}

theorem keysMatch_iff {left right : Value} {matcher : WrittenPath × WrittenPath} :
    keysMatch e document left right matcher = true ↔
      ∃ leftKey rightKey, e.eval matcher.1.path left document = .ok leftKey ∧
        e.eval matcher.2.path right document = .ok rightKey ∧
          KeyTable.agree leftKey rightKey = true := by
  rw [keysMatch]
  split
  next leftKey rightKey hleft hright => simp [hleft, hright, KeyTable.agree]
  next no =>
    refine iff_of_false Bool.false_ne_true ?_
    rintro ⟨leftKey, rightKey, hleft, hright, -⟩
    exact no leftKey rightKey hleft hright

/-- The records of a pair, if there are such, match under a matcher. -/
def PairMatches (e : Evaluator) (document : Value) (lefts rights : List Value) (pair : RecordPair)
    (matcher : WrittenPath × WrittenPath) : Prop :=
  ∃ left right, lefts[pair.left]? = some left ∧ rights[pair.right]? = some right ∧
    keysMatch e document left right matcher = true

theorem mem_pairs_keyTable {matcher : WrittenPath × WrittenPath} {table : KeyTable}
    (h : keyTable e document lefts rights matcher = .ok table) :
    pair ∈ table.pairs.pairs ↔ PairMatches e document lefts rights pair matcher := by
  rw [keyTable, bind_eq_ok_iff] at h
  obtain ⟨rightKeys, hrightKeys, h⟩ := h
  obtain ⟨leftKeys, hleftKeys, h⟩ := bind_eq_ok_iff.mp h
  cases h
  rw [KeyTable.pairs, PairSet.mem_ofKeys, PairMatches]
  simp only [getElem?_eq_some_iff_of_mapM hleftKeys, getElem?_eq_some_iff_of_mapM hrightKeys,
    keysMatch_iff]
  constructor
  · rintro ⟨leftKey, rightKey, ⟨left, hleft, hleftKey⟩, ⟨right, hright, hrightKey⟩, agree⟩
    exact ⟨left, right, hleft, hright, leftKey, rightKey, hleftKey, hrightKey, agree⟩
  · rintro ⟨left, right, hleft, hright, leftKey, rightKey, hleftKey, hrightKey, agree⟩
    exact ⟨leftKey, rightKey, ⟨left, hleft, hleftKey⟩, ⟨right, hright, hrightKey⟩, agree⟩

/-- Every further matcher leaves the pairs that match under it as well. -/
theorem mem_narrowPairs {matchers : List (WrittenPath × WrittenPath)} {previous : PairSet}
    {found : Option PairSet}
    (h : narrowPairs e document lefts rights matchers (some previous) = .ok found) :
    ∃ set, found = some set ∧ ∀ pair, pair ∈ set.pairs ↔ pair ∈ previous.pairs ∧
      ∀ matcher ∈ matchers, PairMatches e document lefts rights pair matcher := by
  induction matchers generalizing previous with
  | nil =>
      cases h
      exact ⟨previous, rfl, by simp⟩
  | cons matcher rest ih =>
      rw [narrowPairs, bind_eq_ok_iff] at h
      obtain ⟨table, htable, h⟩ := h
      obtain ⟨set, rfl, mem_iff⟩ := ih h
      refine ⟨set, rfl, fun pair => ?_⟩
      rw [mem_iff, PairSet.mem_inter, mem_pairs_keyTable htable, and_assoc, List.forall_mem_cons]

/-- The pairs of a rule are those of records that it joins. -/
theorem mem_pairsOf {rule : JoinRule} {set : PairSet}
    (h : pairsOf e rule document lefts rights = .ok set) :
    pair ∈ set.pairs ↔ ∃ left right, lefts[pair.left]? = some left ∧
      rights[pair.right]? = some right ∧ rule.joins e document left right = true := by
  rw [pairsOf, bind_eq_ok_iff] at h
  obtain ⟨found, hfound, h⟩ := h
  cases h
  simp only [joins]
  cases hmatchers : rule.matchers with
  | nil =>
      rw [hmatchers] at hfound
      cases hfound
      simp [PairSet.empty]
  | cons first rest =>
      rw [hmatchers, narrowPairs, bind_eq_ok_iff] at hfound
      obtain ⟨table, htable, hfound⟩ := hfound
      obtain ⟨set, rfl, mem_iff⟩ := mem_narrowPairs hfound
      rw [Option.getD_some, mem_iff, mem_pairs_keyTable htable, ← List.forall_mem_cons]
      simp only [PairMatches, List.isEmpty_cons, Bool.not_false, Bool.true_and, List.all_eq_true]
      constructor
      · intro all
        obtain ⟨left, right, hleft, hright, -⟩ := all first List.mem_cons_self
        refine ⟨left, right, hleft, hright, fun matcher hmatcher => ?_⟩
        obtain ⟨left', right', hleft', hright', hmatch⟩ := all matcher hmatcher
        obtain rfl := Option.some.inj (hleft.symm.trans hleft')
        obtain rfl := Option.some.inj (hright.symm.trans hright')
        exact hmatch
      · rintro ⟨left, right, hleft, hright, all⟩ matcher hmatcher
        exact ⟨left, right, hleft, hright, all matcher hmatcher⟩

/-- The pairs of left objects give each of them all of its matches. -/
theorem map_partners_pairsOf {rule : JoinRule} {addresses : List Address} {set : PairSet}
    (h : pairsOf e rule document (Address.nodes document addresses) rights = .ok set) {i : Nat}
    {address : Address} {left : Value} (hi : addresses[i]? = some address)
    (hleft : address.get? document = some left) :
    (set.partners rights.length i).map (PairSet.recordAt rights) =
      rule.matchedAt e document rights address := by
  have node : (Address.nodes document addresses)[i]? = some left := by
    rw [Address.nodes, List.getElem?_map, hi, Option.map_some, hleft, Option.getD_some]
  rw [matchedAt, hleft]
  apply PairSet.map_partners
  intro j right hright
  rw [mem_pairsOf h, node, hright]
  simp

theorem get?_of_mem_leftObjects {rule : JoinRule} {addresses : List Address}
    (h : rule.leftObjects e document = .ok addresses) {address : Address}
    (haddress : address ∈ addresses) :
    ∃ fields : Fields, address.get? document = some (.object fields) := by
  obtain ⟨found, -, h⟩ := bind_eq_ok_iff.mp h
  obtain rfl := Except.ok.inj h
  exact Address.get?_of_mem_objects haddress

/-- What a rule writes is what matches its left objects in the document, where anything does. -/
theorem updates_eq {rule : JoinRule} {addresses : List Address}
    {updates : List (Address × List Value)}
    (hlefts : rule.leftObjects e document = .ok addresses)
    (hrights : rule.rightValues e document = .ok rights)
    (h : rule.updates e document = .ok updates) :
    updates =
      (addresses.filter fun address => !(rule.matchedAt e document rights address).isEmpty).map
        fun address => (address, rule.matchedAt e document rights address) := by
  rw [JoinRule.updates, hlefts, hrights, ok_bind, ok_bind] at h
  split at h
  next nothing =>
    cases h
    rw [Bool.or_eq_true, List.isEmpty_iff, List.isEmpty_iff] at nothing
    rcases nothing with rfl | rfl
    · rfl
    · have none (address : Address) : rule.matchedAt e document [] address = [] := by
        rw [matchedAt]
        split <;> rfl
      simp [none]
  next =>
    obtain ⟨set, hset, h⟩ := bind_eq_ok_iff.mp h
    cases h
    have inside : ∀ pair ∈ set.pairs,
        pair.left < addresses.length ∧ pair.right < rights.length := by
      intro pair hpair
      obtain ⟨left, right, hleft, hright, -⟩ := (mem_pairsOf hset).mp hpair
      have bound := (List.getElem?_eq_some_iff.mp hleft).1
      rw [Address.nodes, List.length_map] at bound
      exact ⟨bound, (List.getElem?_eq_some_iff.mp hright).1⟩
    rw [PairSet.grouped_eq inside, List.map_map]
    apply PairSet.map_filter_range
    intro i address hi
    obtain ⟨fields, hfields⟩ := get?_of_mem_leftObjects hlefts (List.mem_of_getElem? hi)
    rw [← map_partners_pairsOf hset hi hfields, List.isEmpty_map, Function.comp_apply, hi]
    exact ⟨rfl, rfl⟩

end Matching

/-- Putting matches into a left object is what the rule writes. -/
theorem write_eq_joinInto (rule : JoinRule) (matched : List Value) :
    rule.write matched = rule.joinInto matched := by
  funext node
  cases node with
  | object fields =>
      rw [write, joinInto, joinedFields]
      cases rule.target with
      | some field => rfl
      | none =>
          dsimp only
          induction matched generalizing fields with
          | nil => rfl
          | cons first rest ih =>
              rw [List.foldl_cons, List.flatMap_cons, Fields.merge_append, ih]
              cases first <;> rfl
  | _ => rfl

/-- Changes, and in their place what matches make of left objects. -/
def changesWith (rule : JoinRule) (matchesAt : Address → List Value) (lefts : List Address)
    (changes : Changes) : Changes := fun address =>
  if address ∈ lefts then some (rule.write (matchesAt address)) else changes address

theorem changesWith_nil (rule : JoinRule) (matchesAt : Address → List Value)
    (changes : Changes) : rule.changesWith matchesAt [] changes = changes := by
  funext address
  simp [changesWith]

theorem changesWith_cons (rule : JoinRule) (matchesAt : Address → List Value) (left : Address)
    (rest : List Address) (changes : Changes) :
    rule.changesWith matchesAt (left :: rest) changes =
      rule.changesWith matchesAt rest (changes.add left (rule.write (matchesAt left))) := by
  funext address
  by_cases hleft : address = left <;> simp [changesWith, Changes.add, hleft]

/-- Writing into left objects that lie apart from each other and from what was changed. -/
theorem writeAll_rewrite (rule : JoinRule) (matchesAt : Address → List Value)
    {lefts : List Address} {changes : Changes} {document : Value}
    (wellFormed : document.WellFormed) (separate : lefts.Pairwise Address.Apart)
    (apart : ∀ other, (changes other).isSome → ∀ left ∈ lefts, Address.Apart other left) :
    rule.writeAll (lefts.map fun left => (left, matchesAt left)) (document.rewrite changes) =
      document.rewrite (rule.changesWith matchesAt lefts changes) := by
  induction lefts generalizing changes with
  | nil =>
      rw [changesWith_nil]
      rfl
  | cons left rest ih =>
      rw [List.pairwise_cons] at separate
      obtain ⟨hleft, hrest⟩ := separate
      have written : left.modify (rule.write (matchesAt left)) (document.rewrite changes) =
          document.rewrite (changes.add left (rule.write (matchesAt left))) :=
        Address.modify_rewrite wellFormed fun other hother =>
          apart other hother left List.mem_cons_self
      rw [List.map_cons, writeAll, List.foldl_cons, written, changesWith_cons]
      apply ih hrest
      -- What has been changed by now is what was changed before, or the object just written.
      intro other hother after hafter
      by_cases heq : other = left
      · rw [heq]
        exact hleft after hafter
      · have before : (changes other).isSome := by simpa [Changes.add, heq] using hother
        exact apart other before after (List.mem_cons_of_mem _ hafter)

theorem joinChanges_eq_changesWith (e : Evaluator) (rule : JoinRule) (document : Value)
    (lefts : List Address) (rights : List Value) :
    rule.joinChanges e document lefts rights =
      rule.changesWith (rule.matchedAt e document rights)
        (lefts.filter fun address => !(rule.matchedAt e document rights address).isEmpty)
        .empty := by
  funext address
  rw [joinChanges, changesWith, write_eq_joinInto, Changes.empty]
  simp

/-- A rule that succeeds, and of which no left object lies in another, rewrites the document. -/
theorem exists_rewrite_of_perform {e : Evaluator} {rule : JoinRule} {document after : Value}
    {lefts : List Address} (wellFormed : document.WellFormed)
    (hlefts : rule.leftObjects e document = .ok lefts) (separate : lefts.Pairwise Address.Apart)
    (h : (rule.applyInPlace e).perform document = (after, none)) :
    ∃ rights, rule.rightValues e document = .ok rights ∧
      after = document.rewrite (rule.joinChanges e document lefts rights) := by
  obtain ⟨updates, hupdates, rfl⟩ := perform_applyInPlace_eq_none_iff.mp h
  obtain ⟨rights, hrights⟩ : ∃ rights, rule.rightValues e document = .ok rights := by
    rw [JoinRule.updates, hlefts, ok_bind, bind_eq_ok_iff] at hupdates
    obtain ⟨rights, hrights, -⟩ := hupdates
    exact ⟨rights, hrights⟩
  refine ⟨rights, hrights, ?_⟩
  have unchanged : ∀ other, (Changes.empty other).isSome → ∀ left ∈ lefts.filter fun address =>
      !(rule.matchedAt e document rights address).isEmpty, Address.Apart other left := by
    simp [Changes.empty]
  have written := writeAll_rewrite rule (rule.matchedAt e document rights) wellFormed
    (separate.filter _) unchanged
  rw [Value.rewrite_empty] at written
  rw [updates_eq hlefts hrights hupdates, written, joinChanges_eq_changesWith]

/-- A left object with matches, in no other left object, takes over their fields. -/
theorem get?_rewrite_joinChanges {e : Evaluator} {rule : JoinRule} {document : Value}
    {lefts : List Address} {rights : List Value} {address : Address} {fields : Fields}
    (hleft : address ∈ lefts) (hfields : address.get? document = some (.object fields))
    (antichain : ∀ outer ∈ lefts, outer <+: address → outer = address)
    (hmatched : rule.matched e document rights (.object fields) ≠ []) :
    address.get? (document.rewrite (rule.joinChanges e document lefts rights)) =
      some (.object (fields.merge
        (rule.joinedFields (rule.matched e document rights (.object fields))))) := by
  have outside : ∀ outer, outer <+: address → outer ≠ address →
      rule.joinChanges e document lefts rights outer = none := by
    intro outer hprefix hne
    exact if_neg fun h => hne (antichain outer h.1 hprefix)
  have hereMatched : rule.matchedAt e document rights address =
      rule.matched e document rights (.object fields) := by
    rw [matchedAt, hfields]
  have here : rule.joinChanges e document lefts rights (address ++ []) =
      some (rule.joinInto (rule.matched e document rights (.object fields))) := by
    rw [List.append_nil, joinChanges, hereMatched]
    exact if_pos ⟨hleft, hmatched⟩
  rw [Address.get?_rewrite document outside, hfields, Option.map_some,
    Value.rewrite_of_some here]
  rfl

/-- A rule joins on a snapshot. When it succeeds on a document that repeats no key in an object,
as documents that are read do not, and no left object lies strictly in another, the document
afterwards is the one before, rewritten all at once: each left object with matches takes over
their fields, and nothing else changes. The keys of such an object stay in their places, new
ones follow in the order of the matches, and of several fields for one key the last is kept.
Records match when the rule has a matcher and their keys, as they are in the document before, agree
under all of its matchers. Rules that come after this one go on with the rewritten document. -/
theorem applyInPlace_eq_rewrite {e : Evaluator} {rule : JoinRule} {document after : Value}
    {lefts : List Address} (wellFormed : document.WellFormed)
    (hlefts : rule.leftObjects e document = .ok lefts)
    (antichain : ∀ outer ∈ lefts, ∀ inner ∈ lefts, outer <+: inner → outer = inner)
    (h : (rule.applyInPlace e).perform document = (after, none)) :
    ∃ rights, rule.rightValues e document = .ok rights ∧
      after = document.rewrite (rule.joinChanges e document lefts rights) ∧
      (∀ rest, applyAll e (rule :: rest) document = applyAll e rest after) ∧
      ∀ address ∈ lefts, ∃ fields : Fields, address.get? document = some (.object fields) ∧
        let joined := rule.joinedFields (rule.matched e document rights (.object fields))
        rule.matched e document rights (.object fields) ≠ [] →
          ∃ result : Fields, address.get? after = some (.object result) ∧
            result.keys = fields.keys ++
              (joined.keys.filter fun key => decide (key ∉ fields.keys)).eraseDups ∧
            ∀ key, result.get? key = (Fields.get? joined.reverse key).or (fields.get? key) := by
  have separate : lefts.Pairwise Address.Apart := by
    obtain ⟨found, -, hobjects⟩ := bind_eq_ok_iff.mp hlefts
    obtain rfl := Except.ok.inj hobjects
    exact Address.pairwise_apart_objects antichain
  obtain ⟨rights, hrights, whole⟩ := exists_rewrite_of_perform wellFormed hlefts separate h
  refine ⟨rights, hrights, whole, applyAll_cons h, ?_⟩
  intro address haddress
  obtain ⟨fields, hfields⟩ := get?_of_mem_leftObjects hlefts haddress
  refine ⟨fields, hfields, ?_⟩
  intro joined hmatched
  refine ⟨fields.merge joined, ?_, Fields.keys_merge fields joined, Fields.get?_merge fields joined⟩
  rw [whole]
  exact get?_rewrite_joinChanges haddress hfields
    (fun outer houter => antichain outer houter address haddress) hmatched

theorem applyInPlace_eq_rewrite_orders :
    let ada : Fields := [("id", .int 7), ("zone", .string "n"), ("name", .string "Ada")]
    let bob : Fields := [("id", .float (Binary64.ofInt 7)), ("zone", .string "n"),
      ("name", .string "Bob")]
    let rest : Fields := [("people", .list [.object ada, .object bob, .int 7])]
    let other : Value := .object [("buyer", .int 8), ("zone", .string "n")]
    let document : Value := .object (("orders", .list [
      .object [("name", .null), ("buyer", .int 7), ("zone", .string "n")], other]) :: rest)
    let after : Value := .object (("orders", .list [
      .object [("name", .string "Bob"), ("buyer", .int 7), ("zone", .string "n"),
        ("id", .float (Binary64.ofInt 7))], other]) :: rest)
    let rule : JoinRule := {
      left := ⟨"orders", .field "orders" none⟩
      right := ⟨"people", .field "people" none⟩
      matchers := [(⟨"buyer", .field "buyer" none⟩, ⟨"id", .field "id" none⟩),
        (⟨"zone", .field "zone" none⟩, ⟨"zone", .field "zone" none⟩)]
      target := none }
    let lefts : List Address := [[.field "orders", .index 0], [.field "orders", .index 1]]
    applyAll {} [rule] document = (after, none) ∧
      ∃ rights, rule.rightValues {} document = .ok rights ∧
        after = document.rewrite (rule.joinChanges {} document lefts rights) := by
  intro ada bob rest other document after rule lefts
  have wellFormed : document.WellFormed := by
    simp [document, rest, other, ada, bob, Value.WellFormed, Value.WellFormedItems,
      Value.WellFormedFields, Fields.keys]
  have hlefts : rule.leftObjects {} document = .ok lefts := by decide +kernel
  have antichain : ∀ outer ∈ lefts, ∀ inner ∈ lefts, outer <+: inner → outer = inner := by
    decide +kernel
  have applied : (rule.applyInPlace {}).perform document = (after, none) := by decide +kernel
  obtain ⟨rights, hrights, whole, onward, -⟩ :=
    applyInPlace_eq_rewrite wellFormed hlefts antichain applied
  exact ⟨onward [], rights, hrights, whole⟩

/-- A rule without a matcher joins nothing, although all of its matchers hold of any two records. -/
theorem applyInPlace_ne_rewrite_without_matchers :
    let order : Value := .object [("id", .int 1)]
    let person : Value := .object [("id", .int 2)]
    let document : Value := .object [("orders", .list [order]), ("people", .list [person])]
    let rule : JoinRule := {
      left := ⟨"orders", .field "orders" none⟩
      right := ⟨"people", .field "people" none⟩
      matchers := []
      target := some "buyer" }
    let lefts : List Address := [[.field "orders", .index 0]]
    let changes : Changes := fun address =>
      if address ∈ lefts then some (rule.joinInto ([person].filter fun right =>
        rule.matchers.all (keysMatch {} document order right))) else none
    document.WellFormed ∧ rule.leftObjects {} document = .ok lefts ∧
      rule.rightValues {} document = .ok [person] ∧
      (∀ outer ∈ lefts, ∀ inner ∈ lefts, outer <+: inner → outer = inner) ∧
      (∀ matcher ∈ rule.matchers, keysMatch {} document order person matcher = true) ∧
      applyAll {} [rule] document = (document, none) ∧ document ≠ document.rewrite changes := by
  intro order person document rule lefts changes
  have wellFormed : document.WellFormed := by
    simp [document, order, person, Value.WellFormed, Value.WellFormedItems,
      Value.WellFormedFields, Fields.keys]
  exact ⟨wellFormed, by decide +kernel, by decide +kernel, by decide +kernel,
    List.forall_mem_nil _, by decide +kernel, by decide +kernel⟩

end JoinRule

end TreeTable
