import TreeTable.Proofs.Path.Spreading
import TreeTable.Proofs.Selection.Positions
import TreeTable.Proofs.Value.Fields
import TreeTable.Proofs.Value.WellFormed

/-! # Evaluating and locating give the same leaves

The leaves of the value of a plain step are collected from the leaves of its node, and steps
one after another collect leaves from leaves. Locating collects the addresses of the same leaves
in the same order.
-/

namespace TreeTable

open Outcome

namespace Path

/-- A step that reads a named field, with at most one selector, or the keys that a pattern
matches. -/
inductive PlainStep : Path → Prop where
  | field {key : String} {selection : Option Selection} (named : namesField key = true)
      (single : ∀ selectors, selection = some selectors → ∃ selector, selectors = [selector]) :
      PlainStep (field key selection)
  | keys (pattern : Pattern) : PlainStep (keys pattern)

theorem plainStep_of_isPlainStep {step : Path} (h : step.isPlainStep = true) :
    PlainStep step := by
  cases step with
  | field key selection =>
      cases selection with
      | none => exact .field h nofun
      | some selectors =>
          rw [isPlainStep, Bool.and_eq_true, beq_iff_eq] at h
          refine .field h.1 ?_
          rintro _ ⟨⟩
          exact List.length_eq_one_iff.mp h.2
  | keys pattern => exact .keys pattern
  | _ => cases h

/-- What a plain step gives at a node. -/
def valueAt : Path → Value → Value
  | field key selection, node => node.fieldAt key selection
  | keys pattern, node => node.keysAt pattern
  | _, _ => .null

/-- The addresses that a plain step selects from the node at an address. -/
def addressesAt : Path → Address → Value → List Address
  | field key selection, here, node => locateField key selection here node
  | keys pattern, here, node => locateKeys pattern here node
  | _, _, _ => []

/-- The leaves that plain steps collect one after another. -/
def follow : List Path → List Value → List Value
  | [], found => found
  | step :: rest, found => follow rest (found.flatMap fun node => (step.valueAt node).leaves)

theorem PlainStep.spreads {step : Path} (h : PlainStep step) :
    Value.Spreads fun node => (step.valueAt node).leaves := by
  cases h with
  | @field key selection named single => exact Value.spreads_fieldAt named selection
  | keys pattern => exact Value.spreads_keysAt pattern

theorem PlainStep.navigates {step : Path} (h : PlainStep step) : step.navigates = true := by
  cases h with
  | field named single => exact named
  | keys pattern => rfl

theorem PlainStep.not_isWildcard {step : Path} (h : PlainStep step) :
    step.isWildcard = false := by
  cases h with
  | field named single =>
      rw [namesField, Bool.and_eq_true, bne_iff_ne] at named
      simpa [isWildcard] using named.1
  | keys pattern => rfl

theorem PlainStep.continueFrom_eq {step : Path} (h : PlainStep step) (further : Bool)
    (onward : Value → Except EvalError Value) (value : Value) :
    continueFrom step further onward value = onward value := by
  cases value <;> simp [continueFrom, h.not_isWildcard]

theorem PlainStep.eval_eq {step : Path} (h : PlainStep step) (resolve : Resolver)
    (node : Value) : step.eval resolve node = .ok (step.valueAt node) := by
  cases h with
  | field named single => rw [eval, valueAt]
  | keys pattern => rw [eval, valueAt]

theorem PlainStep.locate_eq {step : Path} (h : PlainStep step) (resolve : Resolver)
    (find : AddressResolver) (root : Value) (here : Address) :
    step.locate resolve find root here =
      .ok (step.addressesAt here ((here.get? root).getD .null)) := by
  cases h with
  | field named single => rw [locate, addressesAt]
  | keys pattern => rw [locate, addressesAt]

theorem follow_nil (path : List Path) : follow path [] = [] := by
  induction path with
  | nil => rfl
  | cons step rest ih => exact ih

theorem follow_append (path : List Path) (first second : List Value) :
    follow path (first ++ second) = follow path first ++ follow path second := by
  induction path generalizing first second with
  | nil => rfl
  | cons step rest ih => rw [follow, follow, follow, List.flatMap_append, ih]

theorem follow_leavesOf (path : List Path) (items : List Value) :
    follow path (Value.leavesOf items) = items.flatMap fun item => follow path item.leaves := by
  induction items with
  | nil => rw [Value.leavesOf_nil, follow_nil, List.flatMap_nil]
  | cons item rest ih => rw [Value.leavesOf_cons, follow_append, ih, List.flatMap_cons]

/-- Plain steps have a value at every node, with the leaves that they collect. -/
theorem leaves_evalSteps (resolve : Resolver) {path : List Path}
    (plain : ∀ step ∈ path, PlainStep step) (node : Value) :
    ∃ value, evalSteps resolve path node = .ok value ∧
      value.leaves = follow path node.leaves := by
  induction path generalizing node with
  | nil => exact ⟨node, by rw [evalSteps], rfl⟩
  | cons head rest ih =>
      have hhead : PlainStep head := plain head List.mem_cons_self
      have onward := ih fun step hstep => plain step (List.mem_cons_of_mem _ hstep)
      have spreads : Value.Spreads fun node => follow (head :: rest) node.leaves := by
        refine ⟨?_, ?_⟩
        · rw [Value.leaves_null, follow_nil]
        · intro items
          rw [Value.leaves_list, follow_leavesOf]
      rw [evalSteps, hhead.navigates, if_pos rfl]
      -- All steps together are spread over the node, so it is enough to look at what is no list.
      apply Value.leaves_spread spreads
      intro node
      obtain ⟨value, hvalue, hleaves⟩ := onward (head.valueAt node)
      refine ⟨value, ?_, ?_⟩
      · rw [hhead.eval_eq, ok_bind, hhead.continueFrom_eq]
        exact hvalue
      · rw [hleaves, follow, ← hhead.spreads.eq_flatMap_leaves node]

/-- Addresses that a selection leaves of a value have the leaves of what it leaves of the
value. -/
theorem leaves_narrowAddress {root value : Value} {here : Address}
    (h : here.get? root = some value) {selection : Option Selection}
    (single : ∀ selectors, selection = some selectors → ∃ selector, selectors = [selector]) :
    (narrowAddress selection here value).flatMap (Address.leaves root) =
      (value.narrow selection).leaves := by
  cases selection with
  | none =>
      rw [narrowAddress, Value.narrow, List.flatMap_singleton]
      exact Address.leaves_of_get? h
  | some selectors =>
      obtain ⟨selector, rfl⟩ := single selectors rfl
      -- What is no list is a list of one element for both: it is selected or it is not.
      have alone (scalar : Value) (hscalar : here.get? root = some scalar) :
          (if (Selection.positions [selector] 1).isEmpty then [] else [here]).flatMap
              (Address.leaves root) =
            (Selection.resolve [selector] [scalar]).leaves := by
        have only : Selection.positions [selector] 1 = selector.positions 1 := by
          simp [Selection.positions]
        rw [Selection.leaves_resolve, List.length_singleton, only]
        rcases selector.positions_one with nothing | first
        · rw [nothing]
          rfl
        · rw [first]
          simp [Address.leaves_of_get? hscalar]
      cases value with
      | null => simp [narrowAddress, Value.narrow]
      | list items =>
          rw [narrowAddress, Value.narrow, Selection.leaves_resolve, List.flatMap_map]
          congr 1
          funext i
          rw [Address.leaves, Address.get?_index h]
      | _ => exact alone _ h

theorem leaves_locateField_object {root : Value} {fields : Fields} {here : Address}
    (h : here.get? root = some (.object fields)) {key : String} {selection : Option Selection}
    (named : namesField key = true)
    (single : ∀ selectors, selection = some selectors → ∃ selector, selectors = [selector]) :
    (locateField key selection here (.object fields)).flatMap (Address.leaves root) =
      ((Value.object fields).fieldAt key selection).leaves := by
  rw [namesField, Bool.and_eq_true, bne_iff_ne] at named
  rw [locateField, if_neg named.1, Value.fieldAt, if_neg named.1]
  cases hget : Fields.get? fields key with
  | none => cases selection <;> simp [Value.narrow]
  | some value =>
      apply leaves_narrowAddress _ single
      rw [Address.get?_field h, hget]

/-- What a pattern locates in an object are the fields that it matches there, since no key
stands twice. -/
theorem leaves_locateKeys_object {root : Value} {fields : Fields} {here : Address}
    (h : here.get? root = some (.object fields)) (distinct : fields.keys.Nodup)
    (pattern : Pattern) :
    (locateKeys pattern here (.object fields)).flatMap (Address.leaves root) =
      ((Value.object fields).keysAt pattern).leaves := by
  have values : ((Value.object fields).keysAt pattern).leaves = Value.leavesOf
      ((fields.filter fun field => pattern.isMatch field.1).map Prod.snd) := by
    rw [Value.keysAt]
    split
    next nothing =>
      rw [List.isEmpty_iff.mp nothing]
      simp
    next => rw [Value.leaves_sequester]
  have there : ∀ field ∈ fields.filter fun field => pattern.isMatch field.1,
      Address.leaves root (here.field field.1) = field.2.leaves := by
    intro field hfield
    apply Address.leaves_of_get?
    rw [Address.get?_field h]
    exact Fields.get?_of_mem distinct (List.mem_filter.mp hfield).1
  rw [values, Value.leavesOf_eq_flatMap, locateKeys, List.flatMap_map, List.flatMap_map]
  exact congrArg List.flatten (List.map_congr_left there)

/-- The addresses that a plain step selects from a node have the leaves of what it gives
there. -/
theorem PlainStep.leaves_addressesAt {step : Path} (h : PlainStep step) {root node : Value}
    {here : Address} (wellFormed : node.WellFormed) (hnode : here.get? root = some node) :
    (step.addressesAt here node).flatMap (Address.leaves root) =
      (step.valueAt node).leaves := by
  cases h with
  | @field key selection named single =>
      apply (locatesInLists_field named selection).leaves_eq (Value.spreads_fieldAt named selection)
        _ node wellFormed here hnode
      intro here node noList wellFormed hnode
      have noWildcard : key ≠ wildcard := by
        rw [namesField, Bool.and_eq_true, bne_iff_ne] at named
        exact named.1
      cases node with
      | list items => exact absurd rfl (noList items)
      | object fields => exact leaves_locateField_object hnode named single
      | _ => simp [locateField, Value.fieldAt, noWildcard]
  | keys pattern =>
      apply (locatesInLists_keys pattern).leaves_eq (Value.spreads_keysAt pattern)
        _ node wellFormed here hnode
      intro here node noList wellFormed hnode
      cases node with
      | list items => exact absurd rfl (noList items)
      | object fields => exact leaves_locateKeys_object hnode wellFormed.1 pattern
      | _ => simp [locateKeys, Value.keysAt]

/-- Where there is no node a plain step selects nothing. -/
theorem PlainStep.addressesAt_null {step : Path} (h : PlainStep step) (here : Address) :
    step.addressesAt here .null = [] := by
  cases h with
  | @field key selection named single =>
      exact (locatesInLists_field named selection).null here
  | keys pattern => exact (locatesInLists_keys pattern).null here

/-- From an address on, a plain step selects the leaves that it collects from those of the
node there. -/
theorem PlainStep.leaves_located {step : Path} (h : PlainStep step) {root : Value}
    (wellFormed : root.WellFormed) (here : Address) :
    (step.addressesAt here ((here.get? root).getD .null)).flatMap (Address.leaves root) =
      (here.leaves root).flatMap fun leaf => (step.valueAt leaf).leaves := by
  cases hnode : here.get? root with
  | none =>
      rw [Option.getD_none, h.addressesAt_null, Address.leaves, hnode]
      simp
  | some node =>
      rw [Option.getD_some, h.leaves_addressesAt (wellFormed.address hnode) hnode,
        Address.leaves_of_get? hnode]
      exact h.spreads.eq_flatMap_leaves node

theorem locateFrom_eq {locate : Address → Except EvalError (List Address)}
    {found : Address → List Address} (h : ∀ here, locate here = .ok (found here))
    (current : List Address) : locateFrom locate current = .ok (current.flatMap found) := by
  induction current with
  | nil => rw [locateFrom, List.flatMap_nil]
  | cons here rest ih =>
      rw [locateFrom, h, ok_bind, ih, List.flatMap_cons]
      rfl

/-- Plain steps select addresses from any addresses, with the leaves that they collect. -/
theorem leaves_locateSteps (resolve : Resolver) (find : AddressResolver) {root : Value}
    (wellFormed : root.WellFormed) {path : List Path} (plain : ∀ step ∈ path, PlainStep step)
    (current : List Address) :
    ∃ found, locateSteps resolve find root path current = .ok found ∧
      found.flatMap (Address.leaves root) =
        follow path (current.flatMap (Address.leaves root)) := by
  induction path generalizing current with
  | nil => exact ⟨current, by rw [locateSteps], rfl⟩
  | cons head rest ih =>
      have hhead : PlainStep head := plain head List.mem_cons_self
      obtain ⟨found, hfound, hleaves⟩ :=
        ih (fun step hstep => plain step (List.mem_cons_of_mem _ hstep))
          (current.flatMap fun here => head.addressesAt here ((here.get? root).getD .null))
      refine ⟨found, ?_, ?_⟩
      · rw [locateSteps, locateFrom_eq (hhead.locate_eq resolve find root), ok_bind]
        exact hfound
      · rw [hleaves, follow, List.flatMap_assoc, List.flatMap_assoc]
        simp only [hhead.leaves_located wellFormed]

/-- A plain path has a value at every node of a document, and the addresses that it selects
have the leaves of that value. -/
theorem leaves_eval_eq_locate (resolve : Resolver) (find : AddressResolver) {path : Path}
    (plain : path.isPlain = true) {root node : Value} (wellFormed : root.WellFormed)
    {here : Address} (hnode : here.get? root = some node) :
    ∃ value found, path.eval resolve node = .ok value ∧
      path.locate resolve find root here = .ok found ∧
      value.leaves = found.flatMap (Address.leaves root) := by
  have step (hstep : PlainStep path) : ∃ value found, path.eval resolve node = .ok value ∧
      path.locate resolve find root here = .ok found ∧
      value.leaves = found.flatMap (Address.leaves root) := by
    refine ⟨_, _, hstep.eval_eq resolve node, hstep.locate_eq resolve find root here, ?_⟩
    rw [hnode]
    exact (hstep.leaves_addressesAt (wellFormed.address hnode) hnode).symm
  cases path with
  | steps path =>
      have plainSteps : ∀ step ∈ path, PlainStep step := fun step hstep =>
        plainStep_of_isPlainStep (List.all_eq_true.mp plain step hstep)
      obtain ⟨value, hvalue, hleaves⟩ := leaves_evalSteps resolve plainSteps node
      obtain ⟨found, hfound, hlocated⟩ :=
        leaves_locateSteps resolve find wellFormed plainSteps [here]
      refine ⟨value, found, ?_, ?_, ?_⟩
      · rw [eval, hvalue]
      · rw [locate, hfound]
      · rw [hleaves, hlocated, List.flatMap_singleton, Address.leaves_of_get? hnode]
  | field key selection => exact step (plainStep_of_isPlainStep plain)
  | keys pattern => exact step (.keys pattern)
  | _ => cases plain

end Path

/-- Locating agrees with evaluating on plain paths, in documents that repeat no key in an
object: the value that evaluating gives has, in order, the leaves of the values at the addresses
that locating gives. -/
theorem Evaluator.leaves_evaluate (e : Evaluator) {path : Path} (plain : path.isPlain = true)
    {document : Value} (wellFormed : document.WellFormed) :
    ∃ value found, e.evaluate path document = .ok value ∧
      e.locate path document = .ok found ∧
      value.leaves = Value.leavesOf (found.filterMap fun address => address.get? document) := by
  obtain ⟨value, found, hvalue, hfound, hleaves⟩ := Path.leaves_eval_eq_locate
    (Path.resolveWithin e.limit document e.limit) (Path.findWithin e.limit document e.limit)
    plain wellFormed (rfl : Address.get? [] document = some document)
  refine ⟨value, found, hvalue, hfound, ?_⟩
  rw [hleaves, Address.leavesOf_filterMap]

theorem Evaluator.leaves_evaluate_nested :
    let path : Path := .steps [.field "a" none,
      .keys ((Pattern.ofSource? "^b").get (by decide +kernel)),
      .field "c" (some [.range (-2) (-1) true])]
    let document : Value := .object [("a", .list [
      .list [.object [("b", .object [("c", .list [.int 1, .null, .list [.int 2]])]), ("x", .int 0)],
        .object []],
      .object [("bb", .list [.object [("c", .int 5)], .list [.int 7]])]])]
    path.isPlain = true ∧ document.WellFormed ∧
      ∃ value found, Evaluator.evaluate {} path document = .ok value ∧
        Evaluator.locate {} path document = .ok found ∧
        value.leaves = Value.leavesOf (found.filterMap fun address => address.get? document) ∧
        value.leaves = [.int 2, .int 5] := by
  intro path document
  have plain : path.isPlain = true := by decide
  have wellFormed : document.WellFormed := by
    simp [document, Value.WellFormed, Value.WellFormedItems, Value.WellFormedFields, Fields.keys]
  obtain ⟨value, found, hvalue, hfound, hleaves⟩ := Evaluator.leaves_evaluate {} plain wellFormed
  have known : Evaluator.evaluate {} path document =
      .ok (.list [.null, .list [.int 2], .null, .int 5, .null]) := by rfl
  obtain rfl := Except.ok.inj (hvalue.symm.trans known)
  refine ⟨plain, wellFormed, _, found, hvalue, hfound, hleaves, ?_⟩
  simp [Value.leaves, Value.leavesOf]

end TreeTable