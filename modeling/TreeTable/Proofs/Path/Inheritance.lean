import TreeTable.Proofs.Outcome
import TreeTable.Proofs.Path.Spreading
import TreeTable.Proofs.Value.Objects

/-! # What paths yield is made of the document

A path selects nodes and puts them into lists; all else that it yields is null or a text. So what a
document has as soon as its nodes have it is a property of everything that a path yields in it,
whatever lookups lead to.
-/

namespace TreeTable

open Numeric Outcome

/-- A computation gives nothing but values with a property. -/
def Outcome.Gives {ε α : Type} (holds : α → Prop) (result : Except ε α) : Prop :=
  ∀ a, result = .ok a → holds a

namespace Outcome.Gives

variable {ε α β : Type} {holds : α → Prop} {others : β → Prop}

theorem ok {a : α} (h : holds a) : Gives holds (.ok a : Except ε α) := by
  rintro _ ⟨⟩
  exact h

theorem error (e : ε) : Gives holds (.error e : Except ε α) := nofun

theorem bind {x : Except ε α} {f : α → Except ε β} (h : Gives holds x)
    (hf : ∀ a, holds a → Gives others (f a)) : Gives others (x >>= f) := by
  intro b hb
  obtain ⟨a, ha, hfa⟩ := bind_eq_ok_iff.mp hb
  exact hf a (h a ha) b hfa

theorem mapM {f : α → Except ε β} {items : List α} (h : ∀ item ∈ items, Gives others (f item)) :
    Gives (fun values => ∀ value ∈ values, others value) (items.mapM f) := by
  intro values hvalues value hvalue
  obtain ⟨item, hitem, hgives⟩ := exists_of_mem_mapM hvalues hvalue
  exact h item hitem value hgives

end Outcome.Gives

namespace Value

namespace Hereditary

variable {holds : Value → Prop} {allowed : List String → Prop}

section Selecting

variable (hereditary : Hereditary holds allowed)

include hereditary

theorem flattenOne {items : List Value} (h : ∀ item ∈ items, holds item) :
    ∀ item ∈ flattenOne items, holds item := by
  intro item hitem
  obtain ⟨around, haround, hitem⟩ := List.mem_flatMap.mp hitem
  split at hitem
  next inner => exact (hereditary.list_iff inner).mp (h _ haround) item hitem
  next =>
    rw [List.mem_singleton.mp hitem]
    exact h around haround

theorem flattened {items : List Value} (h : ∀ item ∈ items, holds item) :
    holds (Value.sequester (Value.flattenOne items)) :=
  hereditary.sequester (hereditary.flattenOne h)

theorem getElem {items : List Value} (h : ∀ item ∈ items, holds item) (i : Nat) :
    holds (items[i]?.getD .null) := by
  cases hitem : items[i]? with
  | none => exact hereditary.null
  | some item => exact h item (List.mem_of_getElem? hitem)

theorem picks {items : List Value} (h : ∀ item ∈ items, holds item) (selector : Selector) :
    ∀ value ∈ selector.picks items, holds value := by
  have part (first past : Nat) : ∀ value ∈ (items.take past).drop first, holds value :=
    fun value hvalue => h value (List.mem_of_mem_take (List.mem_of_mem_drop hvalue))
  cases selector with
  | position n =>
      intro value hvalue
      rw [List.mem_singleton.mp hvalue]
      split
      · exact hereditary.null
      · exact hereditary.getElem h _
  | range first last inclusive => exact part _ _
  | onward first => exact part _ _

theorem resolve {items : List Value} (h : ∀ item ∈ items, holds item) (selection : Selection) :
    holds (selection.resolve items) := by
  apply hereditary.sequester
  intro value hvalue
  obtain ⟨selector, -, hpicked⟩ := List.mem_flatMap.mp hvalue
  exact hereditary.picks h selector value hpicked

theorem narrow {value : Value} (h : holds value) (selection : Option Selection) :
    holds (value.narrow selection) := by
  cases selection with
  | none => exact h
  | some selection =>
      cases value with
      | null => exact hereditary.null
      | list items => exact hereditary.resolve ((hereditary.list_iff items).mp h) selection
      | _ => exact hereditary.resolve (List.forall_mem_singleton.mpr h) selection

theorem fieldAt {node : Value} (h : holds node) (key : String) (selection : Option Selection) :
    holds (node.fieldAt key selection) := by
  induction node using nodeInduction with
  | null =>
      rw [Value.fieldAt]
      exact hereditary.null
  | list items ih =>
      rw [hereditary.list_iff] at h
      rw [Value.fieldAt]
      split
      · exact hereditary.narrow ((hereditary.list_iff items).mpr h) selection
      · split
        · exact hereditary.narrow (hereditary.resolve h _) selection
        · rw [fieldsAt_eq_map]
          apply hereditary.flattened
          intro value hvalue
          obtain ⟨item, hitem, rfl⟩ := List.mem_map.mp hvalue
          exact ih item hitem (h item hitem)
  | object fields ih =>
      have values := ((hereditary.object_iff fields).mp h).2
      rw [Value.fieldAt]
      apply hereditary.narrow
      split
      · rw [hereditary.list_iff, List.forall_mem_map]
        exact values
      · cases hvalue : Fields.get? fields key with
        | none => exact hereditary.null
        | some value => exact values _ (Fields.mem_of_get? hvalue)
  | _ =>
      rw [Value.fieldAt]
      · split
        · exact hereditary.narrow h selection
        · exact hereditary.null
      all_goals simp

theorem keysAt {node : Value} (h : holds node) (pattern : Pattern) :
    holds (node.keysAt pattern) := by
  induction node using nodeInduction with
  | list items ih =>
      rw [hereditary.list_iff] at h
      rw [Value.keysAt, allKeysAt_eq_map]
      apply hereditary.flattened
      intro value hvalue
      obtain ⟨item, hitem, rfl⟩ := List.mem_map.mp hvalue
      exact ih item hitem (h item hitem)
  | object fields ih =>
      have values := ((hereditary.object_iff fields).mp h).2
      rw [Value.keysAt]
      split
      · exact hereditary.null
      · apply hereditary.sequester
        rw [List.forall_mem_map]
        exact fun field hfield => values field (List.mem_filter.mp hfield).1
  | _ =>
      rw [Value.keysAt]
      · exact hereditary.null
      all_goals simp

theorem continueFrom (head : Path) (further : Bool) {onward : Value → Except EvalError Value}
    (honward : ∀ node, holds node → Gives holds (onward node)) {value : Value} (h : holds value) :
    Gives holds (Path.continueFrom head further onward value) := by
  cases value with
  | list items =>
      rw [Path.continueFrom]
      split
      · exact (Gives.mapM fun item hitem =>
          honward item ((hereditary.list_iff items).mp h item hitem)).bind
            fun values hvalues => .ok (hereditary.sequester hvalues)
      · exact honward _ h
  | _ => exact honward _ h

variable {resolve : Path.Resolver} (lookups : ∀ key, Gives holds (resolve key))

include lookups

theorem resolveKey (key : Value) : Gives holds (Path.resolveKey resolve key) := by
  rw [Path.resolveKey]
  split
  · exact lookups _
  · exact .ok hereditary.null

theorem resolveKeys (keys : Value) : Gives holds (Path.resolveKeys resolve keys) := by
  cases keys with
  | null => exact .ok hereditary.null
  | list items =>
      rw [Path.resolveKeys]
      exact (Gives.mapM fun item _ => hereditary.resolveKey lookups item).bind
        fun values hvalues => .ok (hereditary.flattened hvalues)
  | _ =>
      rw [Path.resolveKeys]
      · exact hereditary.resolveKey lookups _
      all_goals simp

end Selecting

variable {resolve : Path.Resolver}

mutual

theorem spread (hereditary : Hereditary holds allowed) {f : Value → Except EvalError Value}
    (hf : ∀ node, holds node → Gives holds (f node)) :
    (node : Value) → holds node → Gives holds (node.spread f)
  | .list items, h => by
      rw [Value.spread]
      exact (hereditary.spreadItems hf items ((hereditary.list_iff items).mp h)).bind
        fun values hvalues => .ok (hereditary.flattened hvalues)
  | .null, h | .bool _, h | .int _, h | .float _, h | .string _, h | .object _, h => by
      rw [Value.spread]
      · exact hf _ h
      all_goals simp

theorem spreadItems (hereditary : Hereditary holds allowed)
    {f : Value → Except EvalError Value} (hf : ∀ node, holds node → Gives holds (f node)) :
    (items : List Value) → (∀ item ∈ items, holds item) →
      Gives (fun values => ∀ value ∈ values, holds value) (Value.spreadItems f items)
  | [], _ => by
      rw [Value.spreadItems]
      exact .ok (List.forall_mem_nil holds)
  | item :: rest, h => by
      rw [List.forall_mem_cons] at h
      rw [Value.spreadItems]
      exact (hereditary.spread hf item h.1).bind fun value hvalue =>
        (hereditary.spreadItems hf rest h.2).bind fun values hvalues =>
          .ok (List.forall_mem_cons.mpr ⟨hvalue, hvalues⟩)

end

mutual

theorem pathEval (hereditary : Hereditary holds allowed)
    (lookups : ∀ key, Gives holds (resolve key)) :
    (path : Path) → (node : Value) → holds node → Gives holds (path.eval resolve node)
  | .literal text, _, _ => by
      rw [Path.eval]
      exact .ok (hereditary.string text)
  | .field key selection, node, h => by
      rw [Path.eval]
      exact .ok (hereditary.fieldAt h key selection)
  | .keys pattern, node, h => by
      rw [Path.eval]
      exact .ok (hereditary.keysAt h pattern)
  | .any branches, node, h => by
      rw [Path.eval]
      exact hereditary.pathEvalAny lookups branches node h
  | .all branches, node, h => by
      rw [Path.eval]
      refine (hereditary.pathEvalAll lookups branches node h).bind fun values hvalues => ?_
      cases values with
      | none => exact .ok hereditary.null
      | some values => exact .ok ((hereditary.list_iff values).mpr (hvalues values rfl))
  | .each branches, node, h => by
      rw [Path.eval]
      exact (hereditary.pathEvalEach lookups branches node h).bind
        fun values hvalues => .ok ((hereditary.list_iff values).mpr hvalues)
  | .lookup inner, node, h => by
      rw [Path.eval]
      exact (hereditary.pathEval lookups inner node h).bind
        fun keys _ => hereditary.resolveKeys lookups keys
  | .inverse _, _, _ => by
      rw [Path.eval]
      exact .error _
  | .steps path, node, h => by
      rw [Path.eval]
      exact hereditary.pathEvalSteps lookups path node h

theorem pathEvalAny (hereditary : Hereditary holds allowed)
    (lookups : ∀ key, Gives holds (resolve key)) :
    (branches : List Path) → (node : Value) → holds node →
      Gives holds (Path.evalAny resolve branches node)
  | [], _, _ => by
      rw [Path.evalAny]
      exact .ok hereditary.null
  | branch :: rest, node, h => by
      rw [Path.evalAny]
      refine (hereditary.pathEval lookups branch node h).bind fun value hvalue => ?_
      split
      · exact hereditary.pathEvalAny lookups rest node h
      · exact .ok hvalue

theorem pathEvalAll (hereditary : Hereditary holds allowed)
    (lookups : ∀ key, Gives holds (resolve key)) :
    (branches : List Path) → (node : Value) → holds node →
      Gives (fun values : Option (List Value) =>
        ∀ all, values = some all → ∀ value ∈ all, holds value)
        (Path.evalAll resolve branches node)
  | [], _, _ => by
      rw [Path.evalAll]
      refine .ok ?_
      rintro _ ⟨⟩
      exact List.forall_mem_nil holds
  | branch :: rest, node, h => by
      rw [Path.evalAll]
      refine (hereditary.pathEval lookups branch node h).bind fun value hvalue => ?_
      split
      · exact .ok nofun
      · refine (hereditary.pathEvalAll lookups rest node h).bind fun values hvalues => .ok ?_
        intro all hall
        obtain ⟨others, hothers, rfl⟩ := Option.map_eq_some_iff.mp hall
        exact List.forall_mem_cons.mpr ⟨hvalue, hvalues others hothers⟩

theorem pathEvalEach (hereditary : Hereditary holds allowed)
    (lookups : ∀ key, Gives holds (resolve key)) :
    (branches : List Path) → (node : Value) → holds node →
      Gives (fun values => ∀ value ∈ values, holds value) (Path.evalEach resolve branches node)
  | [], _, _ => by
      rw [Path.evalEach]
      exact .ok (List.forall_mem_nil holds)
  | branch :: rest, node, h => by
      rw [Path.evalEach]
      exact (hereditary.pathEval lookups branch node h).bind fun value hvalue =>
        (hereditary.pathEvalEach lookups rest node h).bind fun values hvalues =>
          .ok (List.forall_mem_cons.mpr ⟨hvalue, hvalues⟩)

theorem pathEvalSteps (hereditary : Hereditary holds allowed)
    (lookups : ∀ key, Gives holds (resolve key)) :
    (path : List Path) → (node : Value) → holds node →
      Gives holds (Path.evalSteps resolve path node)
  | [], node, h => by
      rw [Path.evalSteps]
      exact .ok h
  | head :: rest, node, h => by
      rw [Path.evalSteps]
      have step (node : Value) (h : holds node) :=
        (hereditary.pathEval lookups head node h).bind fun value hvalue =>
          hereditary.continueFrom head (!rest.isEmpty)
            (hereditary.pathEvalSteps lookups rest) hvalue
      dsimp only
      split
      · exact hereditary.spread step node h
      · exact step node h

end

theorem resolveWithin (hereditary : Hereditary holds allowed) {root : Value}
    (hroot : holds root) (limit remaining : Nat) (key : String) :
    Gives holds (Path.resolveWithin limit root remaining key) := by
  induction remaining generalizing key with
  | zero => exact .error _
  | succ remaining ih =>
      rw [Path.resolveWithin]
      split
      · exact hereditary.pathEval ih _ root hroot
      · exact .ok hereditary.null

end Hereditary

end Value

/-- What a path yields at a node has a property that the node and the document have. -/
theorem Evaluator.gives_eval {holds : Value → Prop} {allowed : List String → Prop}
    (hereditary : Value.Hereditary holds allowed) (e : Evaluator) (path : Path)
    {node root : Value} (hnode : holds node) (hroot : holds root) :
    Gives holds (e.eval path node root) :=
  hereditary.pathEval (hereditary.resolveWithin hroot e.limit e.limit) path node hnode

end TreeTable
