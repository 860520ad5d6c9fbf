import TreeTable.Path.Location
import TreeTable.Proofs.Congruence

/-! # Congruences of evaluating and locating

Evaluating a path and locating it are sequences of computations, so two runs of either are related
by a congruence if what lookups give in them is related. What a path cannot meet does not matter: a
test that holds everywhere in the path says which lookups and which inverses there may be.
-/

namespace TreeTable

namespace Congruence

section Parts

variable (c : Congruence EvalError)

mutual

theorem spread {f g : Value → Except EvalError Value} (h : ∀ node, c.Rel (f node) (g node)) :
    (node : Value) → c.Rel (node.spread f) (node.spread g)
  | .list items => by
      rw [Value.spread, Value.spread]
      exact c.bind (spreadItems h items) fun values => c.ok _
  | .null | .bool _ | .int _ | .float _ | .string _ | .object _ => by
      rw [Value.spread, Value.spread]
      · exact h _
      all_goals nofun

theorem spreadItems {f g : Value → Except EvalError Value}
    (h : ∀ node, c.Rel (f node) (g node)) :
    (items : List Value) → c.Rel (Value.spreadItems f items) (Value.spreadItems g items)
  | [] => by
      rw [Value.spreadItems, Value.spreadItems]
      exact c.ok []
  | item :: rest => by
      rw [Value.spreadItems, Value.spreadItems]
      exact c.bind (spread h item) fun value =>
        c.bind (spreadItems h rest) fun values => c.ok (value :: values)

end

theorem continueFrom (head : Path) (further : Bool) {f g : Value → Except EvalError Value}
    (h : ∀ node, c.Rel (f node) (g node)) (value : Value) :
    c.Rel (Path.continueFrom head further f value) (Path.continueFrom head further g value) := by
  cases value with
  | list items =>
      rw [Path.continueFrom, Path.continueFrom]
      split
      next => exact c.bind (c.mapM fun item _ => h item) fun values => c.ok _
      next => exact h (.list items)
  | _ => exact h _

theorem resolveKey {first second : Path.Resolver} (h : ∀ key, c.Rel (first key) (second key))
    (key : Value) : c.Rel (Path.resolveKey first key) (Path.resolveKey second key) := by
  rw [Path.resolveKey, Path.resolveKey]
  split
  next text _ => exact h text
  next => exact c.ok Value.null

theorem resolveKeys {first second : Path.Resolver} (h : ∀ key, c.Rel (first key) (second key))
    (keys : Value) : c.Rel (Path.resolveKeys first keys) (Path.resolveKeys second keys) := by
  cases keys with
  | null => exact c.ok Value.null
  | list items =>
      rw [Path.resolveKeys, Path.resolveKeys]
      exact c.bind (c.mapM fun key _ => c.resolveKey h key) fun values => c.ok _
  | _ =>
      rw [Path.resolveKeys, Path.resolveKeys]
      · exact c.resolveKey h _
      all_goals simp

theorem locateLookups {first second : Path.AddressResolver}
    (h : ∀ key, c.Rel (first key) (second key)) (keys : List Value) :
    c.Rel (Path.locateLookups first keys) (Path.locateLookups second keys) := by
  induction keys with
  | nil => exact c.ok []
  | cons key rest ih =>
      rw [Path.locateLookups, Path.locateLookups]
      split
      next text _ =>
        exact c.bind (h text) fun found => c.bind ih fun others => c.ok (found ++ others)
      next =>
        exact c.bind (c.ok []) fun found => c.bind ih fun others => c.ok (found ++ others)

theorem locateFrom {first second : Address → Except EvalError (List Address)}
    (h : ∀ here, c.Rel (first here) (second here)) (current : List Address) :
    c.Rel (Path.locateFrom first current) (Path.locateFrom second current) := by
  induction current with
  | nil => exact c.ok []
  | cons here rest ih =>
      rw [Path.locateFrom, Path.locateFrom]
      exact c.bind (h here) fun found => c.bind ih fun others => c.ok (found ++ others)

end Parts

/-- What two runs do where a path that passes a test has a lookup or an inverse is related. -/
structure Meets (c : Congruence EvalError) (test : Path → Bool)
    (first second : Path.Resolver) : Prop where
  lookup : ∀ inner, test (.lookup inner) = true → ∀ key, c.Rel (first key) (second key)
  inverse : ∀ inner, test (.inverse inner) = true → ∀ {α : Type},
    c.Rel (.error .unsupported : Except EvalError α) (.error .unsupported)

section Evaluating

variable {c : Congruence EvalError} {test : Path → Bool} {first second : Path.Resolver}

mutual

theorem Meets.eval (meets : c.Meets test first second) :
    (path : Path) → path.everywhere test = true → (node : Value) →
      c.Rel (path.eval first node) (path.eval second node)
  | .literal text, _, _ => by
      rw [Path.eval, Path.eval]
      exact c.ok _
  | .field key selection, _, _ => by
      rw [Path.eval, Path.eval]
      exact c.ok _
  | .keys pattern, _, _ => by
      rw [Path.eval, Path.eval]
      exact c.ok _
  | .any branches, h, node => by
      rw [Path.everywhere, Bool.and_eq_true] at h
      rw [Path.eval, Path.eval]
      exact meets.evalAny branches h.2 node
  | .all branches, h, node => by
      rw [Path.everywhere, Bool.and_eq_true] at h
      rw [Path.eval, Path.eval]
      refine c.bind (meets.evalAll branches h.2 node) fun values => ?_
      cases values <;> exact c.ok _
  | .each branches, h, node => by
      rw [Path.everywhere, Bool.and_eq_true] at h
      rw [Path.eval, Path.eval]
      exact c.bind (meets.evalEach branches h.2 node) fun values => c.ok _
  | .lookup inner, h, node => by
      rw [Path.everywhere, Bool.and_eq_true] at h
      rw [Path.eval, Path.eval]
      -- The keys are those of one value, but what they lead to is no part of the path.
      exact c.bind (meets.eval inner h.2 node) (c.resolveKeys (meets.lookup inner h.1))
  | .inverse inner, h, _ => by
      rw [Path.everywhere, Bool.and_eq_true] at h
      rw [Path.eval, Path.eval]
      exact meets.inverse inner h.1
  | .steps path, h, node => by
      rw [Path.everywhere, Bool.and_eq_true] at h
      rw [Path.eval, Path.eval]
      exact meets.evalSteps path h.2 node

theorem Meets.evalAny (meets : c.Meets test first second) :
    (branches : List Path) → Path.everywhereIn test branches = true → (node : Value) →
      c.Rel (Path.evalAny first branches node) (Path.evalAny second branches node)
  | [], _, _ => by
      rw [Path.evalAny, Path.evalAny]
      exact c.ok _
  | branch :: rest, h, node => by
      rw [Path.everywhereIn, Bool.and_eq_true] at h
      rw [Path.evalAny, Path.evalAny]
      refine c.bind (meets.eval branch h.1 node) fun value => ?_
      split
      next => exact meets.evalAny rest h.2 node
      next => exact c.ok value

theorem Meets.evalAll (meets : c.Meets test first second) :
    (branches : List Path) → Path.everywhereIn test branches = true → (node : Value) →
      c.Rel (Path.evalAll first branches node) (Path.evalAll second branches node)
  | [], _, _ => by
      rw [Path.evalAll, Path.evalAll]
      exact c.ok _
  | branch :: rest, h, node => by
      rw [Path.everywhereIn, Bool.and_eq_true] at h
      rw [Path.evalAll, Path.evalAll]
      refine c.bind (meets.eval branch h.1 node) fun value => ?_
      split
      next => exact c.ok none
      next => exact c.bind (meets.evalAll rest h.2 node) fun values => c.ok _

theorem Meets.evalEach (meets : c.Meets test first second) :
    (branches : List Path) → Path.everywhereIn test branches = true → (node : Value) →
      c.Rel (Path.evalEach first branches node) (Path.evalEach second branches node)
  | [], _, _ => by
      rw [Path.evalEach, Path.evalEach]
      exact c.ok _
  | branch :: rest, h, node => by
      rw [Path.everywhereIn, Bool.and_eq_true] at h
      rw [Path.evalEach, Path.evalEach]
      exact c.bind (meets.eval branch h.1 node) fun value =>
        c.bind (meets.evalEach rest h.2 node) fun values => c.ok (value :: values)

theorem Meets.evalSteps (meets : c.Meets test first second) :
    (path : List Path) → Path.everywhereIn test path = true → (node : Value) →
      c.Rel (Path.evalSteps first path node) (Path.evalSteps second path node)
  | [], _, node => by
      rw [Path.evalSteps, Path.evalSteps]
      exact c.ok node
  | head :: rest, h, node => by
      rw [Path.everywhereIn, Bool.and_eq_true] at h
      rw [Path.evalSteps, Path.evalSteps]
      -- Steps that name fields are spread over nested lists, all others are taken once.
      have step (node : Value) :
          c.Rel (head.eval first node >>= Path.continueFrom head (!rest.isEmpty)
              (Path.evalSteps first rest))
            (head.eval second node >>= Path.continueFrom head (!rest.isEmpty)
              (Path.evalSteps second rest)) :=
        c.bind (meets.eval head h.1 node)
          (c.continueFrom head _ (meets.evalSteps rest h.2))
      split
      next => exact c.spread step node
      next => exact step node

end

end Evaluating

section Locating

variable {c : Congruence EvalError} {test : Path → Bool} {first second : Path.Resolver}
  {findFirst findSecond : Path.AddressResolver} {root : Value}

/-- The same of where lookups lead, when paths are located. -/
structure Finds (c : Congruence EvalError) (test : Path → Bool) (first second : Path.Resolver)
    (findFirst findSecond : Path.AddressResolver) : Prop extends c.Meets test first second where
  find : ∀ inner, test (.lookup inner) = true → ∀ key,
    c.Rel (findFirst key) (findSecond key)

mutual

theorem Finds.locate (finds : c.Finds test first second findFirst findSecond) :
    (path : Path) → path.everywhere test = true → (here : Address) →
      c.Rel (path.locate first findFirst root here) (path.locate second findSecond root here)
  | .literal text, _, _ => by
      rw [Path.locate, Path.locate]
      exact c.ok _
  | .field key selection, _, _ => by
      rw [Path.locate, Path.locate]
      exact c.ok _
  | .keys pattern, _, _ => by
      rw [Path.locate, Path.locate]
      exact c.ok _
  | .any branches, h, here => by
      rw [Path.everywhere, Bool.and_eq_true] at h
      rw [Path.locate, Path.locate]
      exact finds.locateAny branches h.2 here
  | .all branches, h, here => by
      rw [Path.everywhere, Bool.and_eq_true] at h
      rw [Path.locate, Path.locate]
      exact c.bind (finds.locateAll branches h.2 here) fun found => c.ok _
  | .each branches, h, here => by
      rw [Path.everywhere, Bool.and_eq_true] at h
      rw [Path.locate, Path.locate]
      exact finds.locateEach branches h.2 here
  | .lookup inner, h, here => by
      rw [Path.everywhere, Bool.and_eq_true] at h
      rw [Path.locate, Path.locate]
      exact c.bind (finds.eval inner h.2 _) fun key =>
        c.locateLookups (finds.find inner h.1) key.selected
  | .inverse inner, h, _ => by
      rw [Path.everywhere, Bool.and_eq_true] at h
      rw [Path.locate, Path.locate]
      exact finds.inverse inner h.1
  | .steps path, h, here => by
      rw [Path.everywhere, Bool.and_eq_true] at h
      rw [Path.locate, Path.locate]
      exact finds.locateSteps path h.2 [here]

theorem Finds.locateAny (finds : c.Finds test first second findFirst findSecond) :
    (branches : List Path) → Path.everywhereIn test branches = true → (here : Address) →
      c.Rel (Path.locateAny first findFirst root branches here)
        (Path.locateAny second findSecond root branches here)
  | [], _, _ => by
      rw [Path.locateAny, Path.locateAny]
      exact c.ok _
  | branch :: rest, h, here => by
      rw [Path.everywhereIn, Bool.and_eq_true] at h
      rw [Path.locateAny, Path.locateAny]
      refine c.bind (finds.locate branch h.1 here) fun found => ?_
      split
      next => exact finds.locateAny rest h.2 here
      next => exact c.ok found

theorem Finds.locateAll (finds : c.Finds test first second findFirst findSecond) :
    (branches : List Path) → Path.everywhereIn test branches = true → (here : Address) →
      c.Rel (Path.locateAll first findFirst root branches here)
        (Path.locateAll second findSecond root branches here)
  | [], _, _ => by
      rw [Path.locateAll, Path.locateAll]
      exact c.ok _
  | branch :: rest, h, here => by
      rw [Path.everywhereIn, Bool.and_eq_true] at h
      rw [Path.locateAll, Path.locateAll]
      refine c.bind (finds.locate branch h.1 here) fun found => ?_
      split
      next => exact c.ok none
      next => exact c.bind (finds.locateAll rest h.2 here) fun others => c.ok _

theorem Finds.locateEach (finds : c.Finds test first second findFirst findSecond) :
    (branches : List Path) → Path.everywhereIn test branches = true → (here : Address) →
      c.Rel (Path.locateEach first findFirst root branches here)
        (Path.locateEach second findSecond root branches here)
  | [], _, _ => by
      rw [Path.locateEach, Path.locateEach]
      exact c.ok _
  | branch :: rest, h, here => by
      rw [Path.everywhereIn, Bool.and_eq_true] at h
      rw [Path.locateEach, Path.locateEach]
      exact c.bind (finds.locate branch h.1 here) fun found =>
        c.bind (finds.locateEach rest h.2 here) fun others => c.ok (found ++ others)

theorem Finds.locateSteps (finds : c.Finds test first second findFirst findSecond) :
    (path : List Path) → Path.everywhereIn test path = true → (current : List Address) →
      c.Rel (Path.locateSteps first findFirst root path current)
        (Path.locateSteps second findSecond root path current)
  | [], _, current => by
      rw [Path.locateSteps, Path.locateSteps]
      exact c.ok current
  | head :: rest, h, current => by
      rw [Path.everywhereIn, Bool.and_eq_true] at h
      rw [Path.locateSteps, Path.locateSteps]
      exact c.bind (c.locateFrom (finds.locate head h.1) current)
        (finds.locateSteps rest h.2)

end

end Locating

end Congruence

/-- A path without lookups has the same value at a node whatever the limit is and whatever the
document around the node. -/
theorem Evaluator.eval_eq_of_noLookup {path : Path} (h : path.noLookup = true)
    (first second : Evaluator) (node root other : Value) :
    first.eval path node root = second.eval path node other := by
  unfold Path.noLookup at h
  refine Congruence.Meets.eval (c := Congruence.equality EvalError) ?_ path h node
  exact ⟨nofun, fun _ _ => rfl⟩

end TreeTable
