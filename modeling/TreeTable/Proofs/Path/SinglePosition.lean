import TreeTable.Path.Location
import TreeTable.Proofs.Outcome

/-! # Two ways to select one position

An element of a list is selected by an integer key or by a selection with a single position. Steps
behind the integer key go on from the element. A selection without a key is a wildcard, and steps
behind a wildcard go on from each element of its value; when the one element that was selected is a
list itself, these are the elements of that list.
-/

namespace TreeTable

open Numeric Outcome

/-- The element of a list at a position, a negative one counted from the end, and null outside the
list. -/
def Value.nth (items : List Value) (n : Int64) : Value :=
  let i := Selector.offset items.length n
  if i < 0 then .null else items[i.toNat]?.getD .null

theorem Selection.resolve_position (items : List Value) (n : Int64) :
    Selection.resolve [.position n] items = Value.nth items n := rfl

namespace Path

theorem ne_wildcard_of_int64OfText? {key : String} {n : Int64}
    (h : int64OfText? key = some n) : key ≠ wildcard := by
  rintro rfl
  have none : int64OfText? wildcard = none := by decide +kernel
  rw [none] at h
  cases h

variable (resolve : Resolver) (items : List Value) (rest : List Path)

/-- Behind an integer key, steps go on from the element at the position. -/
theorem evalSteps_integerKey {key : String} {n : Int64} (h : int64OfText? key = some n) :
    evalSteps resolve (.field key none :: rest) (.list items) =
      evalSteps resolve rest (Value.nth items n) := by
  have noWildcard := ne_wildcard_of_int64OfText? h
  have alone : (field key none).navigates = false := by
    simp [navigates, namesField, h]
  have element : (Value.list items).fieldAt key none = Value.nth items n := by
    rw [Value.fieldAt, if_neg noWildcard, h]
    exact Selection.resolve_position items n
  rw [evalSteps, alone, if_neg Bool.false_ne_true]
  dsimp only
  rw [eval, ok_bind, element]
  cases Value.nth items n <;> simp [continueFrom, isWildcard, noWildcard]

/-- Behind a position without a key, steps go on from each element of the element there, if that is
a list, and else from the element itself. -/
theorem evalSteps_barePosition (n : Int64) (further : rest ≠ []) :
    evalSteps resolve (.field wildcard (some [.position n]) :: rest) (.list items) =
      match Value.nth items n with
      | .list inner => (inner.mapM (evalSteps resolve rest)).map Value.sequester
      | element => evalSteps resolve rest element := by
  have alone : (field wildcard (some [.position n])).navigates = false := rfl
  have element : (Value.list items).fieldAt wildcard (some [.position n]) =
      Value.nth items n := by
    rw [Value.fieldAt, if_pos rfl]
    exact Selection.resolve_position items n
  have more : rest.isEmpty = false := by simpa using further
  rw [evalSteps, alone, if_neg Bool.false_ne_true]
  dsimp only
  rw [eval, ok_bind, element, more]
  cases Value.nth items n with
  | list inner =>
      have spread : ((field wildcard (some [.position n])).isWildcard && !false) = true := rfl
      rw [continueFrom, if_pos spread]
      dsimp only
      cases inner.mapM (evalSteps resolve rest) <;> rfl
  | _ => rfl

end Path

/-- An integer key goes on from the element at its position, null outside the list. A selection of
the same position without a key comes to the same unless the element is a list, and then goes on
from each of the elements of that. -/
theorem Evaluator.eval_singlePosition (e : Evaluator) (items : List Value) (root : Value)
    {n : Int64} {key : String} (hkey : int64OfText? key = some n) {rest : List Path}
    (further : rest ≠ []) :
    let element := Value.nth items n
    let named := e.eval (.steps (.field key none :: rest)) (.list items) root
    let bare := e.eval (.steps (.field Path.wildcard (some [.position n]) :: rest))
      (.list items) root
    named = e.eval (.steps rest) element root ∧
      ((∀ inner, element ≠ .list inner) → bare = named) ∧
      ∀ inner, element = .list inner →
        bare = (inner.mapM fun item => e.eval (.steps rest) item root).map Value.sequester := by
  intro element named bare
  have steps (path : List Path) : (fun node => e.eval (.steps path) node root) =
      Path.evalSteps (Path.resolveWithin e.limit root e.limit) path := by
    funext node
    rw [Evaluator.eval, Path.eval]
  have hbare : bare = match element with
      | .list inner =>
          (inner.mapM fun item => e.eval (.steps rest) item root).map Value.sequester
      | element => e.eval (.steps rest) element root := by
    have both := Path.evalSteps_barePosition
      (Path.resolveWithin e.limit root e.limit) items rest n further
    rw [← steps, ← steps] at both
    exact both
  have hnamed : named = e.eval (.steps rest) element root := by
    have both := Path.evalSteps_integerKey
      (Path.resolveWithin e.limit root e.limit) items rest hkey
    rw [← steps, ← steps] at both
    exact both
  refine ⟨hnamed, ?_, ?_⟩
  · intro noList
    rw [hbare, hnamed]
    cases helement : element with
    | list inner => exact absurd helement (noList inner)
    | _ => rfl
  · intro inner helement
    rw [hbare, helement]

theorem Evaluator.eval_singlePosition_last :
    let row (a : Value) : Value := .object [("a", a)]
    let inner : List Value := [row (.list [.int 1, .int 2]), row (.int 3)]
    let items : List Value := [.null, .list inner]
    let rest : List Path := [.field "a" none]
    let named := Evaluator.eval {} (.steps (.field "-1" none :: rest)) (.list items) .null
    let bare := Evaluator.eval {} (.steps (.field Path.wildcard (some [.position (-1)]) :: rest))
      (.list items) .null
    int64OfText? "-1" = some (-1) ∧ rest ≠ [] ∧
      named = .ok (.list [.int 1, .int 2, .int 3]) ∧
      bare = .ok (.list [.list [.int 1, .int 2], .int 3]) := by
  intro row inner items rest named bare
  have hkey : int64OfText? "-1" = some (-1) := by decide +kernel
  have further : rest ≠ [] := List.cons_ne_nil _ _
  obtain ⟨hnamed, -, hbare⟩ := Evaluator.eval_singlePosition {} items .null hkey further
  have element : Value.nth items (-1) = .list inner := by decide +kernel
  refine ⟨hkey, further, ?_, ?_⟩
  · rw [element] at hnamed
    exact hnamed
  · exact hbare inner element

/-- The two ways differ on a list in a list: behind the bare position the rest of the path is
evaluated at both numbers of the inner list, behind the integer key at the inner list, which is also
where locating goes. -/
theorem Evaluator.eval_barePosition_ne :
    let bare : Path := .steps [.field "*" (some [.position 0]), .field "0" none]
    let named : Path := .steps [.field "0" none, .field "0" none]
    let document : Value := .list [.list [.int 1, .int 2]]
    Path.parse "[0].0" = .ok bare ∧ Path.parse "0.0" = .ok named ∧
      Evaluator.evaluate {} bare document = .ok (.list [.null, .null]) ∧
      Evaluator.evaluate {} named document = .ok (.int 1) ∧
      Evaluator.locate {} bare document = .ok [[.index 0, .index 0]] ∧
      Evaluator.locate {} named document = .ok [[.index 0, .index 0]] := by
  decide +kernel

end TreeTable
