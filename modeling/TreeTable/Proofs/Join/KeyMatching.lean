import TreeTable.Proofs.Join.Snapshot
import TreeTable.Proofs.Path.Inheritance

/-! # When records join

Records join when their keys match under every matcher. It does not matter on which side a record
stands, as long as the matchers are turned round with the records, nor in which order the fields in
its keys come.
-/

namespace TreeTable

open Numeric

namespace JoinRule

variable {e : Evaluator} {document left right : Value}

/-- Keys match whichever of the two records is the left one, when the matcher is turned round. -/
theorem keysMatch_swap (wellFormed : document.WellFormed) (first : left.WellFormed)
    (second : right.WellFormed) (matcher : WrittenPath × WrittenPath) :
    keysMatch e document right left matcher.swap = keysMatch e document left right matcher := by
  have leftGives := e.gives_eval Value.hereditary_wellFormed matcher.1.path first wellFormed
  have rightGives := e.gives_eval Value.hereditary_wellFormed matcher.2.path second wellFormed
  rw [keysMatch, keysMatch, Prod.fst_swap, Prod.snd_swap]
  cases hleft : e.eval matcher.1.path left document with
  | error error => cases e.eval matcher.2.path right document <;> rfl
  | ok leftKey =>
      cases hright : e.eval matcher.2.path right document with
      | error error => rfl
      | ok rightKey =>
          dsimp only
          rw [Value.looseEq,
            Value.equals_comm (rightGives rightKey hright) (leftGives leftKey hleft),
            Bool.and_comm (!rightKey.isNull)]
          rfl

theorem all_keysMatch_swap (wellFormed : document.WellFormed) (first : left.WellFormed)
    (second : right.WellFormed) (matchers : List (WrittenPath × WrittenPath)) :
    (matchers.map Prod.swap).all (keysMatch e document right left) =
      matchers.all (keysMatch e document left right) := by
  rw [List.all_map]
  congr 1
  funext matcher
  exact keysMatch_swap wellFormed first second matcher

theorem agree_congr {a b a' b' : Value} (first : a.WellFormed) (second : b.WellFormed)
    (ha : a.Reordered a') (hb : b.Reordered b') : KeyTable.agree a' b' = KeyTable.agree a b := by
  rw [KeyTable.agree, KeyTable.agree, Value.looseEq, Value.looseEq,
    Value.equals_congr ha hb first second, ha.isNull_eq, hb.isNull_eq]

/-- The equality of join keys does not depend on the side. On documents without floats it is the
equality that tells integers from floats, the one that ignores the order of fields and nothing else,
and an equivalence. So keys agree whatever the order of fields in them, and records join on either
side. -/
theorem looseEq_either_side :
    (∀ a b : Value, a.WellFormed → b.WellFormed → a.looseEq b = b.looseEq a) ∧
    (∀ a b : Value.FloatFree, a.1.looseEq b.1 = a.1.strictEq b.1 ∧
      (a.1.looseEq b.1 = true ↔ a.1.Reordered b.1)) ∧
    (Equivalence fun a b : Value.FloatFree => a.1.looseEq b.1 = true) ∧
    (∀ a b a' b' : Value, a.WellFormed → b.WellFormed → a.Reordered a' → b.Reordered b' →
      KeyTable.agree a' b' = KeyTable.agree a b) ∧
    ∀ (e : Evaluator) (matchers : List (WrittenPath × WrittenPath)) (document left right : Value),
      document.WellFormed → left.WellFormed → right.WellFormed →
        (matchers.map Prod.swap).all (keysMatch e document right left) =
          matchers.all (keysMatch e document left right) := by
  refine ⟨fun a b => Value.equals_comm, ?_, Value.looseEq_equivalence, ?_, ?_⟩
  · intro a b
    refine ⟨?_, Value.looseEq_iff_reordered a b⟩
    rw [Bool.eq_iff_iff, Value.looseEq_iff_reordered]
    exact (Value.equals_iff_reordered a.2.1 a.2.2 b.2.2).symm
  · intro a b a' b' first second
    exact agree_congr first second
  · intro e matchers document left right wellFormed first second
    exact all_keysMatch_swap wellFormed first second matchers

theorem looseEq_either_side_records :
    let seven : Value := .float (Binary64.ofInt 7)
    let key : Value := .object [("id", .int 7), ("zones", .list [.null, .string "n"])]
    let other : Value := .object [("zones", .list [.null, .string "n"]), ("id", .int 7)]
    let rough : Value := .object [("zones", .list [.null, .string "n"]), ("id", seven)]
    let order : Value := .object [("client", key)]
    let person : Value := .object [("name", .null), ("who", rough)]
    let matchers : List (WrittenPath × WrittenPath) := [
      (⟨"client", .field "client" none⟩, ⟨"who", .field "who" none⟩)]
    key.WellFormed ∧ rough.WellFormed ∧ order.WellFormed ∧ person.WellFormed ∧
      key.Reordered other ∧ key.looseEq rough = true ∧ rough.looseEq key = true ∧
      KeyTable.agree other rough = true ∧
      matchers.all (keysMatch {} order order person) = true ∧
      (matchers.map Prod.swap).all (keysMatch {} order person order) = true := by
  intro seven key other rough order person matchers
  have keyWellFormed : key.WellFormed := by
    simp [key, Value.WellFormed, Value.WellFormedItems, Value.WellFormedFields, Fields.keys]
  have roughWellFormed : rough.WellFormed := by
    simp [rough, seven, Value.WellFormed, Value.WellFormedItems, Value.WellFormedFields,
      Fields.keys]
  have orderWellFormed : order.WellFormed := ⟨by decide, keyWellFormed, trivial⟩
  have personWellFormed : person.WellFormed := ⟨by decide, trivial, roughWellFormed, trivial⟩
  have reordered : key.Reordered other := by
    apply Value.reordered_of_get? keyWellFormed.1 (by decide)
    intro name
    by_cases h : name = "id" <;> simp [Fields.get?_cons, h]
  have equal : key.looseEq rough = true := by decide +kernel
  have joins : matchers.all (keysMatch {} order order person) = true := by decide +kernel
  obtain ⟨symmetric, -, -, congruent, swapped⟩ := looseEq_either_side
  have back := symmetric key rough keyWellFormed roughWellFormed
  have agrees := congruent key rough other rough keyWellFormed roughWellFormed reordered
    (.refl rough)
  have turned := swapped {} matchers order order person orderWellFormed orderWellFormed
    personWellFormed
  exact ⟨keyWellFormed, roughWellFormed, orderWellFormed, personWellFormed, reordered, equal,
    back.symm.trans equal, agrees.trans (by decide +kernel), joins, turned.trans joins⟩

end JoinRule

end TreeTable
