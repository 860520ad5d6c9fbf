import TreeTable.Proofs.Outcome

/-! # Congruences between results

Two runs of one program differ only where what they are given differs. A relation between results
that holds of equal values and is kept when computations are sequenced holds of the two runs as soon
as it holds of the parts in which they differ. Equality is such a relation; so is equality up to
some errors of the first run; and what errors a run may raise is a relation of the run to itself.
-/

namespace TreeTable

open Outcome

/-- A relation between results that is kept when computations are sequenced. -/
structure Congruence (ε : Type) where
  Rel {α : Type} : Except ε α → Except ε α → Prop
  ok {α : Type} (a : α) : Rel (.ok a) (.ok a)
  bind {α β : Type} {x y : Except ε α} {f g : α → Except ε β} :
    Rel x y → (∀ a, Rel (f a) (g a)) → Rel (x >>= f) (y >>= g)

namespace Congruence

variable {ε α β : Type}

/-- Both runs give the same. -/
def equality (ε : Type) : Congruence ε where
  Rel x y := x = y
  ok _ := rfl
  bind hx hf := by rw [hx, funext hf]

/-- Both runs give the same, unless the first fails with one of some errors. -/
def upTo (errors : ε → Prop) : Congruence ε where
  Rel x y := (∃ error, x = .error error ∧ errors error) ∨ x = y
  ok _ := .inr rfl
  bind {α β x y f g} hx hf := by
    rcases hx with ⟨error, rfl, among⟩ | rfl
    · exact .inl ⟨error, rfl, among⟩
    · cases x with
      | error error => exact .inr rfl
      | ok a => exact hf a

/-- Both runs give the same, but for how their errors are told. -/
def retelling (retell : ε → ε) : Congruence ε where
  Rel x y := x = y.mapError retell
  ok _ := rfl
  bind {α β x y f g} hx hf := by
    rw [hx, funext hf]
    cases y <;> rfl

/-- The first run fails with none but some errors. -/
def failures (errors : ε → Prop) : Congruence ε where
  Rel x _ := ∀ error, x = .error error → errors error
  ok _ := nofun
  bind {α β x y f g} hx hf := by
    cases x with
    | error error =>
        rintro _ ⟨⟩
        exact hx error rfl
    | ok a => exact hf a

variable (c : Congruence ε)

theorem map {x y : Except ε α} (h : c.Rel x y) (f : α → β) : c.Rel (x.map f) (y.map f) := by
  have asBind (x : Except ε α) : x.map f = x >>= fun a => .ok (f a) := by cases x <;> rfl
  rw [asBind, asBind]
  exact c.bind h fun a => c.ok (f a)

theorem mapM {f g : α → Except ε β} {items : List α}
    (h : ∀ item ∈ items, c.Rel (f item) (g item)) : c.Rel (items.mapM f) (items.mapM g) := by
  induction items with
  | nil => exact c.ok []
  | cons item rest ih =>
      rw [List.forall_mem_cons] at h
      rw [List.mapM_cons, List.mapM_cons]
      exact c.bind h.1 fun value => c.bind (ih h.2) fun values => c.ok (value :: values)

end Congruence

end TreeTable
