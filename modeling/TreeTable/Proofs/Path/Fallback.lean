import TreeTable.Proofs.Path.Leaves

/-! # The alternative that is chosen

Evaluating takes the first branch whose value is not null, locating the first that leads anywhere.
The two are the same branch unless one before it leads to nothing but nulls: its value is null and
is passed over, but its addresses are taken.
-/

namespace TreeTable

open Outcome

namespace Path

variable {α : Type}

/-- The first result that is wanted among those of several branches. -/
def firstWanted (wanted : α → Bool) (nothing : α) (run : Path → Except EvalError α) :
    List Path → Except EvalError α
  | [] => .ok nothing
  | branch :: rest => do
      let result ← run branch
      if wanted result then return result else firstWanted wanted nothing run rest

theorem evalAny_eq_firstWanted (resolve : Resolver) (branches : List Path) (node : Value) :
    evalAny resolve branches node =
      firstWanted (!·.isNull) .null (fun branch => branch.eval resolve node) branches := by
  induction branches with
  | nil => rw [evalAny, firstWanted]
  | cons branch rest ih =>
      rw [evalAny, firstWanted, ih]
      cases branch.eval resolve node with
      | error error => rfl
      | ok value => cases h : value.isNull <;> simp [h]

theorem locateAny_eq_firstWanted (resolve : Resolver) (find : AddressResolver) (root : Value)
    (branches : List Path) (here : Address) :
    locateAny resolve find root branches here =
      firstWanted (!·.isEmpty) [] (fun branch => branch.locate resolve find root here)
        branches := by
  induction branches with
  | nil => rw [locateAny, firstWanted]
  | cons branch rest ih =>
      rw [locateAny, firstWanted, ih]
      cases branch.locate resolve find root here with
      | error error => rfl
      | ok found => cases found.isEmpty <;> simp

/-- Whether no branch fails and none gives anything that is wanted. -/
def Unwanted (wanted : α → Bool) (run : Path → Except EvalError α) (branches : List Path) :
    Prop :=
  ∀ branch ∈ branches, ∃ result, run branch = .ok result ∧ wanted result = false

variable {wanted : α → Bool} {nothing : α} {run : Path → Except EvalError α}

/-- Branches that give nothing that is wanted are passed over. -/
theorem firstWanted_append {before : List Path} (h : Unwanted wanted run before)
    (rest : List Path) :
    firstWanted wanted nothing run (before ++ rest) = firstWanted wanted nothing run rest := by
  induction before with
  | nil => rfl
  | cons branch before ih =>
      rw [Unwanted, List.forall_mem_cons] at h
      obtain ⟨⟨result, hresult, unwanted⟩, h⟩ := h
      rw [List.cons_append, firstWanted, hresult, ok_bind, unwanted, if_neg Bool.false_ne_true]
      exact ih h

/-- The first branch that gives what is wanted is chosen. -/
theorem firstWanted_eq_ok {before : List Path} {chosen : Path} {result : α}
    (h : Unwanted wanted run before) (hchosen : run chosen = .ok result)
    (hwanted : wanted result = true) (after : List Path) :
    firstWanted wanted nothing run (before ++ chosen :: after) = .ok result := by
  rw [firstWanted_append h, firstWanted, hchosen, ok_bind, if_pos hwanted]
  rfl

/-- What is chosen is the first result that is wanted, if there is any. -/
theorem firstWanted_cases {branches : List Path} {result : α}
    (h : firstWanted wanted nothing run branches = .ok result) :
    result = nothing ∧ Unwanted wanted run branches ∨
      wanted result = true ∧ ∃ before chosen after, branches = before ++ chosen :: after ∧
        Unwanted wanted run before ∧ run chosen = .ok result := by
  induction branches with
  | nil =>
      cases h
      exact .inl ⟨rfl, nofun⟩
  | cons branch rest ih =>
      rw [firstWanted, bind_eq_ok_iff] at h
      obtain ⟨first, hfirst, h⟩ := h
      cases hwanted : wanted first with
      | true =>
          rw [if_pos hwanted] at h
          cases h
          exact .inr ⟨hwanted, [], branch, rest, rfl, nofun, hfirst⟩
      | false =>
          have passed : ∃ result, run branch = .ok result ∧ wanted result = false :=
            ⟨first, hfirst, hwanted⟩
          rw [hwanted, if_neg Bool.false_ne_true] at h
          rcases ih h with
            ⟨rfl, unwanted⟩ | ⟨found, before, chosen, after, rfl, unwanted, hchosen⟩
          · exact .inl ⟨rfl, List.forall_mem_cons.mpr ⟨passed, unwanted⟩⟩
          · exact .inr ⟨found, branch :: before, chosen, after, rfl,
              List.forall_mem_cons.mpr ⟨passed, unwanted⟩, hchosen⟩

/-- If no branch fails, something is chosen or there is nothing to choose. -/
theorem exists_firstWanted (wanted : α → Bool) (nothing : α) {branches : List Path}
    (succeeds : ∀ branch ∈ branches, ∃ result, run branch = .ok result) :
    ∃ result, firstWanted wanted nothing run branches = .ok result := by
  induction branches with
  | nil => exact ⟨nothing, rfl⟩
  | cons branch rest ih =>
      rw [List.forall_mem_cons] at succeeds
      obtain ⟨⟨first, hfirst⟩, succeeds⟩ := succeeds
      rw [firstWanted, hfirst, ok_bind]
      split
      next => exact ⟨first, rfl⟩
      next => exact ih succeeds

end Path

namespace Evaluator

variable {e : Evaluator} {document : Value}

theorem evaluate_any (branches : List Path) :
    e.evaluate (.any branches) document =
      Path.firstWanted (!·.isNull) .null (fun branch => e.evaluate branch document)
        branches := by
  rw [evaluate, eval, Path.eval]
  exact Path.evalAny_eq_firstWanted _ branches document

theorem locate_any (branches : List Path) :
    e.locate (.any branches) document =
      Path.firstWanted (!·.isEmpty) [] (fun branch => e.locate branch document) branches := by
  rw [locate, Path.locate]
  exact Path.locateAny_eq_firstWanted _ _ document branches []

/-- The leaves of the nodes at addresses. -/
def leavesAt (document : Value) (found : List Address) : List Value :=
  Value.leavesOf (found.filterMap fun address => address.get? document)

/-- What is evaluated and what is located at a path have the same leaves. -/
def Agree (e : Evaluator) (document : Value) (path : Path) : Prop :=
  ∃ value found, e.evaluate path document = .ok value ∧ e.locate path document = .ok found ∧
    leavesAt document found = value.leaves

theorem agree_of_isPlain {path : Path} (plain : path.isPlain = true)
    (wellFormed : document.WellFormed) : e.Agree document path := by
  obtain ⟨value, found, hvalue, hfound, hleaves⟩ := Path.leaves_eval_eq_locate
    (Path.resolveWithin e.limit document e.limit) (Path.findWithin e.limit document e.limit)
    plain wellFormed (rfl : Address.get? [] document = some document)
  rw [← Address.leavesOf_filterMap] at hleaves
  exact ⟨value, found, hvalue, hfound, hleaves.symm⟩

/-- Branches that lead nowhere are passed over for one whose value has leaves. -/
theorem locate_any_of_nowhere {before : List Path} {chosen : Path} {value : Value}
    (nowhere : ∀ branch ∈ before, e.locate branch document = .ok [])
    (agree : e.Agree document chosen) (hvalue : e.evaluate chosen document = .ok value)
    (leafy : value.leaves ≠ []) (after : List Path) :
    ∃ found, e.locate (.any (before ++ chosen :: after)) document = .ok found ∧
      e.locate chosen document = .ok found ∧ leavesAt document found = value.leaves := by
  obtain ⟨other, found, hother, hfound, hleaves⟩ := agree
  obtain rfl := Except.ok.inj (hvalue.symm.trans hother)
  refine ⟨found, ?_, hfound, hleaves⟩
  have leads : (!found.isEmpty) = true := by
    cases found with
    | nil => exact absurd hleaves.symm leafy
    | cons address rest => rfl
  rw [locate_any]
  exact Path.firstWanted_eq_ok (fun branch hbranch => ⟨[], nowhere branch hbranch, rfl⟩) hfound
    leads after

/-- Locating ends at the first branch that leads anywhere, with no leaves if its value is null. -/
theorem locate_any_of_null {before : List Path}
    (agree : ∀ branch ∈ before, e.Agree document branch)
    (null : ∀ branch ∈ before, e.evaluate branch document = .ok .null)
    (leads : ∃ branch ∈ before, e.locate branch document ≠ .ok []) (rest : List Path) :
    ∃ found, e.locate (.any (before ++ rest)) document = .ok found ∧
      leavesAt document found = [] := by
  have locates : ∀ branch ∈ before, ∃ found, e.locate branch document = .ok found := by
    intro branch hbranch
    obtain ⟨-, found, -, hfound, -⟩ := agree branch hbranch
    exact ⟨found, hfound⟩
  obtain ⟨found, hfound⟩ := Path.exists_firstWanted (!·.isEmpty) [] locates
  rcases Path.firstWanted_cases hfound with
    ⟨-, nowhere⟩ | ⟨wanted, passed, chosen, others, rfl, nowhere, hchosen⟩
  · obtain ⟨branch, hbranch, somewhere⟩ := leads
    obtain ⟨none, hnone, empty⟩ := nowhere branch hbranch
    obtain rfl : none = [] := by simpa using empty
    exact absurd hnone somewhere
  · have among : chosen ∈ passed ++ chosen :: others :=
      List.mem_append_right _ List.mem_cons_self
    obtain ⟨value, same, hvalue, hsame, hleaves⟩ := agree chosen among
    obtain rfl := Except.ok.inj (hchosen.symm.trans hsame)
    obtain rfl := Except.ok.inj (hvalue.symm.trans (null chosen among))
    refine ⟨found, ?_, hleaves.trans Value.leaves_null⟩
    rw [locate_any, List.append_assoc, List.cons_append]
    exact Path.firstWanted_eq_ok nowhere hchosen wanted _

/-- Of plain branches, evaluating chooses the first whose value is not null, and locating the first
that leads anywhere. If the value has leaves and no branch before the chosen one leads anywhere,
that is the same branch and the same leaves; but a branch whose value is null may lead somewhere,
and then locating ends there and finds no leaf at all. -/
theorem leaves_locate_any (e : Evaluator) {branches : List Path}
    (plain : ∀ branch ∈ branches, branch.isPlain = true) {document : Value}
    (wellFormed : document.WellFormed) :
    ∃ value found, e.evaluate (.any branches) document = .ok value ∧
      e.locate (.any branches) document = .ok found ∧
      (value.leaves ≠ [] → ∃ before chosen after, branches = before ++ chosen :: after ∧
        (∀ branch ∈ before, e.evaluate branch document = .ok .null) ∧
        e.evaluate chosen document = .ok value ∧
        ((∀ branch ∈ before, e.locate branch document = .ok []) →
          e.locate chosen document = .ok found ∧ leavesAt document found = value.leaves) ∧
        ((∃ branch ∈ before, e.locate branch document ≠ .ok []) →
          leavesAt document found = [])) := by
  have agree : ∀ branch ∈ branches, e.Agree document branch :=
    fun branch hbranch => agree_of_isPlain (plain branch hbranch) wellFormed
  have evaluates : ∀ branch ∈ branches, ∃ value, e.evaluate branch document = .ok value := by
    intro branch hbranch
    obtain ⟨value, -, hvalue, -⟩ := agree branch hbranch
    exact ⟨value, hvalue⟩
  have locates : ∀ branch ∈ branches, ∃ found, e.locate branch document = .ok found := by
    intro branch hbranch
    obtain ⟨-, found, -, hfound, -⟩ := agree branch hbranch
    exact ⟨found, hfound⟩
  obtain ⟨value, hvalue⟩ := Path.exists_firstWanted (!·.isNull) .null evaluates
  obtain ⟨found, hfound⟩ := Path.exists_firstWanted (!·.isEmpty) [] locates
  rw [← locate_any] at hfound
  refine ⟨value, found, (evaluate_any branches).trans hvalue, hfound, ?_⟩
  intro leafy
  rcases Path.firstWanted_cases hvalue with
    ⟨rfl, -⟩ | ⟨-, before, chosen, after, rfl, unwanted, hchosen⟩
  · exact absurd Value.leaves_null leafy
  · have null : ∀ branch ∈ before, e.evaluate branch document = .ok .null := by
      intro branch hbranch
      obtain ⟨passed, hpassed, isNull⟩ := unwanted branch hbranch
      cases passed with
      | null => exact hpassed
      | _ => cases isNull
    rw [List.forall_mem_append, List.forall_mem_cons] at agree
    refine ⟨before, chosen, after, rfl, null, hchosen, ?_, ?_⟩
    · intro nowhere
      obtain ⟨same, hsame, located⟩ :=
        locate_any_of_nowhere nowhere agree.2.1 hchosen leafy after
      obtain rfl := Except.ok.inj (hfound.symm.trans hsame)
      exact located
    · intro leads
      obtain ⟨same, hsame, nothing⟩ := locate_any_of_null agree.1 null leads (chosen :: after)
      obtain rfl := Except.ok.inj (hfound.symm.trans hsame)
      exact nothing

theorem leaves_locate_any_passed :
    let branches : List Path := [.field "missing" none,
      .steps [.field "a" none, .field "x" none], .field "b" none]
    let document : Value := .object [("a", .list [.object [("x", .null)]]),
      ("b", .list [.int 1, .null])]
    let value : Value := .list [.int 1, .null]
    let found : List Address := [[.field "a", .index 0, .field "x"]]
    (∀ branch ∈ branches, branch.isPlain = true) ∧ document.WellFormed ∧
      evaluate {} (.any branches) document = .ok value ∧ value.leaves = [.int 1] ∧
      locate {} (.any branches) document = .ok found ∧ leavesAt document found = [] ∧
      ∃ before chosen after, branches = before ++ chosen :: after ∧
        evaluate {} chosen document = .ok value ∧
        ∃ branch ∈ before, evaluate {} branch document = .ok .null ∧
          locate {} branch document ≠ .ok [] := by
  intro branches document value found
  have plain : ∀ branch ∈ branches, branch.isPlain = true := by decide
  have wellFormed : document.WellFormed := by
    simp [document, Value.WellFormed, Value.WellFormedItems, Value.WellFormedFields, Fields.keys]
  have hvalue : evaluate {} (.any branches) document = .ok value := by rfl
  have hfound : locate {} (.any branches) document = .ok found := by rfl
  have leaves : value.leaves = [.int 1] := by decide +kernel
  have nothing : leavesAt document found = [] := by decide +kernel
  obtain ⟨other, addresses, hother, haddresses, chosen⟩ := leaves_locate_any {} plain wellFormed
  obtain rfl := Except.ok.inj (hvalue.symm.trans hother)
  obtain rfl := Except.ok.inj (hfound.symm.trans haddresses)
  obtain ⟨before, chosen, after, split, null, hchosen, same, -⟩ := chosen (by simp [leaves])
  refine ⟨plain, wellFormed, hvalue, leaves, hfound, nothing, before, chosen, after, split,
    hchosen, ?_⟩
  by_contra nowhere
  have located := (same fun branch hbranch => ?_).2
  · rw [nothing, leaves] at located
    cases located
  · by_contra leads
    exact nowhere ⟨branch, hbranch, null branch hbranch, leads⟩

/-- Evaluating passes over a field that holds null, and locating ends there: the leaves are those of
the second field in the one case, and none in the other. -/
theorem leavesAt_locate_any_ne :
    let path : Path := .any [.field "a" none, .field "b" none]
    let document : Value := .object [("a", .null), ("b", .int 1)]
    Path.parse "a|b" = .ok path ∧ evaluate {} path document = .ok (.int 1) ∧
      (Value.int 1).leaves = [.int 1] ∧ locate {} path document = .ok [[.field "a"]] ∧
      leavesAt document [[.field "a"]] = [] := by
  decide +kernel

end Evaluator

end TreeTable
