import TreeTable.Proofs.Value.WellFormed

/-! # Rewriting a document in one pass

Changes say what becomes of the nodes at some addresses. Rewriting goes through a document once
and changes every node whose address has a change, each from what it was in the document. As
long as no address with a change lies at, above or below another, changing one more node of the
rewritten document is the same as rewriting the document with one more change.
-/

namespace TreeTable

/-- What becomes of the nodes at addresses. -/
abbrev Changes := Address → Option (Value → Value)

namespace Changes

/-- The changes behind a step, by what is left of their addresses. -/
def below (changes : Changes) (step : Step) : Changes := fun rest => changes (step :: rest)

/-- No changes. -/
def empty : Changes := fun _ => none

/-- Changes and one more. -/
def add (changes : Changes) (address : Address) (change : Value → Value) : Changes :=
  fun other => if other = address then some change else changes other

theorem below_add (changes : Changes) (step : Step) (rest : Address)
    (change : Value → Value) :
    (changes.add (step :: rest) change).below step = (changes.below step).add rest change := by
  funext other
  simp [below, add]

theorem below_add_of_ne (changes : Changes) {step other : Step} (h : other ≠ step)
    (rest : Address) (change : Value → Value) :
    (changes.add (step :: rest) change).below other = changes.below other := by
  funext address
  simp [below, add, h]

end Changes

namespace Value

mutual

/-- Changes nodes of a tree, all at once. A changed node is made from the node as it was, and
is not gone into. -/
def rewrite (changes : Changes) : Value → Value
  | list items =>
      match changes [] with
      | some change => change (list items)
      | none => list (rewriteItems changes 0 items)
  | object fields =>
      match changes [] with
      | some change => change (object fields)
      | none => object (rewriteFields changes fields)
  | scalar =>
      match changes [] with
      | some change => change scalar
      | none => scalar

/-- Changes elements of a list, from a position on. -/
def rewriteItems (changes : Changes) : Nat → List Value → List Value
  | _, [] => []
  | i, item :: rest =>
      rewrite (changes.below (.index i)) item :: rewriteItems changes (i + 1) rest

def rewriteFields (changes : Changes) : List (String × Value) → List (String × Value)
  | [] => []
  | (key, value) :: rest =>
      (key, rewrite (changes.below (.field key)) value) :: rewriteFields changes rest

end

variable {changes later : Changes}

theorem rewrite_of_some {change : Value → Value} (h : changes [] = some change) (node : Value) :
    node.rewrite changes = change node := by
  cases node <;> simp [rewrite, h]

theorem rewrite_list (h : changes [] = none) (items : List Value) :
    (list items).rewrite changes = list (rewriteItems changes 0 items) := by
  simp [rewrite, h]

theorem rewrite_object (h : changes [] = none) (fields : Fields) :
    (object fields).rewrite changes = object (rewriteFields changes fields) := by
  simp [rewrite, h]

mutual

/-- Without a change a tree stays as it is. -/
theorem rewrite_of_none {changes : Changes} (h : ∀ address, changes address = none) :
    (node : Value) → node.rewrite changes = node
  | list items => by rw [rewrite_list (h []), rewriteItems_of_none h 0 items]
  | object fields => by rw [rewrite_object (h []), rewriteFields_of_none h fields]
  | null | bool _ | int _ | float _ | string _ => by simp [rewrite, h]

theorem rewriteItems_of_none {changes : Changes} (h : ∀ address, changes address = none)
    (i : Nat) : (items : List Value) → rewriteItems changes i items = items
  | [] => by rw [rewriteItems]
  | item :: rest => by
      have inside : ∀ address, changes.below (.index i) address = none := fun _ => h _
      rw [rewriteItems, rewrite_of_none inside item, rewriteItems_of_none h (i + 1) rest]

theorem rewriteFields_of_none {changes : Changes} (h : ∀ address, changes address = none) :
    (fields : List (String × Value)) → rewriteFields changes fields = fields
  | [] => by rw [rewriteFields]
  | (key, value) :: rest => by
      have inside : ∀ address, changes.below (.field key) address = none := fun _ => h _
      rw [rewriteFields, rewrite_of_none inside value, rewriteFields_of_none h rest]

end

theorem rewrite_empty (node : Value) : node.rewrite .empty = node := by
  apply rewrite_of_none
  intro address
  rfl

theorem getElem?_rewriteItems (start : Nat) (items : List Value) (i : Nat) :
    (rewriteItems changes start items)[i]? =
      items[i]?.map (rewrite (changes.below (.index (start + i)))) := by
  induction items generalizing start i with
  | nil => simp [rewriteItems]
  | cons item rest ih =>
      cases i with
      | zero => simp [rewriteItems]
      | succ i =>
          have next : start + 1 + i = start + (i + 1) := by omega
          simp [rewriteItems, ih, next]

theorem get?_rewriteFields (fields : Fields) (key : String) :
    Fields.get? (rewriteFields changes fields) key =
      (Fields.get? fields key).map (rewrite (changes.below (.field key))) := by
  induction fields with
  | nil => simp [rewriteFields]
  | cons field rest ih =>
      obtain ⟨k, v⟩ := field
      rw [rewriteFields, Fields.get?_cons, Fields.get?_cons, ih]
      by_cases h : key = k <;> simp [h]

/-- Rewriting changes only the keys below which there is a change. -/
theorem rewriteFields_congr {fields : Fields}
    (h : ∀ key ∈ fields.keys, later.below (.field key) = changes.below (.field key)) :
    rewriteFields later fields = rewriteFields changes fields := by
  induction fields with
  | nil => simp [rewriteFields]
  | cons field rest ih =>
      obtain ⟨k, v⟩ := field
      rw [rewriteFields, rewriteFields, h k List.mem_cons_self,
        ih fun key hkey => h key (List.mem_cons_of_mem _ hkey)]

/-- A value under a key that is changed later may be put there after rewriting. -/
theorem set_rewriteFields {fields : Fields} {key : String} {child : Value}
    (distinct : fields.keys.Nodup) (hchild : Fields.get? fields key = some child)
    (same : ∀ other, other ≠ key → later.below (.field other) = changes.below (.field other)) :
    Fields.set key (child.rewrite (later.below (.field key))) (rewriteFields changes fields) =
      rewriteFields later fields := by
  induction fields with
  | nil => cases hchild
  | cons field rest ih =>
      obtain ⟨k, v⟩ := field
      rw [Fields.get?_cons] at hchild
      rw [Fields.keys_cons, List.nodup_cons] at distinct
      rw [rewriteFields, rewriteFields, Fields.set]
      by_cases h : key = k
      · subst h
        rw [if_pos rfl] at hchild
        cases hchild
        have others : rewriteFields later rest = rewriteFields changes rest := by
          apply rewriteFields_congr
          intro other hother
          exact same other fun heq => distinct.1 (heq ▸ hother)
        rw [if_pos rfl, others]
      · rw [if_neg h] at hchild
        rw [if_neg (Ne.symm h), ih distinct.2 hchild, same k (Ne.symm h)]

theorem rewriteItems_congr {items : List Value}
    (h : ∀ i < items.length, later.below (.index i) = changes.below (.index i)) :
    rewriteItems later 0 items = rewriteItems changes 0 items := by
  apply List.ext_getElem?
  intro i
  rw [getElem?_rewriteItems, getElem?_rewriteItems, Nat.zero_add]
  by_cases hi : i < items.length
  · rw [h i hi]
  · rw [List.getElem?_eq_none (Nat.le_of_not_lt hi)]
    rfl

theorem set_rewriteItems {items : List Value} {i : Nat} {child : Value}
    (hchild : items[i]? = some child)
    (same : ∀ other, other ≠ i → later.below (.index other) = changes.below (.index other)) :
    (rewriteItems changes 0 items).set i (child.rewrite (later.below (.index i))) =
      rewriteItems later 0 items := by
  apply List.ext_getElem?
  intro j
  rw [List.getElem?_set, getElem?_rewriteItems, getElem?_rewriteItems, Nat.zero_add]
  by_cases h : i = j
  · subst h
    have found : (rewriteItems changes 0 items)[i]? =
        some (child.rewrite (changes.below (.index (0 + i)))) := by
      rw [getElem?_rewriteItems, hchild]
      rfl
    obtain ⟨inside, -⟩ := List.getElem?_eq_some_iff.mp found
    rw [if_pos rfl, if_pos inside, hchild]
    rfl
  · rw [if_neg h, same j (Ne.symm h)]

end Value

open Value

variable {changes later : Changes}

namespace Step

/-- Where nothing is changed at a node, the child behind a step is rewritten by the changes
behind the step. -/
theorem get?_rewrite (h : changes [] = none) (step : Step) (node : Value) :
    step.get? (node.rewrite changes) =
      (step.get? node).map (rewrite (changes.below step)) := by
  cases node with
  | list items =>
      rw [rewrite_list h]
      cases step with
      | field key => rfl
      | index i =>
          rw [get?, getElem?_rewriteItems, Nat.zero_add]
          rfl
  | object fields =>
      rw [rewrite_object h]
      cases step with
      | field key => exact get?_rewriteFields fields key
      | index i => rfl
  | _ => cases step <;> simp [rewrite, h, get?]

/-- Changes that differ behind one step only make no difference to a node without that step. -/
theorem rewrite_congr {step : Step} {node : Value} (h : changes [] = none)
    (hlater : later [] = none)
    (same : ∀ other, other ≠ step → later.below other = changes.below other)
    (noChild : step.get? node = none) : node.rewrite changes = node.rewrite later := by
  cases node with
  | list items =>
      rw [rewrite_list h, rewrite_list hlater]
      congr 1
      symm
      apply rewriteItems_congr
      intro i hi
      apply same
      rintro rfl
      exact absurd (List.getElem?_eq_none_iff.mp noChild) (Nat.not_le_of_lt hi)
  | object fields =>
      rw [rewrite_object h, rewrite_object hlater]
      congr 1
      symm
      apply rewriteFields_congr
      intro key hkey
      apply same
      rintro rfl
      rw [← Fields.get?_isSome_iff] at hkey
      rw [get?] at noChild
      rw [noChild] at hkey
      cases hkey
  | _ => simp [rewrite, h, hlater]

/-- Changes that differ behind one step only are made by rewriting the child behind the step. -/
theorem set_rewrite {step : Step} {node child : Value} (wellFormed : node.WellFormed)
    (h : changes [] = none) (hlater : later [] = none)
    (same : ∀ other, other ≠ step → later.below other = changes.below other)
    (hchild : step.get? node = some child) :
    step.set (child.rewrite (later.below step)) (node.rewrite changes) = node.rewrite later := by
  rcases get?_cases hchild with ⟨i, items, rfl, rfl, hitem⟩ | ⟨key, fields, rfl, rfl, hfield⟩
  · have others : ∀ other, other ≠ i →
        later.below (.index other) = changes.below (.index other) := by
      intro other hother
      exact same (.index other) (by simpa using hother)
    rw [rewrite_list h, rewrite_list hlater, ← set_rewriteItems hitem others]
    rfl
  · have others : ∀ other, other ≠ key →
        later.below (.field other) = changes.below (.field other) := by
      intro other hother
      exact same (.field other) (by simpa using hother)
    rw [rewrite_object h, rewrite_object hlater,
      ← set_rewriteFields wellFormed.1 hfield others]
    rfl

end Step

namespace Address

/-- Whether two addresses lead to nodes of which neither lies in the other. -/
def Apart (first second : Address) : Prop := ¬ first <+: second ∧ ¬ second <+: first

instance (first second : Address) : Decidable (Apart first second) :=
  inferInstanceAs (Decidable (_ ∧ _))

/-- Changing one more node of a rewritten document is rewriting it with one more change, when no
other change lies at the node, above or below it. -/
theorem modify_rewrite {address : Address} {change : Value → Value} {node : Value}
    (wellFormed : node.WellFormed)
    (apart : ∀ other, (changes other).isSome → Apart other address) :
    address.modify change (node.rewrite changes) =
      node.rewrite (changes.add address change) := by
  induction address generalizing changes node with
  | nil =>
      -- Every address lies in the whole document, so nothing else is changed.
      have unchanged : ∀ other, changes other = none := by
        intro other
        rw [← Option.not_isSome_iff_eq_none]
        exact fun h => (apart other h).2 List.nil_prefix
      have here : changes.add [] change [] = some change := rfl
      rw [rewrite_of_none unchanged, rewrite_of_some here, modify]
  | cons step rest ih =>
      have notHere : changes [] = none := by
        rw [← Option.not_isSome_iff_eq_none]
        exact fun h => (apart [] h).1 List.nil_prefix
      have notHereLater : changes.add (step :: rest) change [] = none := notHere
      have same : ∀ other, other ≠ step →
          (changes.add (step :: rest) change).below other = changes.below other :=
        fun other h => changes.below_add_of_ne h rest change
      rw [modify, Step.get?_rewrite notHere]
      cases hchild : step.get? node with
      | none => exact Step.rewrite_congr notHere notHereLater same hchild
      | some child =>
          -- The child is rewritten with one more change; its siblings keep theirs.
          have inside : ∀ other, (changes.below step other).isSome → Apart other rest := by
            intro other hother
            obtain ⟨above, under⟩ := apart (step :: other) hother
            simpa [Apart, List.cons_prefix_cons] using And.intro above under
          have changed := ih (wellFormed.step hchild) inside
          rw [← Changes.below_add] at changed
          simp only [Option.map_some, changed]
          exact Step.set_rewrite wellFormed notHere notHereLater same hchild

/-- A node that lies in no changed one is rewritten by the changes at it and below it. -/
theorem get?_rewrite {address : Address} (node : Value)
    (h : ∀ outer, outer <+: address → outer ≠ address → changes outer = none) :
    address.get? (node.rewrite changes) =
      (address.get? node).map (rewrite fun rest => changes (address ++ rest)) := by
  induction address generalizing changes node with
  | nil => rfl
  | cons step rest ih =>
      have notHere : changes [] = none := h [] List.nil_prefix nofun
      have outside : ∀ outer, outer <+: rest → outer ≠ rest →
          changes.below step outer = none := by
        intro outer hprefix hne
        apply h
        · exact List.cons_prefix_cons.mpr ⟨rfl, hprefix⟩
        · simpa using hne
      rw [get?, get?, Step.get?_rewrite notHere]
      cases step.get? node with
      | none => rfl
      | some child => exact ih child outside

end Address

end TreeTable
