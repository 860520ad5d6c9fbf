import TreeTable.Json.Reader
import TreeTable.Proofs.Json.Numbers
import TreeTable.Proofs.Value.Objects

/-! # Documents that are read

What a document has as soon as its nodes have it is a property of every document that is read from a
text, if the numbers which are read have it. So the keys in each object of such a document are
distinct, and all floats in it are numbers.
-/

namespace TreeTable

open Outcome

namespace Json

section Yields

variable (holds : Value → Prop)

/-- A tree denotes nothing but documents with a property. -/
def Tree.Yields (tree : Tree) : Prop :=
  ∀ value, tree.toValue = .ok value → holds value

def Items.Yields (items : Items) : Prop :=
  ∀ values, items.toValues = .ok values → ∀ value ∈ values, holds value

def Entries.Yields (entries : Entries) : Prop :=
  ∀ before after, entries.toFields before = .ok after → holds (.object before) →
    holds (.object after)

variable {holds} {allowed : List String → Prop}

theorem Tree.yields_broken (error : Error) : (Tree.broken error).Yields holds := by
  intro value h
  cases h

theorem Items.yields_closed : Items.closed.Yields holds := by
  intro values h
  cases h
  exact List.forall_mem_nil holds

theorem Items.yields_broken (error : Error) (pastComma : Bool) :
    (Items.broken error pastComma).Yields holds := by
  intro values h
  cases h

theorem Items.yields_cons {item : Tree} {rest : Items} (hitem : item.Yields holds)
    (hrest : rest.Yields holds) : (Items.cons item rest).Yields holds := by
  intro values h
  rw [Items.toValues, bind_eq_ok_iff] at h
  obtain ⟨value, hvalue, h⟩ := h
  obtain ⟨others, hothers, h⟩ := bind_eq_ok_iff.mp h
  cases h
  exact List.forall_mem_cons.mpr ⟨hitem value hvalue, hrest others hothers⟩

theorem Entries.yields_closed : Entries.closed.Yields holds := by
  intro before after h kept
  cases h
  exact kept

theorem Entries.yields_broken (error : Error) : (Entries.broken error).Yields holds := by
  intro before after h
  cases h

variable (hereditary : Value.Hereditary holds allowed)

include hereditary

theorem Entries.yields_cons {key : String} {value : Tree} {rest : Entries}
    (hvalue : value.Yields holds) (hrest : rest.Yields holds) :
    (Entries.cons key value rest).Yields holds := by
  intro before after h kept
  rw [Entries.toFields, bind_eq_ok_iff] at h
  obtain ⟨node, hnode, h⟩ := h
  exact hrest _ _ h (hereditary.insert_object kept key (hvalue node hnode))

theorem Items.Yields.list {items : Items} (h : items.Yields holds) :
    (Tree.list items).Yields holds := by
  intro value hvalue
  rw [Tree.toValue, map_eq_ok_iff] at hvalue
  obtain ⟨values, hvalues, rfl⟩ := hvalue
  exact (hereditary.list_iff values).mpr (h values hvalues)

theorem Entries.Yields.object {entries : Entries} (h : entries.Yields holds) :
    (Tree.object entries).Yields holds := by
  intro value hvalue
  rw [Tree.toValue, map_eq_ok_iff] at hvalue
  obtain ⟨fields, hfields, rfl⟩ := hvalue
  have empty : holds (.object []) :=
    (hereditary.object_iff []).mpr ⟨hereditary.empty, List.forall_mem_nil _⟩
  exact h [] fields hfields empty

omit hereditary in
theorem yields_leaf {α : Type} {read : Except Error α} {part : α → Tree × List Char}
    (h : ∀ result, read = .ok result →
      ∃ value, (part result).1.toValue = .ok value ∧ holds value) :
    (leaf (read.map part)).1.Yields holds := by
  cases read with
  | error error => exact Tree.yields_broken error
  | ok result =>
      intro value hvalue
      obtain ⟨denoted, hdenoted, hholds⟩ := h result rfl
      obtain rfl : value = denoted := Except.ok.inj (hvalue.symm.trans hdenoted)
      exact hholds

/-- What is read with some fuel has a property. -/
structure Reading (holds : Value → Prop) (fuel : Nat) : Prop where
  tree : ∀ depth cs, (readTree fuel depth cs).1.Yields holds
  items : ∀ depth cs, (readItems fuel depth cs).1.Yields holds
  entries : ∀ depth cs, (readEntries fuel depth cs).1.Yields holds

variable (numbers : ∀ cs number rest, readNumber cs = .ok (number, rest) → holds number.toValue)

include numbers

theorem Reading.tree_succ {fuel : Nat} (reading : Reading holds fuel) (depth : Nat)
    (cs : List Char) : (readTree (fuel + 1) depth cs).1.Yields holds := by
  rw [readTree.eq_def]
  dsimp only
  split
  · exact Tree.yields_broken _
  · exact yields_leaf fun _ _ => ⟨_, rfl, hereditary.string _⟩
  · exact yields_leaf fun _ _ => ⟨_, rfl, hereditary.null⟩
  · exact yields_leaf fun _ _ => ⟨_, rfl, hereditary.bool true⟩
  · exact yields_leaf fun _ _ => ⟨_, rfl, hereditary.bool false⟩
  · split
    · exact (Items.yields_broken _ _).list hereditary
    · split
      · exact (Items.yields_broken _ _).list hereditary
      · exact Items.yields_closed.list hereditary
      · exact (reading.items _ _).list hereditary
  · split
    · exact (Entries.yields_broken _).object hereditary
    · split
      · exact (Entries.yields_broken _).object hereditary
      · exact Entries.yields_closed.object hereditary
      · exact (reading.entries _ _).object hereditary
  · split
    · exact yields_leaf fun _ hread => ⟨_, rfl, numbers _ _ _ hread⟩
    · exact Tree.yields_broken _

omit hereditary numbers in
theorem Reading.items_succ {fuel : Nat} (reading : Reading holds fuel) (depth : Nat)
    (cs : List Char) : (readItems (fuel + 1) depth cs).1.Yields holds := by
  have hitem := reading.tree depth cs
  rw [readItems.eq_def]
  dsimp only
  split
  next item read =>
    rw [read] at hitem
    exact Items.yields_cons hitem (Items.yields_broken _ _)
  next item rest read =>
    rw [read] at hitem
    split
    · exact Items.yields_cons hitem (Items.yields_broken _ _)
    · exact Items.yields_cons hitem Items.yields_closed
    · split
      · exact Items.yields_cons hitem (Items.yields_broken _ _)
      · exact Items.yields_cons hitem (Items.yields_broken _ _)
      · exact Items.yields_cons hitem (reading.items _ _)
    · exact Items.yields_cons hitem (Items.yields_broken _ _)

omit numbers in
theorem Reading.entries_succ {fuel : Nat} (reading : Reading holds fuel) (depth : Nat)
    (cs : List Char) : (readEntries (fuel + 1) depth cs).1.Yields holds := by
  have broken (error : Error) : (Tree.broken error).Yields holds := Tree.yields_broken error
  rw [readEntries.eq_def]
  dsimp only
  split
  · exact Entries.yields_broken _
  · split
    · exact Entries.yields_broken _
    · split
      · exact Entries.yields_cons hereditary (broken _) Entries.yields_closed
      next after _ =>
        have hvalue := reading.tree depth after
        split
        next value read =>
          rw [read] at hvalue
          exact Entries.yields_cons hereditary hvalue (Entries.yields_broken _)
        next value rest read =>
          rw [read] at hvalue
          split
          · exact Entries.yields_cons hereditary hvalue (Entries.yields_broken _)
          · exact Entries.yields_cons hereditary hvalue Entries.yields_closed
          · exact Entries.yields_cons hereditary hvalue (reading.entries _ _)
          · exact Entries.yields_cons hereditary hvalue (Entries.yields_broken _)
      · exact Entries.yields_cons hereditary (broken _) Entries.yields_closed
  · exact Entries.yields_broken _

theorem reading (fuel : Nat) : Reading holds fuel := by
  induction fuel with
  | zero =>
      refine ⟨?_, ?_, ?_⟩
      · intro depth cs
        exact Tree.yields_broken _
      · intro depth cs
        exact Items.yields_broken _ _
      · intro depth cs
        exact Entries.yields_broken _
  | succ fuel ih =>
      exact ⟨ih.tree_succ hereditary numbers, ih.items_succ, ih.entries_succ hereditary⟩

/-- A document that is read from a text has a property that the numbers which are read have. -/
theorem holds_of_ofJson {text : String} {document : Value} (h : Value.ofJson text = .ok document) :
    holds document := by
  rw [Value.ofJson, Source.decode, bind_eq_ok_iff] at h
  obtain ⟨value, hvalue, h⟩ := h
  have read := (reading hereditary numbers (2 * text.toList.length + 2)).tree 127 text.toList
  split at h
  · cases h
  · cases h
    rw [Source.ofText.eq_def] at hvalue
    dsimp only at hvalue
    split at hvalue
    next tree heq =>
      rw [heq] at read
      exact read _ hvalue
    next tree rest heq =>
      rw [heq] at read
      exact read _ hvalue

end Yields

end Json

/-- A document that is read from a text has distinct keys in each of its objects. -/
theorem Value.wellFormed_of_ofJson {text : String} {document : Value}
    (h : Value.ofJson text = .ok document) : document.WellFormed := by
  refine Json.holds_of_ofJson hereditary_wellFormed ?_ h
  intro cs number rest _
  cases number with
  | whole i =>
      rw [Json.Number.toValue]
      split <;> trivial
  | float x => trivial

/-- All floats in a document that is read from a text are numbers. -/
theorem Value.nanFree_of_ofJson {text : String} {document : Value}
    (h : Value.ofJson text = .ok document) : document.nanFree = true := by
  refine Json.holds_of_ofJson hereditary_nanFree ?_ h
  intro cs number rest read
  exact Json.Number.nanFree_toValue (Json.isNaN_of_readNumber read)

end TreeTable
