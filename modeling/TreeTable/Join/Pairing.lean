import TreeTable.Value.Basic

/-! # Pairs of records

Records of two lists are paired where their keys agree. A pair is given by the positions of its
records. Pairs are kept in order, by the left position and then by the right one, so that the pairs
of one left record stand together and its matches can be taken from them in one pass.
-/

namespace TreeTable

/-- The positions of a left and a right record. -/
structure RecordPair where
  left : Nat
  right : Nat
  deriving DecidableEq

namespace RecordPair

def Before (first second : RecordPair) : Prop :=
  first.left < second.left ∨ first.left = second.left ∧ first.right < second.right

instance (first second : RecordPair) : Decidable (first.Before second) :=
  inferInstanceAs (Decidable (_ ∨ _))

theorem Before.trans {first second third : RecordPair} (h : first.Before second)
    (h' : second.Before third) : first.Before third := by
  unfold Before at h h' ⊢
  omega

theorem eq_of_not_before {first second : RecordPair} (h : ¬ first.Before second)
    (h' : ¬ second.Before first) : first = second := by
  obtain ⟨left, right⟩ := first
  obtain ⟨left', right'⟩ := second
  simp only [Before, mk.injEq] at h h' ⊢
  omega

/-- Puts a pair in its place among pairs in order, unless it stands there. -/
def insertInto (pair : RecordPair) : List RecordPair → List RecordPair
  | [] => [pair]
  | first :: rest =>
      if pair.Before first then pair :: first :: rest
      else if first.Before pair then first :: insertInto pair rest
      else first :: rest

theorem mem_insertInto {pair other : RecordPair} {pairs : List RecordPair} :
    other ∈ pair.insertInto pairs ↔ other = pair ∨ other ∈ pairs := by
  induction pairs with
  | nil => simp [insertInto]
  | cons first rest ih =>
      rw [insertInto]
      split
      next => exact List.mem_cons
      next hfirst =>
        split
        next =>
          rw [List.mem_cons, ih, List.mem_cons]
          exact or_left_comm
        next hpair =>
          have same := eq_of_not_before hfirst hpair
          simp [same]

theorem pairwise_insertInto {pair : RecordPair} {pairs : List RecordPair}
    (h : pairs.Pairwise Before) : (pair.insertInto pairs).Pairwise Before := by
  induction pairs with
  | nil => exact List.pairwise_singleton Before pair
  | cons first rest ih =>
      obtain ⟨hfirst, hrest⟩ := List.pairwise_cons.mp h
      rw [insertInto]
      split
      next before =>
        rw [List.pairwise_cons]
        refine ⟨fun other hother => ?_, h⟩
        rcases List.mem_cons.mp hother with rfl | hother
        · exact before
        · exact before.trans (hfirst other hother)
      next =>
        split
        next behind =>
          rw [List.pairwise_cons]
          refine ⟨fun other hother => ?_, ih hrest⟩
          rcases mem_insertInto.mp hother with rfl | hother
          · exact behind
          · exact hfirst other hother
        next => exact h

end RecordPair

/-- Pairs of records, each once and in order. -/
structure PairSet where
  pairs : List RecordPair
  ordered : pairs.Pairwise RecordPair.Before

namespace PairSet

def empty : PairSet := ⟨[], .nil⟩

def insert (pair : RecordPair) (set : PairSet) : PairSet :=
  ⟨pair.insertInto set.pairs, RecordPair.pairwise_insertInto set.ordered⟩

def inter (first second : PairSet) : PairSet :=
  ⟨first.pairs.filter (second.pairs.contains ·), first.ordered.filter _⟩

/-- The pairs of all keys that agree. -/
def ofKeys (agree : Value → Value → Bool) (leftKeys rightKeys : List Value) : PairSet :=
  leftKeys.zipIdx.foldl (fun found left =>
    rightKeys.zipIdx.foldl (fun found right =>
      if agree left.1 right.1 then found.insert ⟨left.2, right.2⟩ else found) found) empty

/-- Adds the right record of a pair to the matches of the left one, if these are the last that were
begun, and otherwise begins its matches. The last matches stand first. -/
def collect (rights : List Value) (pending : List (Nat × List Value)) (pair : RecordPair) :
    List (Nat × List Value) :=
  let right := rights[pair.right]?.getD .null
  match pending with
  | (left, matched) :: before =>
      if left = pair.left then (left, matched ++ [right]) :: before
      else (pair.left, [right]) :: pending
  | [] => [(pair.left, [right])]

/-- The left records that have matches, by their positions, with all right records that match. -/
def grouped (set : PairSet) (rights : List Value) : List (Nat × List Value) :=
  (set.pairs.foldl (collect rights) []).reverse

end PairSet

end TreeTable
