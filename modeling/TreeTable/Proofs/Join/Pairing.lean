import Mathlib.Data.List.Sort
import TreeTable.Join.Pairing

/-! # What sets of pairs hold

A set of pairs is determined by its members, since its pairs stand in order. So it does not matter
in which order pairs have been found, and the pass that gathers the matches of one left record after
another finds all of them.
-/

namespace TreeTable

namespace RecordPair

instance : Std.Irrefl Before := ⟨fun pair h => by
  unfold Before at h
  omega⟩

instance : Std.Antisymm Before := ⟨fun first second h h' => by
  unfold Before at h h'
  omega⟩

end RecordPair

namespace PairSet

variable {pair : RecordPair} {set : PairSet} {rights : List Value}

theorem mem_insert {other : RecordPair} :
    other ∈ (set.insert pair).pairs ↔ other = pair ∨ other ∈ set.pairs :=
  RecordPair.mem_insertInto

theorem mem_inter {other : PairSet} :
    pair ∈ (set.inter other).pairs ↔ pair ∈ set.pairs ∧ pair ∈ other.pairs := by
  simp [inter]

/-- What is found in many steps is what any of them adds. -/
theorem mem_foldl {α : Type} {step : PairSet → α → PairSet} {adds : α → Prop}
    (h : ∀ found a, pair ∈ (step found a).pairs ↔ pair ∈ found.pairs ∨ adds a) (steps : List α)
    (found : PairSet) :
    pair ∈ (steps.foldl step found).pairs ↔ pair ∈ found.pairs ∨ ∃ a ∈ steps, adds a := by
  induction steps generalizing found with
  | nil => simp
  | cons a rest ih => rw [List.foldl_cons, ih, h, or_assoc, List.exists_mem_cons_iff]

/-- All records whose keys agree are paired, and no others. -/
theorem mem_ofKeys {agree : Value → Value → Bool} {leftKeys rightKeys : List Value} :
    pair ∈ (ofKeys agree leftKeys rightKeys).pairs ↔
      ∃ leftKey rightKey, leftKeys[pair.left]? = some leftKey ∧
        rightKeys[pair.right]? = some rightKey ∧ agree leftKey rightKey = true := by
  have row (left : Value × Nat) (found : PairSet) :
      pair ∈ (rightKeys.zipIdx.foldl (fun found right =>
        if agree left.1 right.1 then found.insert ⟨left.2, right.2⟩ else found) found).pairs ↔
        pair ∈ found.pairs ∨ ∃ right ∈ rightKeys.zipIdx,
          agree left.1 right.1 = true ∧ pair = ⟨left.2, right.2⟩ := by
    apply mem_foldl
    intro found right
    split
    next h => rw [mem_insert, or_comm, and_iff_right h]
    next h => simp [h]
  rw [ofKeys, mem_foldl fun found left => row left found]
  constructor
  · rintro (h | ⟨left, hleft, right, hright, h, rfl⟩)
    · cases h
    · exact ⟨left.1, right.1, List.mem_zipIdx_iff_getElem?.mp hleft,
        List.mem_zipIdx_iff_getElem?.mp hright, h⟩
  · rintro ⟨leftKey, rightKey, hleft, hright, h⟩
    exact .inr ⟨(leftKey, pair.left), List.mem_zipIdx_iff_getElem?.mpr hleft,
      (rightKey, pair.right), List.mem_zipIdx_iff_getElem?.mpr hright, h, rfl⟩

/-- The positions of the right records, of the first so many, that are paired with a left one. -/
def partners (set : PairSet) (count left : Nat) : List Nat :=
  (List.range count).filter fun right => decide (⟨left, right⟩ ∈ set.pairs)

/-- The pairs of a set are those of one left record after another. -/
theorem pairs_eq_flatMap {count count' : Nat}
    (inside : ∀ pair ∈ set.pairs, pair.left < count ∧ pair.right < count') :
    set.pairs = (List.range count).flatMap fun left =>
      (set.partners count' left).map (RecordPair.mk left) := by
  apply set.ordered.eq_of_mem_iff
  · rw [List.pairwise_flatMap]
    constructor
    · intro left _
      rw [List.pairwise_map]
      apply List.Pairwise.filter
      exact List.pairwise_lt_range.imp fun h => .inr ⟨rfl, h⟩
    · refine List.pairwise_lt_range.imp fun h first hfirst second hsecond => ?_
      obtain ⟨right, -, rfl⟩ := List.mem_map.mp hfirst
      obtain ⟨right', -, rfl⟩ := List.mem_map.mp hsecond
      exact .inl h
  · intro pair
    simp only [partners, List.mem_flatMap, List.mem_map, List.mem_filter, List.mem_range,
      decide_eq_true_iff]
    constructor
    · intro h
      obtain ⟨hleft, hright⟩ := inside pair h
      exact ⟨pair.left, hleft, pair.right, ⟨hright, h⟩, rfl⟩
    · rintro ⟨left, -, right, ⟨-, h⟩, rfl⟩
      exact h

/-- The record at a position of the right ones. -/
def recordAt (rights : List Value) (right : Nat) : Value := rights[right]?.getD .null

/-- Further right records of the left one that was begun last join its matches. -/
theorem foldl_collect_last (left : Nat) (others : List Nat) (matched : List Value)
    (pending : List (Nat × List Value)) :
    (others.map (RecordPair.mk left)).foldl (collect rights) ((left, matched) :: pending) =
      (left, matched ++ others.map (recordAt rights)) :: pending := by
  induction others generalizing matched with
  | nil => simp
  | cons right rest ih =>
      rw [List.map_cons, List.foldl_cons, collect, if_pos rfl, ih, List.append_assoc]
      rfl

/-- The right records of a left one that was not begun yet become its matches. -/
theorem foldl_collect_next {left : Nat} {pending : List (Nat × List Value)}
    (fresh : ∀ group ∈ pending.head?, group.1 ≠ left) (others : List Nat) :
    (others.map (RecordPair.mk left)).foldl (collect rights) pending =
      if others.isEmpty then pending else (left, others.map (recordAt rights)) :: pending := by
  cases others with
  | nil => rfl
  | cons right rest =>
      have begun : collect rights pending ⟨left, right⟩ =
          (left, [recordAt rights right]) :: pending := by
        cases pending with
        | nil => rfl
        | cons group before => exact if_neg (fresh group rfl)
      rw [List.map_cons, List.foldl_cons, begun, foldl_collect_last]
      rfl

/-- The pass over the pairs of left records gathers the matches of those that have any. -/
theorem foldl_collect_flatMap {lefts : List Nat} {others : Nat → List Nat}
    {pending : List (Nat × List Value)} (distinct : lefts.Nodup)
    (fresh : ∀ group ∈ pending.head?, group.1 ∉ lefts) :
    (lefts.flatMap fun left => (others left).map (RecordPair.mk left)).foldl (collect rights)
        pending =
      ((lefts.filter fun left => !(others left).isEmpty).map fun left =>
        (left, (others left).map (recordAt rights))).reverse ++ pending := by
  induction lefts generalizing pending with
  | nil => rfl
  | cons left rest ih =>
      obtain ⟨hleft, distinct⟩ := List.nodup_cons.mp distinct
      have freshHere : ∀ group ∈ pending.head?, group.1 ≠ left := by
        rintro group hgroup rfl
        exact fresh group hgroup List.mem_cons_self
      have freshThere : ∀ group ∈ pending.head?, group.1 ∉ rest := fun group hgroup hrest =>
        fresh group hgroup (List.mem_cons_of_mem left hrest)
      rw [List.flatMap_cons, List.foldl_append, foldl_collect_next freshHere, List.filter_cons]
      cases h : (others left).isEmpty with
      | true => exact ih distinct freshThere
      | false =>
          simp only [Bool.false_eq_true, if_false, Bool.not_false, if_true]
          rw [ih distinct fun group hgroup => by
            obtain rfl := Option.mem_some_iff.mp hgroup
            exact hleft]
          simp

/-- Choosing positions in a list and what is made of them is choosing what stands there. -/
theorem map_filter_range {α β : Type} {items : List α} {p : Nat → Bool} {q : α → Bool}
    {f : Nat → β} {g : α → β}
    (h : ∀ i item, items[i]? = some item → p i = q item ∧ f i = g item) :
    ((List.range items.length).filter p).map f = (items.filter q).map g := by
  have positions : List.range items.length = items.zipIdx.map Prod.snd := by
    rw [List.zipIdx_map_snd, List.range_eq_range']
  have chosen : items.zipIdx.filter (p ∘ Prod.snd) = items.zipIdx.filter (q ∘ Prod.fst) :=
    List.filter_congr fun entry hentry => (h _ _ (List.mem_zipIdx_iff_getElem?.mp hentry)).1
  have made : ∀ entry ∈ items.zipIdx.filter (q ∘ Prod.fst),
      (f ∘ Prod.snd) entry = (g ∘ Prod.fst) entry := fun entry hentry =>
    (h _ _ (List.mem_zipIdx_iff_getElem?.mp (List.mem_of_mem_filter hentry))).2
  rw [positions, List.filter_map, List.map_map, chosen, List.map_congr_left made,
    ← List.map_map, ← List.filter_map, List.zipIdx_map_fst]

/-- The left records that have matches are found with all of them, each once and in order. -/
theorem grouped_eq {count : Nat}
    (inside : ∀ pair ∈ set.pairs, pair.left < count ∧ pair.right < rights.length) :
    set.grouped rights =
      ((List.range count).filter fun left => !(set.partners rights.length left).isEmpty).map
        fun left => (left, (set.partners rights.length left).map (recordAt rights)) := by
  rw [grouped, pairs_eq_flatMap inside, foldl_collect_flatMap List.nodup_range (by simp),
    List.append_nil, List.reverse_reverse]

/-- Partners are the right records of which membership says so. -/
theorem map_partners {left : Nat} {joins : Value → Bool}
    (h : ∀ right record, rights[right]? = some record →
      (⟨left, right⟩ ∈ set.pairs ↔ joins record = true)) :
    (set.partners rights.length left).map (recordAt rights) = rights.filter joins := by
  rw [partners, map_filter_range (g := id) (q := joins), List.map_id]
  intro right record hrecord
  constructor
  · rw [Bool.eq_iff_iff, decide_eq_true_iff]
    exact h right record hrecord
  · rw [recordAt, hrecord]
    rfl

end PairSet

end TreeTable
