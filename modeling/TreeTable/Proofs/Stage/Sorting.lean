import Mathlib.Data.List.Induction
import TreeTable.Proofs.Value.Order

/-! # Stable sorting

When a comparison orders the items of a list up to ties, only one arrangement of them is ascending
and keeps ties as they were. Inserting one item after another makes it, so what is sorted already
stays as it is. Documents are ordered in this way unless there are floats among them.
-/

namespace TreeTable

open Numeric

variable {α : Type*} {compare : α → α → Ordering} {items : List α}

/-- A comparison orders items up to ties: changing the sides reverses it, and it carries over from
one item to another. -/
structure Orders (compare : α → α → Ordering) (items : List α) : Prop where
  swap : ∀ a ∈ items, ∀ b ∈ items, compare b a = (compare a b).swap
  trans : ∀ a ∈ items, ∀ b ∈ items, ∀ c ∈ items, (compare a b).isLE = true →
    (compare b c).isLE = true → (compare a c).isLE = true

/-- No item is greater than a later one. -/
def Ascending (compare : α → α → Ordering) (items : List α) : Prop :=
  items.Pairwise fun a b => (compare a b).isLE = true

/-- The items that tie with one item, in order. -/
def tiesWith (compare : α → α → Ordering) (item : α) (items : List α) : List α :=
  items.filter fun other => compare item other == .eq

/-- A list has the items of another one in ascending order, ties in the order in which they were. -/
structure SortsTo (compare : α → α → Ordering) (items sorted : List α) : Prop where
  perm : sorted.Perm items
  ascending : Ascending compare sorted
  stable : ∀ item ∈ items, tiesWith compare item sorted = tiesWith compare item items

namespace Orders

theorem mono {fewer : List α} (orders : Orders compare items) (subset : fewer ⊆ items) :
    Orders compare fewer where
  swap a ha b hb := orders.swap a (subset ha) b (subset hb)
  trans a ha b hb c hc := orders.trans a (subset ha) b (subset hb) c (subset hc)

/-- The reverse of what orders items orders them as well. -/
theorem flip (orders : Orders compare items) : Orders (fun a b => compare b a) items where
  swap a ha b hb := orders.swap b hb a ha
  trans a ha b hb c hc hab hbc := orders.trans c hc b hb a ha hbc hab

variable {a b c : α}

theorem isLE_iff (orders : Orders compare items) (ha : a ∈ items) (hb : b ∈ items) :
    (compare b a).isLE = true ↔ compare a b ≠ .lt := by
  rw [orders.swap a ha b hb, Ordering.isLE_swap]
  exact Ordering.isGE_iff_ne_lt

theorem compare_self (orders : Orders compare items) (ha : a ∈ items) : compare a a = .eq :=
  Ordering.eq_eq_of_eq_swap (orders.swap a ha a ha)

theorem eq_of_isLE (orders : Orders compare items) (ha : a ∈ items) (hb : b ∈ items)
    (hab : (compare a b).isLE = true) (hba : (compare b a).isLE = true) : compare a b = .eq := by
  rw [orders.swap a ha b hb] at hba
  exact Ordering.eq_eq_of_isLE_of_isLE_swap hab hba

/-- Two items that tie with a third one tie with each other. -/
theorem eq_of_eq (orders : Orders compare items) (ha : a ∈ items) (hb : b ∈ items)
    (hc : c ∈ items) (hca : compare c a = .eq) (hcb : compare c b = .eq) : compare a b = .eq := by
  have hac : compare a c = .eq := by rw [orders.swap c hc a ha, hca, Ordering.swap_eq]
  have hbc : compare b c = .eq := by rw [orders.swap c hc b hb, hcb, Ordering.swap_eq]
  apply orders.eq_of_isLE ha hb
  · exact orders.trans a ha c hc b hb (Ordering.isLE_of_eq_eq hac) (Ordering.isLE_of_eq_eq hcb)
  · exact orders.trans b hb c hc a ha (Ordering.isLE_of_eq_eq hbc) (Ordering.isLE_of_eq_eq hca)

end Orders

section Ties

variable (compare : α → α → Ordering) (item : α)

theorem tiesWith_append (first second : List α) :
    tiesWith compare item (first ++ second) =
      tiesWith compare item first ++ tiesWith compare item second := List.filter_append first second

theorem tiesWith_reverse (items : List α) :
    tiesWith compare item items.reverse = (tiesWith compare item items).reverse :=
  List.filter_reverse

variable {compare item}

theorem tiesWith_cons_of_eq {other : α} (tie : compare item other = .eq) (rest : List α) :
    tiesWith compare item (other :: rest) = other :: tiesWith compare item rest :=
  List.filter_cons_of_pos (beq_iff_eq.mpr tie)

theorem tiesWith_cons_of_ne {other : α} (apart : compare item other ≠ .eq) (rest : List α) :
    tiesWith compare item (other :: rest) = tiesWith compare item rest :=
  List.filter_cons_of_neg (by simpa using apart)

end Ties

/-- Among items in descending order an item takes its place behind those that it is less than. -/
theorem ascending_insertFromEnd {item : α} (orders : Orders compare (item :: items))
    (h : Ascending compare items.reverse) :
    Ascending compare (insertFromEnd compare item items).reverse := by
  rw [Ascending, List.pairwise_reverse] at h ⊢
  induction items with
  | nil => simp [insertFromEnd]
  | cons last rest ih =>
      have hitem : item ∈ item :: last :: rest := List.mem_cons_self
      have hlast : last ∈ item :: last :: rest := .tail _ List.mem_cons_self
      rw [List.pairwise_cons] at h
      rw [insertFromEnd]
      split
      next less =>
        rw [List.pairwise_cons]
        refine ⟨?_, ih (orders.mono ?_) h.2⟩
        · intro other hother
          rw [(insertFromEnd_perm compare item rest).mem_iff] at hother
          rcases List.mem_cons.mp hother with rfl | hrest
          · exact Ordering.isLE_of_eq_lt less
          · exact h.1 other hrest
        · exact List.cons_subset_cons item (List.subset_cons_self last rest)
      next notLess =>
        have behind := (orders.isLE_iff hitem hlast).mpr notLess
        rw [List.pairwise_cons, List.pairwise_cons]
        refine ⟨?_, h⟩
        intro other hother
        rcases List.mem_cons.mp hother with rfl | hrest
        · exact behind
        · exact orders.trans other (.tail _ (.tail _ hrest)) last hlast item hitem
            (h.1 other hrest) behind

/-- An item passes none that it ties with. -/
theorem tiesWith_insertFromEnd {all : List α} (orders : Orders compare all) {item other : α}
    (hitem : item ∈ all) (hother : other ∈ all) (subset : items ⊆ all) :
    tiesWith compare other (insertFromEnd compare item items) =
      tiesWith compare other (item :: items) := by
  induction items with
  | nil => rfl
  | cons last rest ih =>
      rw [List.cons_subset] at subset
      rw [insertFromEnd]
      split
      next less =>
        have passed := ih subset.2
        by_cases first : compare other item = .eq
        · -- The item that is passed does not tie with the one that passes it.
          have apart : compare other last ≠ .eq := by
            intro second
            rw [orders.eq_of_eq hitem subset.1 hother first second] at less
            cases less
          rw [tiesWith_cons_of_ne apart, passed, tiesWith_cons_of_eq first,
            tiesWith_cons_of_eq first, tiesWith_cons_of_ne apart]
        · rw [tiesWith_cons_of_ne first] at passed ⊢
          by_cases second : compare other last = .eq
          · rw [tiesWith_cons_of_eq second, tiesWith_cons_of_eq second, passed]
          · rw [tiesWith_cons_of_ne second, tiesWith_cons_of_ne second, passed]
      next => rfl

theorem sortBy_concat (compare : α → α → Ordering) (items : List α) (item : α) :
    sortBy compare (items ++ [item]) =
      (insertFromEnd compare item (sortBy compare items).reverse).reverse := by
  simp [sortBy]

theorem mem_reverse_sortBy {item : α} : item ∈ (sortBy compare items).reverse ↔ item ∈ items := by
  rw [List.mem_reverse, (sortBy_perm compare items).mem_iff]

theorem ascending_sortBy (orders : Orders compare items) :
    Ascending compare (sortBy compare items) := by
  induction items using List.reverseRecOn with
  | nil => exact List.Pairwise.nil
  | append_singleton rest item ih =>
      have before := ih (orders.mono (List.subset_append_left rest [item]))
      have among : item :: (sortBy compare rest).reverse ⊆ rest ++ [item] := by
        intro other hother
        rw [List.mem_cons, mem_reverse_sortBy] at hother
        simpa [or_comm] using hother
      rw [sortBy_concat]
      apply ascending_insertFromEnd (orders.mono among)
      rwa [List.reverse_reverse]

theorem tiesWith_sortBy {all : List α} (orders : Orders compare all) {item : α}
    (hitem : item ∈ all) (subset : items ⊆ all) :
    tiesWith compare item (sortBy compare items) = tiesWith compare item items := by
  induction items using List.reverseRecOn with
  | nil => rfl
  | append_singleton rest last ih =>
      rw [List.append_subset] at subset
      have among : (sortBy compare rest).reverse ⊆ all := by
        intro other hother
        exact subset.1 (mem_reverse_sortBy.mp hother)
      have hlast : last ∈ all := subset.2 List.mem_cons_self
      rw [sortBy_concat, tiesWith_reverse, tiesWith_insertFromEnd orders hlast hitem among,
        ← tiesWith_reverse, List.reverse_cons, List.reverse_reverse, tiesWith_append,
        tiesWith_append, ih subset.1]

/-- Items that a comparison orders are sorted by it. -/
theorem sortsTo_sortBy (orders : Orders compare items) :
    SortsTo compare items (sortBy compare items) where
  perm := sortBy_perm compare items
  ascending := ascending_sortBy orders
  stable _ hitem := tiesWith_sortBy orders hitem (List.Subset.refl items)

theorem mem_of_tiesWith {all first second : List α} (orders : Orders compare all) {item : α}
    (hitem : item ∈ all) (same : tiesWith compare item first = tiesWith compare item second)
    (h : item ∈ first) : item ∈ second := by
  have tie : item ∈ tiesWith compare item first :=
    List.mem_filter.mpr ⟨h, beq_iff_eq.mpr (orders.compare_self hitem)⟩
  rw [same] at tie
  exact List.mem_of_mem_filter tie

/-- Two ascending lists with the same ties in the same order are the same. -/
theorem eq_of_ascending {all first second : List α} (orders : Orders compare all)
    (hfirst : first ⊆ all) (hsecond : second ⊆ all) (firstAscending : Ascending compare first)
    (secondAscending : Ascending compare second)
    (same : ∀ item ∈ all, tiesWith compare item first = tiesWith compare item second) :
    first = second := by
  induction first generalizing second with
  | nil =>
      cases second with
      | nil => rfl
      | cons b others =>
          have hb := hsecond List.mem_cons_self
          cases mem_of_tiesWith orders hb (same b hb).symm List.mem_cons_self
  | cons a rest ih =>
      have ha := hfirst List.mem_cons_self
      cases second with
      | nil => cases mem_of_tiesWith orders ha (same a ha) List.mem_cons_self
      | cons b others =>
          have hb := hsecond List.mem_cons_self
          -- Each of the two heads is not greater than the other one, so they tie.
          have amongFirst := mem_of_tiesWith orders hb (same b hb).symm List.mem_cons_self
          have amongSecond := mem_of_tiesWith orders ha (same a ha) List.mem_cons_self
          have hab : (compare a b).isLE = true := by
            rcases List.mem_cons.mp amongFirst with rfl | hrest
            · exact Ordering.isLE_of_eq_eq (orders.compare_self ha)
            · exact List.rel_of_pairwise_cons firstAscending hrest
          have hba : (compare b a).isLE = true := by
            rcases List.mem_cons.mp amongSecond with rfl | hothers
            · exact Ordering.isLE_of_eq_eq (orders.compare_self ha)
            · exact List.rel_of_pairwise_cons secondAscending hothers
          have heads := same a ha
          rw [tiesWith_cons_of_eq (orders.compare_self ha),
            tiesWith_cons_of_eq (orders.eq_of_isLE ha hb hab hba), List.cons.injEq] at heads
          obtain ⟨rfl, -⟩ := heads
          rw [List.cons_subset] at hfirst hsecond
          congr 1
          apply ih hfirst.2 hsecond.2 firstAscending.of_cons secondAscending.of_cons
          intro item hitem
          have ties := same item hitem
          by_cases h : compare item a = .eq
          · rw [tiesWith_cons_of_eq h, tiesWith_cons_of_eq h] at ties
            exact List.tail_eq_of_cons_eq ties
          · rwa [tiesWith_cons_of_ne h, tiesWith_cons_of_ne h] at ties

/-- What is ascending already is sorted by leaving it as it is. -/
theorem sortBy_of_ascending (orders : Orders compare items) (h : Ascending compare items) :
    sortBy compare items = items :=
  eq_of_ascending orders (sortBy_perm compare items).subset (List.Subset.refl items)
    (ascending_sortBy orders) h fun _ hitem => tiesWith_sortBy orders hitem (List.Subset.refl items)

/-- Documents are ordered unless one of them is a float. -/
theorem Value.orders_compare {items : List Value} (noFloat : ∀ x, .float x ∉ items) :
    Orders Value.compare items where
  swap a _ b _ := compare_swap a b
  trans a _ b hb c _ hab hbc := by
    apply isLE_trans_of_number _ hab hbc
    · rintro ⟨m, n, x, -, rfl, -⟩
      exact noFloat x hb
    · intro y hy
      cases b with
      | int n =>
          cases hy
          exact Binary64.isNaN_ofInt n.toInt
      | float x => exact absurd hb (noFloat x)
      | _ => cases hy

namespace Stage

/-- A stage sorts a list by a comparison: what it gives are the elements but nulls, sorted, and this
it leaves as it is. -/
def Sorts (stage : Stage) (compare : Value → Value → Ordering) (items : List Value) : Prop :=
  ∃ sorted, stage.apply (.list items) = .list sorted ∧
    SortsTo compare (Value.present items) sorted ∧ stage.apply (.list sorted) = .list sorted

variable {stage : Stage} {compare : Value → Value → Ordering} {items : List Value}

theorem sorts_of_apply (sorting : ∀ items, stage.apply (.list items) = sorted compare (.list items))
    (orders : Orders compare (Value.present items)) : stage.Sorts compare items := by
  have sortsTo := sortsTo_sortBy orders
  refine ⟨_, sorting items, sortsTo, ?_⟩
  have present : Value.present (TreeTable.sortBy compare (Value.present items)) =
      TreeTable.sortBy compare (Value.present items) := by
    apply List.filter_eq_self.mpr
    intro item hitem
    exact (List.mem_filter.mp (sortsTo.perm.subset hitem)).2
  rw [sorting, sorted, onList, present,
    sortBy_of_ascending (orders.mono sortsTo.perm.subset) sortsTo.ascending]

/-- Sorting a list without floats among its elements gives the elements but nulls in ascending
order, those that tie in the order in which they were, and sorting again changes nothing. Sorting in
descending order does the same for the reverse of the comparison, so ties keep their order there as
well. Sorting by a comparison of the caller's does it whenever that orders the elements. -/
theorem sorts (items : List Value) :
    ((∀ x, .float x ∉ items) → (sort false).Sorts Value.compare items ∧
      (sort true).Sorts (fun a b => b.compare a) items) ∧
    ∀ compare, Orders compare (Value.present items) → (sortBy compare).Sorts compare items := by
  refine ⟨?_, fun compare orders => sorts_of_apply (fun _ => rfl) orders⟩
  intro noFloat
  have orders : Orders Value.compare (Value.present items) :=
    (Value.orders_compare noFloat).mono (List.filter_subset_self items)
  exact ⟨sorts_of_apply (fun _ => rfl) orders, sorts_of_apply (fun _ => rfl) orders.flip⟩

theorem sorts_ties :
    let first : Value := .object [("b", .int 1)]
    let second : Value := .object [("a", .int 2)]
    let items : List Value := [first, .list [.int 1], .null, .int 20, .string "x", second, .list []]
    let byLength (a b : Value) : Ordering := Ord.compare a.text.length b.text.length
    (∀ x, .float x ∉ items) ∧ Orders byLength (Value.present items) ∧
      (sort false).Sorts Value.compare items ∧ (sort true).Sorts (fun a b => b.compare a) items ∧
      (sortBy byLength).Sorts byLength items ∧
      (sort false).apply (.list items) =
        .list [.int 20, .string "x", .list [.int 1], .list [], first, second] ∧
      (sort true).apply (.list items) =
        .list [first, second, .list [.int 1], .list [], .string "x", .int 20] ∧
      (sortBy byLength).apply (.list items) =
        .list [.string "x", .int 20, .list [], .list [.int 1], first, second] := by
  intro first second items byLength
  have noFloat : ∀ x, .float x ∉ items := by simp [items, first, second]
  have orders : Orders byLength (Value.present items) :=
    ⟨fun _ _ _ _ => Std.OrientedOrd.eq_swap, fun _ _ _ _ _ _ => Std.TransOrd.isLE_trans⟩
  obtain ⟨sorted, sortedBy⟩ := sorts items
  exact ⟨noFloat, orders, (sorted noFloat).1, (sorted noFloat).2, sortedBy byLength orders,
    by decide +kernel⟩

end Stage

end TreeTable
