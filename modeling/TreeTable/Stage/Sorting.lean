/-! # Stable sorting under any comparison

Items are inserted one after another, each one coming from the end of those sorted so far
and passing only the items that it is less than. So ties keep their order, and the result
is defined for every comparison, also for one that is no order at all.
-/

namespace TreeTable

/-- Inserts an item among sorted ones, the last of which comes first. -/
def insertFromEnd (compare : α → α → Ordering) (item : α) : List α → List α
  | [] => [item]
  | last :: rest =>
      if compare item last = .lt then last :: insertFromEnd compare item rest
      else item :: last :: rest

/-- The items in ascending order, ties in the order in which they were. -/
def sortBy (compare : α → α → Ordering) (items : List α) : List α :=
  (items.foldl (fun sorted item => insertFromEnd compare item sorted) []).reverse

theorem insertFromEnd_perm (compare : α → α → Ordering) (item : α) (items : List α) :
    (insertFromEnd compare item items).Perm (item :: items) := by
  induction items with
  | nil => exact .refl _
  | cons last rest ih =>
      unfold insertFromEnd
      split
      · exact (ih.cons last).trans (.swap item last rest)
      · exact .refl _

/-- Sorting loses nothing and adds nothing. -/
theorem sortBy_perm (compare : α → α → Ordering) (items : List α) :
    (sortBy compare items).Perm items := by
  have go (sorted : List α) :
      (items.foldl (fun sorted item => insertFromEnd compare item sorted) sorted).Perm
        (items ++ sorted) := by
    induction items generalizing sorted with
    | nil => exact .refl _
    | cons item rest ih =>
        refine (ih _).trans ?_
        refine ((insertFromEnd_perm compare item sorted).append_left rest).trans ?_
        exact List.perm_middle
  refine (List.reverse_perm _).trans ?_
  have all := go []
  rwa [List.append_nil] at all

end TreeTable
