import TreeTable.Text.Blank

/-! # Runs of characters

A reader takes characters as long as they pass a test. When a run of them is followed by one
that fails, it takes exactly the run.
-/

namespace TreeTable.Text

section Span

variable {α : Type} {p : α → Bool} {run rest : List α}

theorem takeWhile_append_stop (all : ∀ x ∈ run, p x = true)
    (stop : ∀ x ∈ rest.head?, p x = false) : (run ++ rest).takeWhile p = run := by
  rw [List.takeWhile_append_of_pos all]
  cases rest with
  | nil => simp
  | cons x rest =>
      have hx : p x = false := stop x rfl
      simp [hx]

theorem dropWhile_append_stop (all : ∀ x ∈ run, p x = true)
    (stop : ∀ x ∈ rest.head?, p x = false) : (run ++ rest).dropWhile p = rest := by
  rw [List.dropWhile_append_of_pos all]
  cases rest with
  | nil => rfl
  | cons x rest =>
      have hx : p x = false := stop x rfl
      simp [hx]

end Span

/-- What is left of a text cut at its start does not begin with a blank. -/
theorem isBlank_head_trimStart (cs : List Char) :
    ∀ c ∈ (trimStart cs).head?, isBlank c = false := by
  intro c hc
  have first := List.head?_dropWhile_not isBlank cs
  rw [trimStart] at hc
  rw [hc] at first
  simpa using first

theorem trimStart_of_head {cs : List Char} (h : ∀ c ∈ cs.head?, isBlank c = false) :
    trimStart cs = cs := by
  have noRun : ∀ c ∈ ([] : List Char), isBlank c = true := nofun
  exact dropWhile_append_stop noRun h

theorem trimEnd_of_getLast {cs : List Char} (h : ∀ c ∈ cs.getLast?, isBlank c = false) :
    trimEnd cs = cs := by
  have kept : cs.reverse.dropWhile isBlank = cs.reverse := by
    apply trimStart_of_head
    rw [List.head?_reverse]
    exact h
  rw [trimEnd, kept, List.reverse_reverse]

/-- A text without blanks is not cut. -/
theorem trim_of_forall {cs : List Char} (h : ∀ c ∈ cs, isBlank c = false) : trim cs = cs := by
  have start : trimStart cs = cs := trimStart_of_head fun c hc => h c (List.mem_of_mem_head? hc)
  rw [trim, start]
  exact trimEnd_of_getLast fun c hc => h c (List.mem_of_getLast? hc)

end TreeTable.Text
