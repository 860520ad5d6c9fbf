import TreeTable.Proofs.Outcome
import TreeTable.Proofs.Selection.Grammar

/-! # Selections are read as they are written

The text of a selection is that of its selectors with commas between them. Selectors hold no comma,
so a text splits into the parts between its commas in one way only, and it denotes a selection
exactly if every part, without the blanks around it, denotes a selector. The first part that does
not is the error.
-/

namespace TreeTable

open Numeric Outcome Text

namespace Selector

/-- The text of an integer is a numeral of it. -/
theorem numeral_int64Text (n : Int64) : Numeral (int64Text n).toList n := by
  have ne : Nat.toDigits 10 n.toInt.natAbs ≠ [] := Nat.toDigits_ne_nil
  have ascii : ∀ c ∈ Nat.toDigits 10 n.toInt.natAbs, c.isDigit = true := fun c hc =>
    Nat.isDigit_of_mem_toDigits (by decide) (by decide) hc
  have magnitude := Nat.ofDigitChars_ten_toDigits (n := n.toInt.natAbs)
  rw [toList_int64Text, signChars]
  split
  next =>
    rw [List.nil_append]
    refine .unsigned ne ascii ?_
    rw [magnitude]
    omega
  next =>
    rw [List.cons_append, List.nil_append]
    refine .negative ne ascii ?_
    rw [magnitude]
    omega

/-- The text of a selector denotes it. -/
theorem denotes_render (s : Selector) : Denotes s.render.toList s := by
  cases s with
  | position n => exact .position (numeral_int64Text n)
  | onward first =>
      rw [render, String.toList_append]
      exact .onward (numeral_int64Text first)
  | range first last inclusive =>
      cases inclusive with
      | true =>
          rw [render, String.toList_append, String.toList_append, List.append_assoc]
          exact .inclusive (numeral_int64Text first) (numeral_int64Text last)
      | false =>
          rw [render, String.toList_append, String.toList_append, List.append_assoc]
          exact .exclusive (numeral_int64Text first) (numeral_int64Text last)

/-- The characters of selectors are digits, minus and plus signs and dots. -/
def isSelectorChar (c : Char) : Bool := c.isDigit || c == '-' || c == '+' || c == '.'

theorem isSelectorChar_of_mem_int64Text {n : Int64} {c : Char}
    (h : c ∈ (int64Text n).toList) : isSelectorChar c = true := by
  rcases mem_int64Text h with hdigit | rfl
  · simp [isSelectorChar, hdigit]
  · rfl

theorem isSelectorChar_of_mem_render {s : Selector} {c : Char} (h : c ∈ s.render.toList) :
    isSelectorChar c = true := by
  have onward : ∀ d ∈ "+".toList, isSelectorChar d = true := by simp [isSelectorChar]
  have inclusive : ∀ d ∈ "..".toList, isSelectorChar d = true := by simp [isSelectorChar]
  have exclusive : ∀ d ∈ "...".toList, isSelectorChar d = true := by simp [isSelectorChar]
  cases s with
  | position n => exact isSelectorChar_of_mem_int64Text h
  | onward first =>
      rw [render, String.toList_append, List.mem_append] at h
      rcases h with h | h
      · exact isSelectorChar_of_mem_int64Text h
      · exact onward c h
  | range first last closed =>
      cases closed with
      | true =>
          simp only [render, String.toList_append, List.mem_append] at h
          rcases h with (h | h) | h
          · exact isSelectorChar_of_mem_int64Text h
          · exact inclusive c h
          · exact isSelectorChar_of_mem_int64Text h
      | false =>
          simp only [render, String.toList_append, List.mem_append] at h
          rcases h with (h | h) | h
          · exact isSelectorChar_of_mem_int64Text h
          · exact exclusive c h
          · exact isSelectorChar_of_mem_int64Text h

theorem isBlank_of_isSelectorChar {c : Char} (h : isSelectorChar c = true) :
    isBlank c = false := by
  simp only [isSelectorChar, Bool.or_eq_true, beq_iff_eq] at h
  rcases h with ((h | rfl) | rfl) | rfl
  · have range := Char.isDigit_iff_toNat.mp h
    simp [isBlank] at range ⊢
    omega
  · decide
  · decide
  · decide

end Selector

namespace Selection

theorem splitCommas_of_forall {part : List Char} (h : ',' ∉ part) : splitCommas part = [part] := by
  induction part with
  | nil => rfl
  | cons c rest ih =>
      rw [List.mem_cons, not_or] at h
      have hc : c ≠ ',' := fun heq => h.1 heq.symm
      simp [splitCommas, hc, ih h.2]

theorem splitCommas_append {part : List Char} (h : ',' ∉ part) (rest : List Char) :
    splitCommas (part ++ ',' :: rest) = part :: splitCommas rest := by
  induction part with
  | nil => simp [splitCommas]
  | cons c part ih =>
      rw [List.mem_cons, not_or] at h
      have hc : c ≠ ',' := fun heq => h.1 heq.symm
      simp [splitCommas, hc, ih h.2]

theorem splitCommas_ne_nil (cs : List Char) : splitCommas cs ≠ [] := by
  cases cs with
  | nil => simp [splitCommas]
  | cons c rest =>
      rw [splitCommas]
      split
      · simp
      · split <;> simp

/-- A text is made of its parts, with commas between them and none in them. -/
theorem intercalate_splitCommas (cs : List Char) :
    [','].intercalate (splitCommas cs) = cs ∧ ∀ part ∈ splitCommas cs, ',' ∉ part := by
  induction cs with
  | nil => simp [splitCommas]
  | cons c rest ih =>
      obtain ⟨first, others, hsplit⟩ := List.exists_cons_of_ne_nil (splitCommas_ne_nil rest)
      rw [splitCommas]
      split
      next hc =>
        subst hc
        rw [hsplit] at ih ⊢
        rw [List.intercalate_cons_cons, ih.1]
        exact ⟨rfl, List.forall_mem_cons.mpr ⟨List.not_mem_nil, ih.2⟩⟩
      next hc =>
        rw [hsplit] at ih ⊢
        rw [List.forall_mem_cons] at ih ⊢
        refine ⟨?_, ?_, ih.2.2⟩
        · cases others with
          | nil => simpa using ih.1
          | cons second others =>
              rw [List.intercalate_cons_cons] at ih ⊢
              rw [List.cons_append, List.cons_append, ih.1]
        · simpa [Ne.symm hc] using ih.2.1

/-- Parts without commas are what their text splits into. -/
theorem splitCommas_intercalate {parts : List (List Char)} (ne : parts ≠ [])
    (h : ∀ part ∈ parts, ',' ∉ part) : splitCommas ([','].intercalate parts) = parts := by
  induction parts with
  | nil => exact absurd rfl ne
  | cons part rest ih =>
      have hpart := h part List.mem_cons_self
      cases rest with
      | nil => rw [List.intercalate_singleton, splitCommas_of_forall hpart]
      | cons next rest =>
          have others := ih nofun fun p hp => h p (List.mem_cons_of_mem _ hp)
          rw [List.intercalate_cons_cons, List.append_assoc, List.singleton_append,
            splitCommas_append hpart, others]

section Parts

variable {part : List Char} {parts : List (List Char)}

theorem ofParts_cons_of_denotes {s : Selector} (h : s.Denotes (trim part)) :
    ofParts (part :: parts) = (ofParts parts).map (s :: ·) := by
  simp only [ofParts, Selector.ofChars?_of_denotes h]
  cases ofParts parts <;> rfl

theorem ofParts_cons_of_not_denotes (h : ∀ s : Selector, ¬ s.Denotes (trim part)) :
    ofParts (part :: parts) = .error (String.ofList (trim part)) := by
  have none : Selector.ofChars? (trim part) = none :=
    Option.eq_none_iff_forall_ne_some.mpr fun s hs => h s (Selector.denotes_of_ofChars? hs)
  simp only [ofParts, none]
  rfl

/-- Parts are read as selectors when each denotes one. -/
theorem ofParts_eq_ok_iff {selection : Selection} : ofParts parts = .ok selection ↔
    List.Forall₂ (fun part (s : Selector) => s.Denotes (trim part)) parts selection := by
  induction parts generalizing selection with
  | nil =>
      rw [List.forall₂_nil_left_iff]
      exact ⟨fun h => (Except.ok.inj h).symm, fun h => congrArg Except.ok h.symm⟩
  | cons part rest ih =>
      rw [List.forall₂_cons_left_iff]
      by_cases denoted : ∃ s : Selector, s.Denotes (trim part)
      · obtain ⟨s, hs⟩ := denoted
        rw [ofParts_cons_of_denotes hs, map_eq_ok_iff]
        constructor
        · rintro ⟨others, hothers, rfl⟩
          exact ⟨s, others, hs, ih.mp hothers, rfl⟩
        · rintro ⟨other, others, hother, hothers, rfl⟩
          obtain rfl : s = other := hs.unique hother
          exact ⟨others, ih.mpr hothers, rfl⟩
      · rw [ofParts_cons_of_not_denotes (not_exists.mp denoted)]
        refine iff_of_false nofun ?_
        rintro ⟨s, others, hs, -, -⟩
        exact denoted ⟨s, hs⟩

/-- The error is the first part that denotes no selector. -/
theorem ofParts_eq_error_iff {bad : String} : ofParts parts = .error bad ↔
    ∃ before part after, parts = before ++ part :: after ∧
      (∀ other ∈ before, ∃ s : Selector, s.Denotes (trim other)) ∧
      (∀ s : Selector, ¬ s.Denotes (trim part)) ∧ bad = String.ofList (trim part) := by
  induction parts with
  | nil =>
      refine iff_of_false nofun ?_
      rintro ⟨before, part, after, h, -⟩
      exact List.append_ne_nil_of_right_ne_nil before (List.cons_ne_nil part after) h.symm
  | cons part rest ih =>
      by_cases denoted : ∃ s : Selector, s.Denotes (trim part)
      · obtain ⟨s, hs⟩ := denoted
        have onward : ofParts (part :: rest) = .error bad ↔ ofParts rest = .error bad := by
          rw [ofParts_cons_of_denotes hs]
          cases ofParts rest <;> simp [Except.map]
        rw [onward, ih]
        constructor
        · rintro ⟨before, wrong, after, rfl, good, isNone, rfl⟩
          exact ⟨part :: before, wrong, after, rfl,
            List.forall_mem_cons.mpr ⟨⟨s, hs⟩, good⟩, isNone, rfl⟩
        · rintro ⟨before, wrong, after, hparts, good, isNone, rfl⟩
          cases before with
          | nil =>
              obtain ⟨rfl, rfl⟩ := List.cons.inj hparts
              exact absurd hs (isNone s)
          | cons first before =>
              obtain ⟨rfl, rfl⟩ := List.cons.inj hparts
              rw [List.forall_mem_cons] at good
              exact ⟨before, wrong, after, rfl, good.2, isNone, rfl⟩
      · rw [ofParts_cons_of_not_denotes (not_exists.mp denoted), Except.error.injEq]
        constructor
        · rintro rfl
          exact ⟨[], part, rest, rfl, nofun, not_exists.mp denoted, rfl⟩
        · rintro ⟨before, wrong, after, hparts, good, -, rfl⟩
          cases before with
          | nil => rw [(List.cons.inj hparts).1]
          | cons first before =>
              obtain ⟨rfl, rfl⟩ := List.cons.inj hparts
              exact absurd (good part List.mem_cons_self) denoted

theorem exists_ofParts_iff : (∃ selection, ofParts parts = .ok selection) ↔
    ∀ part ∈ parts, ∃ s : Selector, s.Denotes (trim part) := by
  induction parts with
  | nil => exact iff_of_true ⟨[], rfl⟩ nofun
  | cons part rest ih =>
      rw [List.forall_mem_cons, ← ih]
      simp only [ofParts_eq_ok_iff, List.forall₂_cons_left_iff]
      constructor
      · rintro ⟨_, s, others, hs, hothers, rfl⟩
        exact ⟨⟨s, hs⟩, others, hothers⟩
      · rintro ⟨⟨s, hs⟩, others, hothers⟩
        exact ⟨_, s, others, hs, hothers, rfl⟩

end Parts

theorem ofParts_render (selection : Selection) :
    ofParts (selection.map fun s => s.render.toList) = .ok selection := by
  rw [ofParts_eq_ok_iff, List.forall₂_map_left_iff, List.forall₂_same]
  intro s _
  have trimmed : trim s.render.toList = s.render.toList := trim_of_forall fun c hc =>
    Selector.isBlank_of_isSelectorChar (Selector.isSelectorChar_of_mem_render hc)
  rw [trimmed]
  exact s.denotes_render

theorem toList_render (selection : Selection) :
    selection.render.toList = [','].intercalate (selection.map fun s => s.render.toList) := by
  rw [render, String.toList_intercalate, List.map_map]
  rfl

/-- Reading the text of a selection gives the selection. -/
theorem ofText_render {selection : Selection} (ne : selection ≠ []) :
    ofText selection.render = .ok selection := by
  have ne' : (selection.map fun s => s.render.toList) ≠ [] := by simpa using ne
  rw [ofText, toList_render, splitCommas_intercalate ne', ofParts_render]
  intro part hpart hcomma
  obtain ⟨s, -, rfl⟩ := List.mem_map.mp hpart
  have char := Selector.isSelectorChar_of_mem_render hcomma
  cases char

theorem mem_of_mem_intercalate {separator c : Char} {parts : List (List Char)}
    (h : c ∈ [separator].intercalate parts) : c = separator ∨ ∃ part ∈ parts, c ∈ part := by
  induction parts with
  | nil => cases h
  | cons part rest ih =>
      cases rest with
      | nil =>
          rw [List.intercalate_singleton] at h
          exact .inr ⟨part, List.mem_cons_self, h⟩
      | cons next rest =>
          rw [List.intercalate_cons_cons, List.append_assoc, List.mem_append,
            List.singleton_append, List.mem_cons] at h
          rcases h with h | h | h
          · exact .inr ⟨part, List.mem_cons_self, h⟩
          · exact .inl h
          · refine (ih h).imp_right ?_
            rintro ⟨found, hfound, hc⟩
            exact ⟨found, List.mem_cons_of_mem _ hfound, hc⟩

/-- The text of a selection holds no bracket. -/
theorem ne_bracket_of_mem_render {selection : Selection} {c : Char}
    (h : c ∈ selection.render.toList) : c ≠ '[' ∧ c ≠ ']' := by
  rw [toList_render] at h
  rcases mem_of_mem_intercalate h with rfl | ⟨part, hpart, hc⟩
  · decide
  · obtain ⟨s, -, rfl⟩ := List.mem_map.mp hpart
    have char := Selector.isSelectorChar_of_mem_render hc
    constructor <;>
    · rintro rfl
      cases char

/-- A selection that is read has at least one selector. -/
theorem ne_nil_of_ofText {text : String} {selection : Selection}
    (h : ofText text = .ok selection) : selection ≠ [] := by
  rw [ofText] at h
  cases hparts : splitCommas text.toList with
  | nil => exact absurd hparts (splitCommas_ne_nil _)
  | cons part parts =>
      rw [hparts, ofParts] at h
      split at h
      next => cases h
      next s hs =>
        obtain ⟨others, -, hcons⟩ := bind_eq_ok_iff.mp h
        cases hcons
        nofun

/-- Reading accepts exactly the grammar of selections. Every text is made of parts between commas,
and it is read when each part, without the blanks around it, is the text of a selector; then it
gives these selectors in their order. Otherwise the error is the first part that is none. The text
of a selection that has a selector is read as the selection. -/
theorem ofText_exact (text : String) :
    (∃ parts : List (List Char), parts ≠ [] ∧ text.toList = [','].intercalate parts ∧
      (∀ part ∈ parts, ',' ∉ part) ∧
      ((∃ selection, ofText text = .ok selection) ↔
        ∀ part ∈ parts, ∃ s : Selector, s.Denotes (trim part)) ∧
      (∀ selection, ofText text = .ok selection ↔
        List.Forall₂ (fun part (s : Selector) => s.Denotes (trim part)) parts selection) ∧
      ∀ bad, ofText text = .error bad ↔
        ∃ before part after, parts = before ++ part :: after ∧
          (∀ other ∈ before, ∃ s : Selector, s.Denotes (trim other)) ∧
          (∀ s : Selector, ¬ s.Denotes (trim part)) ∧ bad = String.ofList (trim part)) ∧
    ∀ selection, ofText selection.render = .ok selection ↔ selection ≠ [] := by
  obtain ⟨together, noComma⟩ := intercalate_splitCommas text.toList
  refine ⟨⟨splitCommas text.toList, splitCommas_ne_nil _, together.symm, noComma,
    exists_ofParts_iff, fun _ => ofParts_eq_ok_iff, fun _ => ofParts_eq_error_iff⟩, ?_⟩
  intro selection
  exact ⟨ne_nil_of_ofText, ofText_render⟩

/-- The first sign behind the digits of an integer is an operator, the next one belongs to the other
integer. -/
theorem ofText_exact_signs :
    let text := "1--2,\t-1--2 , 0..-1,-007+"
    let selection : Selection := [.range 1 (-2) true, .range (-1) (-2) true, .range 0 (-1) true,
      .onward (-7)]
    ofText text = .ok selection ∧
      (∃ parts, text.toList = [','].intercalate parts ∧
        List.Forall₂ (fun part (s : Selector) => s.Denotes (trim part)) parts selection) ∧
      selection.render = "1..-2,-1..-2,0..-1,-7+" ∧ ofText selection.render = .ok selection := by
  intro text selection
  have read : ofText text = .ok selection := by decide +kernel
  obtain ⟨⟨parts, -, together, -, -, accepts, -⟩, renders⟩ := ofText_exact text
  exact ⟨read, ⟨parts, together, (accepts selection).mp read⟩, by decide +kernel,
    (renders selection).mpr nofun⟩

end Selection

end TreeTable
