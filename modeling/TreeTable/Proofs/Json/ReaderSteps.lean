import TreeTable.Json.Shape
import TreeTable.Proofs.Json.Lexemes

/-! # Steps of reading JSON

What is read of a value, an element or a field follows from what is read of its parts. Blanks before
a part make no difference.
-/

namespace TreeTable.Json

open Outcome

theorem readTree_skipBlanks (fuel depth : Nat) (cs : List Char) :
    readTree fuel depth (skipBlanks cs) = readTree fuel depth cs := by
  cases fuel with
  | zero => rfl
  | succ fuel =>
      rw [readTree.eq_def, readTree.eq_def]
      dsimp only
      rw [skipBlanks_skipBlanks]

theorem readItems_skipBlanks (fuel depth : Nat) (cs : List Char) :
    readItems fuel depth (skipBlanks cs) = readItems fuel depth cs := by
  cases fuel with
  | zero => rfl
  | succ fuel =>
      rw [readItems.eq_def, readItems.eq_def]
      dsimp only
      rw [readTree_skipBlanks]

theorem readEntries_skipBlanks (fuel depth : Nat) (cs : List Char) :
    readEntries fuel depth (skipBlanks cs) = readEntries fuel depth cs := by
  cases fuel with
  | zero => rfl
  | succ fuel =>
      rw [readEntries.eq_def, readEntries.eq_def]
      dsimp only
      rw [skipBlanks_skipBlanks]

section Blanks

variable {blanks : List Char} (blank : ∀ c ∈ blanks, isSpace c = true) (fuel depth : Nat)
  (cs : List Char)

include blank

theorem readTree_blanks : readTree fuel depth (blanks ++ cs) = readTree fuel depth cs := by
  rw [← readTree_skipBlanks, skipBlanks_append blank, readTree_skipBlanks]

theorem readItems_blanks : readItems fuel depth (blanks ++ cs) = readItems fuel depth cs := by
  rw [← readItems_skipBlanks, skipBlanks_append blank, readItems_skipBlanks]

theorem readEntries_blanks :
    readEntries fuel depth (blanks ++ cs) = readEntries fuel depth cs := by
  rw [← readEntries_skipBlanks, skipBlanks_append blank, readEntries_skipBlanks]

end Blanks

section Steps

variable {fuel depth : Nat} {cs left rest : List Char} {tree item : Tree} {number : Number}

/-- A closing bracket is not read as a value. -/
theorem skipBlanks_of_readTree (h : readTree fuel depth cs = (tree, some left)) :
    ∃ c rest, skipBlanks cs = c :: rest ∧ c ≠ ']' := by
  cases fuel with
  | zero => cases h
  | succ fuel =>
      rw [readTree.eq_def] at h
      cases hcs : skipBlanks cs with
      | nil =>
          simp only [hcs] at h
          cases h
      | cons c rest =>
          refine ⟨c, rest, rfl, ?_⟩
          rintro rfl
          simp only [hcs] at h
          cases h

theorem exists_of_leaf_map {α : Type} {read : Except Error α} {part : α → Tree × List Char}
    (h : (leaf (read.map part)).1 = .number number) :
    ∃ result, read = .ok result ∧ (part result).1 = .number number := by
  cases read with
  | error error => cases h
  | ok result => exact ⟨result, rfl, h⟩

/-- What is read as a number is what the reader of numbers takes from the first character on. -/
theorem readNumber_of_readTree (h : (readTree fuel depth cs).1 = .number number) :
    ∃ left, (readTree fuel depth cs).2 = some left ∧
      readNumber (skipBlanks cs) = .ok (number, left) := by
  cases fuel with
  | zero => cases h
  | succ fuel =>
      rw [readTree.eq_def] at h ⊢
      dsimp only at h ⊢
      split at h
      · cases h
      -- Null, the truth values and strings.
      iterate 4
        · obtain ⟨_, _, h⟩ := exists_of_leaf_map h
          cases h
      · split at h
        · cases h
        · split at h <;> cases h
      · split at h
        · cases h
        · split at h <;> cases h
      next c rest _ _ _ _ _ _ first =>
        split at h
        next start =>
          obtain ⟨⟨read, left⟩, hread, h⟩ := exists_of_leaf_map h
          cases h
          rw [if_pos start, hread, first, hread]
          exact ⟨left, rfl, rfl⟩
        next => cases h

/-- A number begins with a sign or a digit. -/
theorem head_of_readNumber (h : readNumber cs = .ok (number, left)) :
    ∃ c rest, cs = c :: rest ∧ (c = '-' ∨ c.isDigit = true) := by
  rw [readNumber.eq_def] at h
  split at h
  next rest => exact ⟨'-', rest, rfl, .inl rfl⟩
  next =>
    rw [NumberReader.unsigned, bind_eq_ok_iff] at h
    obtain ⟨digits, hdigits, -⟩ := h
    rw [NumberReader.wholeDigits, bind_eq_ok_iff] at hdigits
    obtain ⟨⟨digits, rest⟩, some, -⟩ := hdigits
    obtain ⟨nonempty, rfl, -⟩ := NumberReader.someDigits_eq_ok_iff.mp some
    cases cs with
    | nil => exact absurd rfl nonempty
    | cons c cs =>
        refine ⟨c, cs, rfl, .inr ?_⟩
        by_contra other
        exact nonempty (List.takeWhile_cons_of_neg other)

theorem isSpace_of_start {c : Char} (h : c = '-' ∨ c.isDigit = true) : isSpace c = false := by
  cases hspace : isSpace c with
  | false => rfl
  | true =>
      simp only [isSpace, Bool.or_eq_true, decide_eq_true_eq] at hspace
      rcases hspace with ((rfl | rfl) | rfl) | rfl <;> exact absurd h (by decide)

/-- The text of a number is read as this number. -/
theorem readTree_of_readNumber (h : readNumber cs = .ok (number, left)) :
    readTree (fuel + 1) depth cs = (.number number, some left) := by
  obtain ⟨c, rest, rfl, start⟩ := head_of_readNumber h
  rw [readTree.eq_def]
  dsimp only
  rw [skipBlanks_cons (isSpace_of_start start)]
  split
  case h_1 heq => cases heq
  case h_8 heq =>
    cases heq
    rw [if_pos start, h]
    rfl
  all_goals
    -- No other value begins with a sign or a digit.
    rename_i heq
    cases heq
    exact absurd start (by decide)

/-- A number is read in the same way whatever stands behind it. -/
theorem readTree_number_append (h : (readTree fuel depth cs).1 = .number number)
    {tail : List Char} (ends : EndsNumber tail) (more deeper : Nat) :
    ∃ left, (readTree fuel depth cs).2 = some left ∧
      readTree (more + 1) deeper (cs ++ tail) = (.number number, some (left ++ tail)) := by
  obtain ⟨left, hleft, read⟩ := readNumber_of_readTree h
  refine ⟨left, hleft, ?_⟩
  have skipped : skipBlanks (cs ++ tail) = skipBlanks cs ++ tail := by
    obtain ⟨c, rest, hcs, -⟩ := head_of_readNumber read
    refine List.dropWhile_append.trans (if_neg ?_)
    rw [← skipBlanks, hcs]
    exact Bool.false_ne_true
  rw [← readTree_skipBlanks, skipped]
  exact readTree_of_readNumber (readNumber_append read ends)

theorem readTree_string {text : String} (opened : skipBlanks cs = '"' :: rest)
    (quote : readString [] rest = .ok (text, left)) :
    readTree (fuel + 1) depth cs = (.string text, some left) := by
  rw [readTree.eq_def]
  simp only [opened, quote]
  rfl

/-- The last element of a list. -/
theorem readItems_last (h : readTree fuel depth cs = (item, some left))
    (closed : skipBlanks left = ']' :: rest) :
    readItems (fuel + 1) depth cs = (.cons item .closed, some rest) := by
  rw [readItems.eq_def]
  simp only [h, closed]

theorem skipBlanks_of_readItems {items : Items}
    (h : readItems fuel depth cs = (items, some left)) :
    ∃ c rest, skipBlanks cs = c :: rest ∧ c ≠ ']' := by
  cases fuel with
  | zero => cases h
  | succ fuel =>
      rw [readItems.eq_def] at h
      dsimp only at h
      split at h
      next => cases h
      next read => exact skipBlanks_of_readTree read

/-- An element of a list before others. -/
theorem readItems_cons {items : Items} {behind : List Char}
    (h : readTree fuel depth cs = (item, some left)) (comma : skipBlanks left = ',' :: rest)
    (others : readItems fuel depth rest = (items, some behind)) :
    readItems (fuel + 1) depth cs = (.cons item items, some behind) := by
  obtain ⟨c, more, hrest, notClosed⟩ := skipBlanks_of_readItems others
  rw [← readItems_skipBlanks, hrest] at others
  rw [readItems.eq_def]
  simp only [h, comma, hrest]
  split
  next heq => cases heq
  next heq =>
    cases heq
    exact absurd rfl notClosed
  next => rw [others]

/-- A list with elements. -/
theorem readTree_list {items : Items} (opened : skipBlanks cs = '[' :: rest)
    (elements : readItems fuel depth rest = (items, some left)) :
    readTree (fuel + 1) (depth + 1) cs = (.list items, some left) := by
  obtain ⟨c, more, hrest, notClosed⟩ := skipBlanks_of_readItems elements
  rw [← readItems_skipBlanks, hrest] at elements
  rw [readTree.eq_def]
  simp only [opened, hrest]
  split
  next heq => cases heq
  next heq =>
    cases heq
    exact absurd rfl notClosed
  next => rw [elements]

section Entries

variable {name : String} {quoted after : List Char} (key : skipBlanks cs = '"' :: quoted)
  (quote : readString [] quoted = .ok (name, after)) {valued : List Char}
  (colon : skipBlanks after = ':' :: valued) (h : readTree fuel depth valued = (item, some left))

include key quote colon h

/-- The last field of an object. -/
theorem readEntries_last (closed : skipBlanks left = '\x7d' :: rest) :
    readEntries (fuel + 1) depth cs = (.cons name item .closed, some rest) := by
  rw [readEntries.eq_def]
  simp only [key, quote, colon, h, closed]

/-- A field of an object before others. -/
theorem readEntries_cons {entries : Entries} {behind : List Char}
    (comma : skipBlanks left = ',' :: rest)
    (others : readEntries fuel depth rest = (entries, some behind)) :
    readEntries (fuel + 1) depth cs = (.cons name item entries, some behind) := by
  rw [readEntries.eq_def]
  simp only [key, quote, colon, h, comma, others]

end Entries

theorem skipBlanks_of_readEntries {entries : Entries}
    (h : readEntries fuel depth cs = (entries, some left)) :
    ∃ quoted, skipBlanks cs = '"' :: quoted := by
  cases fuel with
  | zero => cases h
  | succ fuel =>
      rw [readEntries.eq_def] at h
      dsimp only at h
      split at h
      next => cases h
      next quoted heq => exact ⟨quoted, heq⟩
      next => cases h

/-- An object with fields. -/
theorem readTree_object {entries : Entries} (opened : skipBlanks cs = '\x7b' :: rest)
    (fields : readEntries fuel depth rest = (entries, some left)) :
    readTree (fuel + 1) (depth + 1) cs = (.object entries, some left) := by
  obtain ⟨quoted, key⟩ := skipBlanks_of_readEntries fields
  rw [← readEntries_skipBlanks, key] at fields
  rw [readTree.eq_def]
  simp only [opened, key]
  exact congrArg (fun read => (Tree.object read.1, read.2)) fields

end Steps

namespace Source

theorem decode_eq_ok_iff {α : Type} {source : Source} {shape : Shape α} {a : α} :
    source.decode shape = .ok a ↔ shape source.tree = .ok a ∧ source.trailing = false := by
  rw [decode]
  cases shape source.tree with
  | error error => simp
  | ok result =>
      cases source.trailing <;>
        simp [pure, Except.pure, throw, throwThe, MonadExceptOf.throw]

variable {text : String}

theorem tree_ofText : (ofText text).tree =
    (readTree (2 * text.toList.length + 2) 127 text.toList).1 := by
  rw [ofText.eq_def]
  dsimp only
  split
  next heq => rw [heq]
  next heq => rw [heq]

theorem ofText_eq {tree : Tree} {left : List Char}
    (h : readTree (2 * text.toList.length + 2) 127 text.toList = (tree, some left)) :
    ofText text = ⟨tree, !(skipBlanks left).isEmpty⟩ := by
  rw [ofText.eq_def]
  simp only [h]

end Source

end TreeTable.Json
