import TreeTable.Proofs.Json.Lexemes

/-! # Layouts of JSON texts

The compact and the indented form of a document differ in blanks only: in those before elements,
fields and closing brackets, and in those behind colons. Both are one printer, at different layouts.
-/

namespace TreeTable.Json

/-- How a document is broken into lines. -/
structure Layout where
  /-- What stands before an element, a field or a closing bracket at a level. -/
  breaks : Nat → List Char
  /-- What stands behind a colon. -/
  gap : List Char
  isSpace_breaks : ∀ level, ∀ c ∈ breaks level, isSpace c = true
  isSpace_gap : ∀ c ∈ gap, isSpace c = true

namespace Layout

def compact : Layout where
  breaks _ := []
  gap := []
  isSpace_breaks _ := List.forall_mem_nil _
  isSpace_gap := List.forall_mem_nil _

def indented : Layout where
  breaks := newLine
  gap := [' ']
  isSpace_breaks level c h := by
    rcases List.mem_cons.mp h with rfl | h
    · rfl
    · rw [List.eq_of_mem_replicate h]
      rfl
  isSpace_gap c h := by
    rw [List.mem_singleton.mp h]
    rfl

variable (layout : Layout)

mutual

/-- The text of a document at a nesting level. -/
def chars (level : Nat) : Value → List Char
  | .list [] => ['[', ']']
  | .list (item :: rest) =>
      '[' :: (layout.breaks (level + 1) ++ (chars (level + 1) item ++ itemsChars level rest))
  | .object [] => ['\x7b', '\x7d']
  | .object ((key, value) :: rest) =>
      '\x7b' :: (layout.breaks (level + 1) ++ (stringChars key ++ ':' ::
        (layout.gap ++ (chars (level + 1) value ++ fieldsChars level rest))))
  | scalar => scalarChars scalar

/-- The elements after the first, and the closing bracket. -/
def itemsChars (level : Nat) : List Value → List Char
  | [] => layout.breaks level ++ [']']
  | item :: rest =>
      ',' :: (layout.breaks (level + 1) ++ (chars (level + 1) item ++ itemsChars level rest))

/-- The fields after the first, and the closing brace. -/
def fieldsChars (level : Nat) : List (String × Value) → List Char
  | [] => layout.breaks level ++ ['\x7d']
  | (key, value) :: rest =>
      ',' :: (layout.breaks (level + 1) ++ (stringChars key ++ ':' ::
        (layout.gap ++ (chars (level + 1) value ++ fieldsChars level rest))))

end

mutual

theorem compact_chars (level : Nat) : (value : Value) →
    compact.chars level value = compactChars value
  | .list [] => rfl
  | .list (item :: rest) => by
      rw [chars, compactChars, compact_chars (level + 1) item, compact_itemsChars level rest]
      rfl
  | .object [] => rfl
  | .object ((key, value) :: rest) => by
      rw [chars, compactChars, compact_chars (level + 1) value, compact_fieldsChars level rest]
      rfl
  | .null | .bool _ | .int _ | .float _ | .string _ => rfl

theorem compact_itemsChars (level : Nat) : (items : List Value) →
    compact.itemsChars level items = compactItems items
  | [] => rfl
  | item :: rest => by
      rw [itemsChars, compactItems, compact_chars (level + 1) item, compact_itemsChars level rest]
      rfl

theorem compact_fieldsChars (level : Nat) : (fields : List (String × Value)) →
    compact.fieldsChars level fields = compactFields fields
  | [] => rfl
  | (key, value) :: rest => by
      rw [fieldsChars, compactFields, compact_chars (level + 1) value,
        compact_fieldsChars level rest]
      rfl

end

mutual

theorem indented_chars (level : Nat) : (value : Value) →
    indented.chars level value = indentedChars level value
  | .list [] => rfl
  | .list (item :: rest) => by
      rw [chars, indentedChars, indented_chars (level + 1) item, indented_itemsChars level rest,
        List.append_assoc]
      rfl
  | .object [] => rfl
  | .object ((key, value) :: rest) => by
      rw [chars, indentedChars, indented_chars (level + 1) value, indented_fieldsChars level rest,
        List.append_assoc]
      rfl
  | .null | .bool _ | .int _ | .float _ | .string _ => rfl

theorem indented_itemsChars (level : Nat) : (items : List Value) →
    indented.itemsChars level items = indentedItems level items
  | [] => rfl
  | item :: rest => by
      rw [itemsChars, indentedItems, indented_chars (level + 1) item,
        indented_itemsChars level rest, List.append_assoc]
      rfl

theorem indented_fieldsChars (level : Nat) : (fields : List (String × Value)) →
    indented.fieldsChars level fields = indentedFields level fields
  | [] => rfl
  | (key, value) :: rest => by
      rw [fieldsChars, indentedFields, indented_chars (level + 1) value,
        indented_fieldsChars level rest, List.append_assoc]
      rfl

end

theorem length_itemsChars_pos (level : Nat) (items : List Value) :
    0 < (layout.itemsChars level items).length := by
  cases items <;> simp [itemsChars]

theorem length_fieldsChars_pos (level : Nat) (fields : List (String × Value)) :
    0 < (layout.fieldsChars level fields).length := by
  cases fields <;> simp [fieldsChars]

end Layout

end TreeTable.Json
