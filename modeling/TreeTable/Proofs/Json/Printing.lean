import TreeTable.Json.Printer

/-! # Documents as JSON can hold them

JSON has no floats that are infinite or no numbers. Both forms of printing put null for them, at any
depth, so a text shows the document in which they have been replaced.
-/

namespace TreeTable

namespace Value

mutual

/-- The document with null in place of every float that is not finite. -/
def jsonForm : Value → Value
  | float x => if x.isFinite then float x else null
  | list items => list (jsonFormItems items)
  | object fields => object (jsonFormFields fields)
  | other => other

def jsonFormItems : List Value → List Value
  | [] => []
  | item :: rest => jsonForm item :: jsonFormItems rest

def jsonFormFields : List (String × Value) → List (String × Value)
  | [] => []
  | (key, value) :: rest => (key, jsonForm value) :: jsonFormFields rest

end

theorem jsonFormItems_eq_map (items : List Value) :
    jsonFormItems items = items.map jsonForm := by
  induction items with
  | nil => rfl
  | cons item rest ih => rw [jsonFormItems, ih, List.map_cons]

theorem jsonFormFields_eq_map (fields : Fields) :
    jsonFormFields fields = fields.map fun field => (field.1, field.2.jsonForm) := by
  induction fields with
  | nil => rfl
  | cons field rest ih => rw [jsonFormFields, ih, List.map_cons]

end Value

namespace Json

open Value

theorem floatChars_of_not_finite {x : Numeric.Binary64} (h : ¬ x.isFinite = true) :
    floatChars x = scalarChars .null := by
  rw [floatChars, if_neg h, scalarChars]

mutual

theorem compactChars_jsonForm : (value : Value) → compactChars value.jsonForm = compactChars value
  | .list [] => by rw [jsonForm, jsonFormItems]
  | .list (item :: rest) => by
      rw [jsonForm, jsonFormItems, compactChars, compactChars, compactChars_jsonForm item,
        compactItems_jsonForm rest]
  | .object [] => by rw [jsonForm, jsonFormFields]
  | .object ((key, value) :: rest) => by
      rw [jsonForm, jsonFormFields, compactChars, compactChars, compactChars_jsonForm value,
        compactFields_jsonForm rest]
  | .float x => by
      rw [jsonForm]
      split
      next => rfl
      next infinite => exact (floatChars_of_not_finite infinite).symm
  | .null | .bool _ | .int _ | .string _ => rfl

theorem compactItems_jsonForm : (items : List Value) →
    compactItems (jsonFormItems items) = compactItems items
  | [] => by rw [jsonFormItems]
  | item :: rest => by
      rw [jsonFormItems, compactItems, compactItems, compactChars_jsonForm item,
        compactItems_jsonForm rest]

theorem compactFields_jsonForm : (fields : List (String × Value)) →
    compactFields (jsonFormFields fields) = compactFields fields
  | [] => by rw [jsonFormFields]
  | (key, value) :: rest => by
      rw [jsonFormFields, compactFields, compactFields, compactChars_jsonForm value,
        compactFields_jsonForm rest]

end

mutual

theorem indentedChars_jsonForm (level : Nat) : (value : Value) →
    indentedChars level value.jsonForm = indentedChars level value
  | .list [] => by rw [jsonForm, jsonFormItems]
  | .list (item :: rest) => by
      rw [jsonForm, jsonFormItems, indentedChars, indentedChars,
        indentedChars_jsonForm (level + 1) item, indentedItems_jsonForm level rest]
  | .object [] => by rw [jsonForm, jsonFormFields]
  | .object ((key, value) :: rest) => by
      rw [jsonForm, jsonFormFields, indentedChars, indentedChars,
        indentedChars_jsonForm (level + 1) value, indentedFields_jsonForm level rest]
  | .float x => by
      rw [jsonForm]
      split
      next => rfl
      next infinite => exact (floatChars_of_not_finite infinite).symm
  | .null | .bool _ | .int _ | .string _ => rfl

theorem indentedItems_jsonForm (level : Nat) : (items : List Value) →
    indentedItems level (jsonFormItems items) = indentedItems level items
  | [] => by rw [jsonFormItems]
  | item :: rest => by
      rw [jsonFormItems, indentedItems, indentedItems, indentedChars_jsonForm (level + 1) item,
        indentedItems_jsonForm level rest]

theorem indentedFields_jsonForm (level : Nat) : (fields : List (String × Value)) →
    indentedFields level (jsonFormFields fields) = indentedFields level fields
  | [] => by rw [jsonFormFields]
  | (key, value) :: rest => by
      rw [jsonFormFields, indentedFields, indentedFields, indentedChars_jsonForm (level + 1) value,
        indentedFields_jsonForm level rest]

end

end Json

namespace Value

/-- The text of a document shows what JSON can hold of it. -/
theorem toJson_jsonForm (value : Value) : value.jsonForm.toJson = value.toJson := by
  rw [toJson, toJson, Json.compactChars_jsonForm]

theorem toIndentedJson_jsonForm (value : Value) :
    value.jsonForm.toIndentedJson = value.toIndentedJson := by
  rw [toIndentedJson, toIndentedJson, Json.indentedChars_jsonForm]

end Value

end TreeTable
