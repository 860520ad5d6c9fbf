import TreeTable.Value.Basic

/-! # Documents by the floats in them -/

namespace TreeTable.Value

open Numeric

mutual

/-- Whether every float in a tree passes a test. -/
def allFloats (test : Binary64 → Bool) : Value → Bool
  | float x => test x
  | list items => allFloatsIn test items
  | object fields => allFloatsOf test fields
  | _ => true

def allFloatsIn (test : Binary64 → Bool) : List Value → Bool
  | [] => true
  | item :: rest => allFloats test item && allFloatsIn test rest

def allFloatsOf (test : Binary64 → Bool) : List (String × Value) → Bool
  | [] => true
  | (_, value) :: rest => allFloats test value && allFloatsOf test rest

end

/-- Whether no float occurs in a tree. -/
def floatFree (value : Value) : Bool := value.allFloats fun _ => false

/-- Whether every float in a tree is a number. -/
def nanFree (value : Value) : Bool := value.allFloats fun x => !x.isNaN

theorem allFloatsIn_iff {test : Binary64 → Bool} {items : List Value} :
    allFloatsIn test items = true ↔ ∀ item ∈ items, allFloats test item = true := by
  induction items with
  | nil => simp [allFloatsIn]
  | cons item rest ih => simp [allFloatsIn, ih]

theorem allFloatsOf_iff {test : Binary64 → Bool} {fields : List (String × Value)} :
    allFloatsOf test fields = true ↔ ∀ field ∈ fields, allFloats test field.2 = true := by
  induction fields with
  | nil => simp [allFloatsOf]
  | cons field rest ih =>
      obtain ⟨key, value⟩ := field
      simp [allFloatsOf, ih]

end TreeTable.Value
