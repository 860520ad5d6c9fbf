import TreeTable.Json.Tree

/-! # Taking shapes out of JSON texts

A shape goes through a text in order, and the first part that is unreadable or of the wrong
kind decides the error. A record is written as an object, whose keys are all known and not
repeated, or as the list of its fields in their order, in which trailing fields that are not
required may be missing.
-/

namespace TreeTable.Json

open Numeric

/-- What is read from a text as far as it could be read. -/
abbrev Shape (α : Type) := Tree → Except Error α

/-- The error of a text that is not of the wanted kind. -/
def Tree.wrongKind : Tree → Error
  | .broken error => error
  | _ => .mistyped

def Tree.asString : Shape String
  | .string s => .ok s
  | other => .error other.wrongKind

def Tree.asBool : Shape Bool
  | .bool b => .ok b
  | other => .error other.wrongKind

/-- Any number, as a double. -/
def Tree.asFloat : Shape Binary64
  | .number n => .ok n.toBinary64
  | other => .error other.wrongKind

/-- Null stands for nothing. -/
def Tree.asOption (shape : Shape α) : Shape (Option α)
  | .null => .ok none
  | other => (shape other).map some

/-- Reads elements to the end of a list. -/
def Items.readAll (shape : Shape α) : Items → Except Error (List α)
  | .closed => .ok []
  | .broken error _ => .error error
  | .cons item rest => do
      let value ← shape item
      let values ← rest.readAll shape
      return value :: values

def Tree.asList (shape : Shape α) : Shape (List α)
  | .list items => items.readAll shape
  | other => .error other.wrongKind

/-- Ends a list that must not have further elements. -/
def Items.finish : Items → Except Error Unit
  | .closed => .ok ()
  | .broken error false => .error error
  | .broken _ true => .error .malformed
  | .cons _ _ => .error .malformed

/-- A list of two texts. -/
def Tree.asPair : Shape (String × String)
  | .list (.cons first (.cons second rest)) => do
      let first ← first.asString
      let second ← second.asString
      rest.finish
      return (first, second)
  | .list (.cons first (.broken error _)) => do
      let _ ← first.asString
      throw error
  | .list (.cons first .closed) => do
      let _ ← first.asString
      throw .mistyped
  | .list (.broken error _) => .error error
  | other => .error other.wrongKind

/-- A text that can be read to its end, whatever it is. -/
def Tree.whole (tree : Tree) : Except Error Tree := tree.toValue.map fun _ => tree

/-- A field of a record, and how it is put into the record that is being read. -/
structure FieldShape (σ : Type) where
  name : String
  required : Bool
  read : Tree → σ → Except Error σ

namespace FieldShape

/-- A field that must be there. -/
def mandatory (name : String) (shape : Shape α) (put : α → σ → σ) : FieldShape σ :=
  ⟨name, true, fun tree record => (shape tree).map (put · record)⟩

/-- A field with a default. -/
def optional (name : String) (shape : Shape α) (put : α → σ → σ) : FieldShape σ :=
  ⟨name, false, fun tree record => (shape tree).map (put · record)⟩

end FieldShape

/-- Reads the entries of a record. `seen` holds the keys before. -/
def Entries.readRecord (fields : List (FieldShape σ)) :
    Entries → List String → σ → Except Error σ
  | .closed, seen, record =>
      if fields.all fun field => !field.required || seen.contains field.name then .ok record
      else .error .mistyped
  | .broken error, _, _ => .error error
  | .cons key value rest, seen, record =>
      if seen.contains key then .error .mistyped
      else match fields.find? (·.name == key) with
        | none => .error .mistyped
        | some field => do
            let record ← field.read value record
            rest.readRecord fields (key :: seen) record

/-- Reads the fields of a record in their order. -/
def Items.readRecord : Items → List (FieldShape σ) → σ → Except Error σ
  | items, [], record => items.finish.map fun _ => record
  | .closed, fields, record =>
      if fields.any (·.required) then .error .mistyped else .ok record
  | .broken error _, _ :: _, _ => .error error
  | .cons item rest, field :: fields, record => do
      let record ← field.read item record
      rest.readRecord fields record

/-- A record with these fields, the others being as in `blank`. -/
def Tree.asRecord (fields : List (FieldShape σ)) (blank : σ) : Shape σ
  | .list items => items.readRecord fields blank
  | .object entries => entries.readRecord fields [] blank
  | other => .error other.wrongKind

end TreeTable.Json
