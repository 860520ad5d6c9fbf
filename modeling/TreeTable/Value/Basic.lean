import TreeTable.Numeric.Binary64

/-! # Documents

A document is a tree of nulls, booleans, integers, floats, strings, lists and objects.
Integers and floats are different kinds. An object keeps its fields in the order in which
they were first written; its keys are meant to be distinct, which is the predicate
`WellFormed`, and every operation here keeps them so.
-/

namespace TreeTable

open Numeric

/-- A node of a document. -/
inductive Value where
  | null
  | bool (b : Bool)
  | int (n : Int64)
  | float (x : Binary64)
  | string (s : String)
  | list (items : List Value)
  | object (fields : List (String × Value))

instance : Inhabited Value := ⟨.null⟩

/-- Keys and their values, in order. -/
abbrev Fields := List (String × Value)

namespace Fields

def keys (fields : Fields) : List String := fields.map Prod.fst

/-- The value of a key, the first one when the key is repeated. -/
def get? (fields : Fields) (key : String) : Option Value := fields.lookup key

/-- Puts a value under a key: in place when the key is there, at the end otherwise. -/
def insert (key : String) (value : Value) : Fields → Fields
  | [] => [(key, value)]
  | (k, v) :: rest => if k = key then (k, value) :: rest else (k, v) :: insert key value rest

/-- Puts the fields of `later` one after another into `base`. -/
def merge (base later : Fields) : Fields :=
  later.foldl (fun fields field => fields.insert field.1 field.2) base

/-- The fields that a sequence of writes leaves: each key at its first place, with its
last value. -/
def ofWrites (writes : List (String × Value)) : Fields := merge [] writes

/-- Replaces the value of a key that is there. -/
def set (key : String) (value : Value) : Fields → Fields
  | [] => []
  | (k, v) :: rest => if k = key then (k, value) :: rest else (k, v) :: set key value rest

@[simp] theorem keys_nil : keys [] = [] := rfl

@[simp] theorem keys_cons (field : String × Value) (rest : Fields) :
    keys (field :: rest) = field.1 :: keys rest := rfl

@[simp] theorem get?_nil (key : String) : get? [] key = none := rfl

theorem get?_cons (k : String) (v : Value) (rest : Fields) (key : String) :
    get? ((k, v) :: rest) key = if key = k then some v else get? rest key := by
  by_cases h : key = k
  · simp [get?, h]
  · have hne : (key == k) = false := by simp [h]
    simp [get?, List.lookup_cons, hne, h]

/-- Reading back what was just put gives it; other keys are as before. -/
theorem get?_insert (fields : Fields) (key : String) (value : Value) (other : String) :
    (fields.insert key value).get? other =
      if other = key then some value else fields.get? other := by
  induction fields with
  | nil => simp [insert, get?_cons]
  | cons field rest ih =>
      obtain ⟨k, v⟩ := field
      by_cases hk : k = key
      · subst hk
        by_cases ho : other = k <;> simp [insert, get?_cons, ho]
      · by_cases ho : other = k
        · subst ho
          simp [insert, get?_cons, hk]
        · simp [insert, get?_cons, hk, ho, ih]

/-- Putting a value appends at most the key itself. -/
theorem keys_insert (fields : Fields) (key : String) (value : Value) :
    (fields.insert key value).keys =
      if key ∈ fields.keys then fields.keys else fields.keys ++ [key] := by
  induction fields with
  | nil => simp [insert]
  | cons field rest ih =>
      obtain ⟨k, v⟩ := field
      by_cases hk : k = key
      · simp [insert, hk]
      · have hk' : ¬ key = k := fun h => hk h.symm
        by_cases hmem : key ∈ keys rest <;> simp [insert, hk, hk', ih, hmem]

theorem get?_isSome_iff {fields : Fields} {key : String} :
    (fields.get? key).isSome ↔ key ∈ fields.keys := by
  induction fields with
  | nil => simp
  | cons field rest ih =>
      obtain ⟨k, v⟩ := field
      by_cases hk : key = k <;> simp [get?_cons, hk, ih]

theorem mem_of_get? {fields : Fields} {key : String} {value : Value}
    (h : fields.get? key = some value) : (key, value) ∈ fields := by
  obtain ⟨before, after, rfl, -⟩ := List.lookup_eq_some_iff.mp h
  exact List.mem_append_right before List.mem_cons_self

theorem nodup_keys_insert {fields : Fields} (h : fields.keys.Nodup) (key : String)
    (value : Value) : (fields.insert key value).keys.Nodup := by
  rw [keys_insert]
  split
  · exact h
  next hmem =>
    rw [List.nodup_append]
    refine ⟨h, by simp, ?_⟩
    intro a ha b hb hab
    rw [List.mem_singleton] at hb
    exact hmem (hb ▸ hab ▸ ha)

theorem keys_set (key : String) (value : Value) (fields : Fields) :
    (fields.set key value).keys = fields.keys := by
  induction fields with
  | nil => rfl
  | cons field rest ih =>
      obtain ⟨k, v⟩ := field
      by_cases hk : k = key <;> simp [set, hk, ih]

end Fields

namespace Value

def isNull : Value → Bool
  | null => true
  | _ => false

/-- The name of the kind of a node. -/
def kindName : Value → String
  | null => "null"
  | bool _ => "boolean"
  | int _ => "integer"
  | float _ => "float"
  | string _ => "string"
  | list _ => "array"
  | object _ => "object"

/-- A text as a node, null when there is none. -/
def ofText? (text : Option String) : Value := (text.map string).getD null

/-- Texts as a list of nodes. -/
def ofTexts (texts : List String) : Value := list (texts.map string)

/-- The field of an object; other nodes have none. -/
def get? (key : String) : Value → Option Value
  | object fields => Fields.get? fields key
  | _ => none

/-- Collapses a selection: one element stands for itself, anything else stays a list. -/
def sequester : List Value → Value
  | [item] => item
  | items => list items

/-- Splices the elements of every list among the items into their place. -/
def flattenOne (items : List Value) : List Value :=
  items.flatMap fun
    | list inner => inner
    | other => [other]

@[simp] theorem flattenOne_nil : flattenOne [] = [] := rfl

theorem flattenOne_append (first second : List Value) :
    flattenOne (first ++ second) = flattenOne first ++ flattenOne second := by
  simp [flattenOne, List.flatMap_append]

/-- A selection that is made of a value: nothing of null, the elements of a list, and
anything else alone. -/
def selected : Value → List Value
  | null => []
  | list items => items
  | other => [other]

mutual

/-- Every object of the tree has distinct keys. -/
def WellFormed : Value → Prop
  | list items => WellFormedItems items
  | object fields => (Fields.keys fields).Nodup ∧ WellFormedFields fields
  | _ => True

/-- Every one of the nodes is well formed. -/
def WellFormedItems : List Value → Prop
  | [] => True
  | item :: rest => WellFormed item ∧ WellFormedItems rest

/-- The value of every field is well formed. -/
def WellFormedFields : List (String × Value) → Prop
  | [] => True
  | (_, value) :: rest => WellFormed value ∧ WellFormedFields rest

end

mutual

/-- Equality of trees, decided node by node; the order of fields counts. -/
def decideEq : (a b : Value) → Decidable (a = b)
  | null, b => by
      cases b with
      | null => exact isTrue rfl
      | _ => exact isFalse nofun
  | bool x, b => by
      cases b with
      | bool y => exact decidable_of_iff (x = y) (by simp)
      | _ => exact isFalse nofun
  | int x, b => by
      cases b with
      | int y => exact decidable_of_iff (x = y) (by simp)
      | _ => exact isFalse nofun
  | float x, b => by
      cases b with
      | float y => exact decidable_of_iff (x = y) (by simp)
      | _ => exact isFalse nofun
  | string x, b => by
      cases b with
      | string y => exact decidable_of_iff (x = y) (by simp)
      | _ => exact isFalse nofun
  | list xs, b => by
      cases b with
      | list ys =>
          have := decideEqItems xs ys
          exact decidable_of_iff (xs = ys) (by simp)
      | _ => exact isFalse nofun
  | object xs, b => by
      cases b with
      | object ys =>
          have := decideEqFields xs ys
          exact decidable_of_iff (xs = ys) (by simp)
      | _ => exact isFalse nofun

def decideEqItems : (a b : List Value) → Decidable (a = b)
  | [], [] => isTrue rfl
  | [], _ :: _ => isFalse nofun
  | _ :: _, [] => isFalse nofun
  | x :: xs, y :: ys =>
      have := decideEq x y
      have := decideEqItems xs ys
      decidable_of_iff (x = y ∧ xs = ys) (by simp)

def decideEqFields : (a b : List (String × Value)) → Decidable (a = b)
  | [], [] => isTrue rfl
  | [], _ :: _ => isFalse nofun
  | _ :: _, [] => isFalse nofun
  | (k, x) :: xs, (l, y) :: ys =>
      have := decideEq x y
      have := decideEqFields xs ys
      decidable_of_iff (k = l ∧ x = y ∧ xs = ys) (by simp [and_assoc])

end

instance : DecidableEq Value := decideEq

/-- Induction over a tree: what holds of the children of a list or of an object carries over to
the node itself. -/
@[elab_as_elim]
theorem nodeInduction {motive : Value → Prop} (null : motive null)
    (bool : ∀ b, motive (bool b)) (int : ∀ n, motive (int n)) (float : ∀ x, motive (float x))
    (string : ∀ s, motive (string s))
    (list : ∀ items, (∀ item ∈ items, motive item) → motive (list items))
    (object : ∀ fields : Fields, (∀ field ∈ fields, motive field.2) → motive (object fields)) :
    (node : Value) → motive node
  | .null => null
  | .bool b => bool b
  | .int n => int n
  | .float x => float x
  | .string s => string s
  | .list items => list items fun item _ =>
      nodeInduction null bool int float string list object item
  | .object fields => object fields fun field _ =>
      nodeInduction null bool int float string list object field.2
  termination_by node => sizeOf node
  decreasing_by
    · decreasing_tactic
    · next hfield =>
        have smaller := List.sizeOf_lt_of_mem hfield
        obtain ⟨key, value⟩ := field
        simp only [Prod.mk.sizeOf_spec, Value.object.sizeOf_spec] at smaller ⊢
        omega

end Value

end TreeTable
