import TreeTable.Value.Basic

/-! # Equality and order of documents

Two equalities are used. The strict one tells integers from floats, the loose one, on
which joins rest, compares numbers by their value. Both compare floats numerically and
ignore the order of fields. Sorting uses one comparison: numbers by value, strings and
booleans by their own order, and different kinds by a fixed rank.
-/

namespace TreeTable

open Numeric

/-- Whether an integer may equal a float. -/
inductive Matching where
  | strict
  | loose
  deriving DecidableEq

namespace Value

mutual

/-- Deep equality under a rule for numbers. An object equals another of as many fields
when each of its fields has an equal partner under the same key. -/
def equals (rule : Matching) : Value → Value → Bool
  | null, null => true
  | bool a, bool b => a == b
  | int a, int b => decide (a = b)
  | float a, float b => a.eq b
  | int a, float b => decide (rule = .loose) && (Binary64.ofInt a.toInt).eq b
  | float a, int b => decide (rule = .loose) && (Binary64.ofInt b.toInt).eq a
  | string a, string b => decide (a = b)
  | list as, list bs => equalItems rule as bs
  | object as, object bs => decide (as.length = bs.length) && includedFields rule as bs
  | _, _ => false

/-- Equality element by element. -/
def equalItems (rule : Matching) : List Value → List Value → Bool
  | [], [] => true
  | a :: as, b :: bs => equals rule a b && equalItems rule as bs
  | _, _ => false

/-- Whether every field has an equal partner among the fields of the other object. -/
def includedFields (rule : Matching) : List (String × Value) → List (String × Value) → Bool
  | [], _ => true
  | (key, a) :: rest, bs =>
      (match Fields.get? bs key with
        | some b => equals rule a b
        | none => false) && includedFields rule rest bs

end

/-- Equality that tells integers from floats. -/
def strictEq (a b : Value) : Bool := equals .strict a b

/-- Equality of join keys, by numeric value. -/
def looseEq (a b : Value) : Bool := equals .loose a b

/-- The place of a kind among the kinds. -/
def rank : Value → Nat
  | null => 0
  | bool _ => 1
  | int _ => 2
  | float _ => 2
  | string _ => 3
  | list _ => 4
  | object _ => 5

/-- The order of two floats; what is not a number ties with everything. -/
def compareFloats (a b : Binary64) : Ordering := (a.compare? b).getD .eq

/-- The order that sorting uses. Lists tie with lists, and objects with objects. -/
def compare (a b : Value) : Ordering :=
  match a, b with
  | int a, int b => Ord.compare a.toInt b.toInt
  | float a, float b => compareFloats a b
  | int a, float b => compareFloats (Binary64.ofInt a.toInt) b
  | float a, int b => compareFloats a (Binary64.ofInt b.toInt)
  | string a, string b => Ord.compare a b
  | bool a, bool b => Ord.compare a b
  | a, b => Ord.compare a.rank b.rank

end Value

end TreeTable
