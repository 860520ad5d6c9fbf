import TreeTable.Path.Selector
import TreeTable.Regex.Basic

/-! # Paths

A path says which parts of a document are meant. Its surface form has four separators,
from the loosest to the tightest: `,` for every branch, `&` for all branches or none, `|`
for the first branch with a value, and `.` for one step after another.
-/

namespace TreeTable

open Numeric

/-- A path expression. -/
inductive Path where
  /-- A constant text. -/
  | literal (text : String)
  /-- A field by its key, or all of them, narrowed by a selection. -/
  | field (key : String) (selection : Option Selection)
  /-- The values of all keys that a pattern matches. -/
  | keys (pattern : Pattern)
  /-- The first branch that is not null. -/
  | any (branches : List Path)
  /-- All branches, or null when one is null. -/
  | all (branches : List Path)
  /-- Every branch in its place. -/
  | each (branches : List Path)
  /-- The value at the path that the inner path yields, from the root of the document. -/
  | lookup (inner : Path)
  /-- Reserved: it has no meaning, and no text reads as it. -/
  | inverse (inner : Path)
  /-- One step after another. -/
  | steps (path : List Path)

namespace Path

/-- The key that stands for every field and every element. -/
def wildcard : String := "*"

/-- Whether a path is the wildcard, narrowed or not. -/
def isWildcard : Path → Bool
  | field key _ => key == wildcard
  | _ => false

/-- Whether a key names a field: the wildcard and integers do not. -/
def namesField (key : String) : Bool := key != wildcard && (int64OfText? key).isNone

/-- Whether a path walks into the node it is given, and so is spread over the elements of a
list. -/
def navigates : Path → Bool
  | field key _ => namesField key
  | keys _ => true
  | _ => false

mutual

def decideEq : (a b : Path) → Decidable (a = b)
  | literal s, b => by
      cases b with
      | literal t => exact decidable_of_iff (s = t) (by simp)
      | _ => exact isFalse nofun
  | field k i, b => by
      cases b with
      | field l j => exact decidable_of_iff (k = l ∧ i = j) (by simp)
      | _ => exact isFalse nofun
  | keys p, b => by
      cases b with
      | keys q => exact decidable_of_iff (p = q) (by simp)
      | _ => exact isFalse nofun
  | any xs, b => by
      cases b with
      | any ys =>
          have := decideEqList xs ys
          exact decidable_of_iff (xs = ys) (by simp)
      | _ => exact isFalse nofun
  | all xs, b => by
      cases b with
      | all ys =>
          have := decideEqList xs ys
          exact decidable_of_iff (xs = ys) (by simp)
      | _ => exact isFalse nofun
  | each xs, b => by
      cases b with
      | each ys =>
          have := decideEqList xs ys
          exact decidable_of_iff (xs = ys) (by simp)
      | _ => exact isFalse nofun
  | lookup x, b => by
      cases b with
      | lookup y =>
          have := decideEq x y
          exact decidable_of_iff (x = y) (by simp)
      | _ => exact isFalse nofun
  | inverse x, b => by
      cases b with
      | inverse y =>
          have := decideEq x y
          exact decidable_of_iff (x = y) (by simp)
      | _ => exact isFalse nofun
  | steps xs, b => by
      cases b with
      | steps ys =>
          have := decideEqList xs ys
          exact decidable_of_iff (xs = ys) (by simp)
      | _ => exact isFalse nofun

def decideEqList : (a b : List Path) → Decidable (a = b)
  | [], [] => isTrue rfl
  | [], _ :: _ => isFalse nofun
  | _ :: _, [] => isFalse nofun
  | x :: xs, y :: ys =>
      have := decideEq x y
      have := decideEqList xs ys
      decidable_of_iff (x = y ∧ xs = ys) (by simp)

end

instance : DecidableEq Path := decideEq

mutual

/-- Whether a path and everything inside it pass a test. -/
def everywhere (test : Path → Bool) : Path → Bool
  | any branches => test (any branches) && everywhereIn test branches
  | all branches => test (all branches) && everywhereIn test branches
  | each branches => test (each branches) && everywhereIn test branches
  | lookup inner => test (lookup inner) && everywhere test inner
  | inverse inner => test (inverse inner) && everywhere test inner
  | steps path => test (steps path) && everywhereIn test path
  | step => test step

def everywhereIn (test : Path → Bool) : List Path → Bool
  | [] => true
  | path :: rest => everywhere test path && everywhereIn test rest

end

theorem everywhereIn_iff {test : Path → Bool} {paths : List Path} :
    everywhereIn test paths = true ↔ ∀ path ∈ paths, everywhere test path = true := by
  induction paths with
  | nil => simp [everywhereIn]
  | cons path rest ih => simp [everywhereIn, ih]

/-- Whether the reserved inverse occurs nowhere in a path. -/
def noInverse : Path → Bool :=
  everywhere fun
    | inverse _ => false
    | _ => true

/-- Whether no lookup occurs in a path. -/
def noLookup : Path → Bool :=
  everywhere fun
    | lookup _ => false
    | _ => true

/-- Whether a path never selects for two reasons at once: nothing in it joins what several
branches select, and no lookup starts again at the root. -/
def isSingleTrack : Path → Bool :=
  everywhere fun
    | all _ => false
    | each _ => false
    | lookup _ => false
    | _ => true

/-- Whether a step reads a named field, with at most one selector, or the keys that a pattern
matches. -/
def isPlainStep : Path → Bool
  | field key none => namesField key
  | field key (some selection) => namesField key && selection.length == 1
  | keys _ => true
  | _ => false

/-- Whether a path is a plain step or a sequence of plain steps. -/
def isPlain : Path → Bool
  | steps path => path.all isPlainStep
  | step => isPlainStep step

end Path

end TreeTable
