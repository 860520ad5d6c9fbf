import TreeTable.Path.Grammar

/-! # Canonical paths

A canonical path is a path in the form that reading gives: lists are layered by their
separators and have two or more members, a literal ends its sequence, and keys, patterns and
selections have texts that are read as they are written.
-/

namespace TreeTable.Path

open Text

/-- Whether a key is read as a key: it has no blank at either end, no delimiter anywhere, and
does not begin with a sign. -/
def isCanonicalKey (key : List Char) : Bool :=
  match key with
  | [] => false
  | first :: _ =>
      first != '#' && first != '/' && first != '!' && !isBlank first &&
        !(key.getLast?.any isBlank) && !key.any isDelimiter

/-- Whether every backslash of a pattern has a character behind it, and none that is a
slash. -/
def isCanonicalSource : List Char → Bool
  | [] => true
  | ['\\'] => false
  | '\\' :: c :: rest => c != '/' && isCanonicalSource rest
  | _ :: rest => isCanonicalSource rest

/-- Whether no literal stands before the last of some steps. -/
def literalsLast : List Path → Bool
  | [] => true
  | [_] => true
  | literal _ :: _ :: _ => false
  | _ :: rest => literalsLast rest

mutual

/-- Whether a path is canonical where the grammar has a level. -/
def isCanonicalAt (level : Level) : Path → Bool
  | literal _ => true
  | field key selection => isCanonicalKey key.toList && selection != some []
  | keys pattern => isCanonicalSource pattern.source.toList
  | any branches =>
      decide (level.depth ≤ Level.any.depth) && decide (2 ≤ branches.length) &&
        areCanonicalAt .steps branches
  | all branches =>
      decide (level.depth ≤ Level.all.depth) && decide (2 ≤ branches.length) &&
        areCanonicalAt .any branches
  | each branches =>
      decide (level.depth ≤ Level.each.depth) && decide (2 ≤ branches.length) &&
        areCanonicalAt .all branches
  | lookup inner => isCanonicalAt .each inner
  | inverse _ => false
  | steps path =>
      decide (level.depth ≤ Level.steps.depth) && decide (2 ≤ path.length) &&
        literalsLast path && areCanonicalAt .step path

def areCanonicalAt (level : Level) : List Path → Bool
  | [] => true
  | path :: rest => isCanonicalAt level path && areCanonicalAt level rest

end

/-- A path in the form that reading gives. -/
def Canonical (path : Path) : Prop := isCanonicalAt .each path = true

instance (path : Path) : Decidable (Canonical path) :=
  inferInstanceAs (Decidable (isCanonicalAt .each path = true))

end TreeTable.Path
