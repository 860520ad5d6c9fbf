import TreeTable.Unicode.CharSet

/-! # Regular expressions

A regular expression is a tree. All modes that can be switched inside an expression are
resolved in it: a letter whose case does not matter is a set of characters, and an anchor
says which places it means.
-/

namespace TreeTable.Regex

open Unicode

/-- How a place relates to the words around it. -/
inductive WordPlace where
  | edge
  | noEdge
  | start
  | finish
  | afterNoWord
  | beforeNoWord
  deriving DecidableEq

/-- A condition on a place between two characters. -/
inductive Anchor where
  | textStart
  | textEnd
  /-- The start of a line; lines end in a line feed, or also in a carriage return. -/
  | lineStart (withReturn : Bool)
  | lineEnd (withReturn : Bool)
  /-- A place at a word, words being those of ASCII or of all scripts. -/
  | word (place : WordPlace) (ascii : Bool)
  deriving DecidableEq

/-- A regular expression. -/
inductive Node where
  | empty
  | one (set : CharSet)
  | anchor (a : Anchor)
  | group (index : Nat) (body : Node)
  /-- At least `min` times the body, and at most `max` times if there is a bound; more of
  it is preferred when `greedy`. -/
  | many (body : Node) (min : Nat) (max : Option Nat) (greedy : Bool)
  | seq (first second : Node)
  /-- Either one, the first preferred. -/
  | alt (first second : Node)

namespace Node

/-- The length of the shortest match; none when a set in it is empty. -/
def minLength : Node → Option Nat
  | empty => some 0
  | one set => if set.isEmpty then none else some 1
  | anchor _ => some 0
  | group _ body => body.minLength
  | many body min _ _ => body.minLength.map (· * min)
  | seq first second => do return (← first.minLength) + (← second.minLength)
  | alt first second => do return Nat.min (← first.minLength) (← second.minLength)

/-- The length of the longest match; none when there is no bound, or a set in it is
empty. -/
def maxLength : Node → Option Nat
  | empty => some 0
  | one set => if set.isEmpty then none else some 1
  | anchor _ => some 0
  | group _ body => body.maxLength
  | many body _ max _ => do return (← body.maxLength) * (← max)
  | seq first second => do return (← first.maxLength) + (← second.maxLength)
  | alt first second => do return Nat.max (← first.maxLength) (← second.maxLength)

/-- A repetition. What matches nothing but the empty text is never repeated twice, no
repetition at all is the empty expression, and exactly one is the body. -/
def repeated (body : Node) (min : Nat) (max : Option Nat) (greedy : Bool) : Node :=
  let once := body.maxLength = some 0
  let min := if once then Nat.min min 1 else min
  let max := if once then some (Nat.min (max.getD 1) 1) else max
  if min = 0 ∧ max = some 0 then empty
  else if min = 1 ∧ max = some 1 then body
  else many body min max greedy

/-- One more than the greatest group number, or 1: the number of groups, the match itself
being the first. -/
def groupCount : Node → Nat
  | empty => 1
  | one _ => 1
  | anchor _ => 1
  | group index body => Nat.max (index + 1) body.groupCount
  | many body _ _ _ => body.groupCount
  | seq first second => Nat.max first.groupCount second.groupCount
  | alt first second => Nat.max first.groupCount second.groupCount

/-- The groups that occur. -/
def groupIndices : Node → List Nat
  | empty => []
  | one _ => []
  | anchor _ => []
  | group index body => index :: body.groupIndices
  | many body _ _ _ => body.groupIndices
  | seq first second => first.groupIndices ++ second.groupIndices
  | alt first second => first.groupIndices ++ second.groupIndices

end Node

end TreeTable.Regex
