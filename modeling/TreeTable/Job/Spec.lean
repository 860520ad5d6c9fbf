import TreeTable.Join.Rule
import TreeTable.Numeric.Binary64

/-! # Jobs

A job declares merge rules and an extraction tree as data. Every field of a job file is
kept as it is written there, so that a job can be written down again.
-/

namespace TreeTable

open Numeric

/-- A stage as it is declared. -/
inductive StageSpec where
  | sum (start : Binary64)
  | average
  | join (separator : String)
  | sort (descending : Bool)
  | unique
  | count (compact : Bool)
  | scan (pattern : String)
  | capture (pattern : String) (groups : List String)
  deriving DecidableEq

/-- A node as it is declared. Exactly one of the first five fields should say what it is. -/
structure NodeSpec where
  key : Option String := none
  find : Option String := none
  capture : Option String := none
  aggregate : List String := []
  /-- The name under which the node itself is captured. -/
  value : Option String := none
  name : Option String := none
  splat : Bool := false
  stages : List StageSpec := []
  children : List NodeSpec := []

/-- An extraction tree as it is declared. -/
structure ExtractSpec where
  /-- The path from which the data is taken. -/
  source : Option String := none
  header : Option (List String) := none
  nodes : List NodeSpec := []

structure JobSpec where
  rules : List JoinSpec := []
  extract : ExtractSpec := {}

end TreeTable
