import TreeTable.DeclarationError

/-! # Merge rules

A merge rule joins the objects at its left path with the values at its right path wherever
all pairs of keys agree. Rules are declared as texts, one by one or as a sequence of calls
in which later calls refine the rule that was opened last.
-/

namespace TreeTable

/-- A path with the text that it is written as. -/
structure WrittenPath where
  text : String
  path : Path

/-- Reads a path that is part of a rule. -/
def WrittenPath.ofText (rule text : String) : Except DeclarationError WrittenPath :=
  match Path.parse text with
  | .ok path => .ok ⟨text, path⟩
  | .error cause => .error (.path rule cause)

/-- A merge rule. -/
structure JoinRule where
  left : WrittenPath
  right : WrittenPath
  /-- Left keys with the right keys that they must equal. -/
  matchers : List (WrittenPath × WrittenPath)
  /-- The field that takes the matches; without one their own fields are taken over. -/
  target : Option String

/-- The name of a rule in messages. -/
def JoinRule.labelOf (left right : String) : String := left ++ " <- " ++ right

def JoinRule.label (rule : JoinRule) : String := labelOf rule.left.text rule.right.text

/-- A merge rule as it is declared. -/
structure JoinSpec where
  left : String
  right : String
  matchers : List (String × String)
  target : Option String
  deriving DecidableEq

namespace JoinSpec

def label (spec : JoinSpec) : String := JoinRule.labelOf spec.left spec.right

/-- Reads the keys of all matchers. -/
def compileMatchers (rule : String) :
    List (String × String) → Except DeclarationError (List (WrittenPath × WrittenPath))
  | [] => .ok []
  | (left, right) :: rest => do
      let left ← WrittenPath.ofText rule left
      let right ← WrittenPath.ofText rule right
      let others ← compileMatchers rule rest
      return (left, right) :: others

/-- Reads a rule, which must have a matcher: first its matchers, then its left and its right
path. -/
def compile (spec : JoinSpec) : Except DeclarationError JoinRule := do
  if spec.matchers.isEmpty then throw (.noMatchers spec.label)
  let matchers ← compileMatchers spec.label spec.matchers
  let left ← WrittenPath.ofText spec.label spec.left
  let right ← WrittenPath.ofText spec.label spec.right
  return ⟨left, right, matchers, spec.target⟩

/-- Reads rules in order, up to the first that is wrong. -/
def compileAll : List JoinSpec → Except DeclarationError (List JoinRule)
  | [] => .ok []
  | spec :: rest => do
      let rule ← spec.compile
      let rules ← compileAll rest
      return rule :: rules

end JoinSpec

/-- A call that opens or refines a merge rule. -/
inductive JoinCall where
  | merge (left right : String)
  | on (leftKey rightKey : String)
  | intoField (field : String)
  deriving DecidableEq

/-- The form of a call in messages. -/
def JoinCall.clause : JoinCall → String
  | merge left right => "merge(" ++ left ++ ", " ++ right ++ ")"
  | on leftKey rightKey => "on(" ++ leftKey ++ ", " ++ rightKey ++ ")"
  | intoField field => "into_field(" ++ field ++ ")"

/-- Merge rules in the course of being declared. -/
structure JoinBuilder where
  /-- The rules that were opened, the last one first. -/
  rules : List JoinSpec := []
  /-- The error of the first call that had no rule to refine. -/
  error : Option DeclarationError := none

namespace JoinBuilder

/-- Changes the rule that was opened last. Without one the call is an error, and the first such
error is kept. -/
def refine (builder : JoinBuilder) (call : JoinCall) (change : JoinSpec → JoinSpec) :
    JoinBuilder :=
  match builder.rules with
  | rule :: others => { builder with rules := change rule :: others }
  | [] => { builder with error := builder.error <|> some (.noOpenRule call.clause) }

def take (builder : JoinBuilder) (call : JoinCall) : JoinBuilder :=
  match call with
  | .merge left right => { builder with rules := ⟨left, right, [], none⟩ :: builder.rules }
  | .on leftKey rightKey => builder.refine call fun rule =>
      { rule with matchers := rule.matchers ++ [(leftKey, rightKey)] }
  | .intoField field => builder.refine call fun rule => { rule with target := some field }

/-- Reads the rules that were opened, unless a call had none to refine. -/
def build (builder : JoinBuilder) : Except DeclarationError (List JoinRule) :=
  match builder.error with
  | some error => .error error
  | none => JoinSpec.compileAll builder.rules.reverse

end JoinBuilder

/-- Reads the rules that calls declare. -/
def JoinCall.compile (calls : List JoinCall) : Except DeclarationError (List JoinRule) :=
  (calls.foldl JoinBuilder.take {}).build

end TreeTable
