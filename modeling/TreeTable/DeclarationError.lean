import TreeTable.Path.Parser

/-! # Errors in declarations

Merge rules and extraction trees are declared as texts. All paths and patterns in them are
read before anything runs, and the first one that is wrong is reported with the place that
declares it.
-/

namespace TreeTable

open TreeTable.Path (quoteTicks)

/-- Why a declaration cannot be carried out. -/
inductive DeclarationError where
  /-- A path that cannot be read, at a node or in a merge rule. -/
  | path (node : String) (cause : Path.ParseError)
  /-- A text that is no pattern, in a stage at a node. -/
  | pattern (node source : String)
  /-- Stages at a node that captures nothing. -/
  | composedInterior (node : String)
  /-- A clause that refines a merge rule before there is one. -/
  | noOpenRule (clause : String)
  /-- A merge rule that matches on nothing. -/
  | noMatchers (rule : String)
  deriving DecidableEq

def DeclarationError.message : DeclarationError → String
  | path node cause => "invalid path in " ++ quoteTicks node ++ ": " ++ cause.message
  | pattern node source => "invalid regex " ++ quoteTicks source ++ " in " ++ quoteTicks node
  | composedInterior node =>
      quoteTicks node ++ " is not a capture; composition functions need a captured value"
  | noOpenRule clause => quoteTicks clause ++ " declared before any merge rule"
  | noMatchers rule => "merge rule " ++ quoteTicks rule ++ " has no matchers"

/-- Reads a path that is declared at a node. -/
def Path.declared (node text : String) : Except DeclarationError Path :=
  (parse text).mapError (.path node)

end TreeTable
