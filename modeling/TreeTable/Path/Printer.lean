import TreeTable.Path.Basic

/-! # Writing paths

A path is written in its surface form. Separators and backslashes inside literals and
slashes inside patterns are escaped; nothing else is, so only paths in the form that
reading gives are read back as they were.
-/

namespace TreeTable.Path

/-- Whether a character ends a literal or escapes the next one. -/
def isLiteralSpecial (c : Char) : Bool :=
  c == ',' || c == '&' || c == '|' || c == '>' || c == '\\'

def escapeLiteral (text : List Char) : List Char :=
  text.flatMap fun c => if isLiteralSpecial c then ['\\', c] else [c]

def escapePattern (source : List Char) : List Char :=
  source.flatMap fun c => if c = '/' then ['\\', '/'] else [c]

/-- A selection in its brackets. -/
def selectionChars : Option Selection → List Char
  | none => []
  | some selection => '[' :: (selection.render.toList ++ [']'])

mutual

def renderChars : Path → List Char
  | literal text => '#' :: escapeLiteral text.toList
  | field key selection => key.toList ++ selectionChars selection
  | keys pattern => '/' :: (escapePattern pattern.source.toList ++ ['/'])
  | any branches => renderJoined '|' branches
  | all branches => renderJoined '&' branches
  | each branches => renderJoined ',' branches
  | lookup inner => '<' :: (renderChars inner ++ ['>'])
  | inverse inner => '!' :: renderChars inner
  | steps path => renderJoined '.' path

/-- The members with a separator between them. -/
def renderJoined (separator : Char) : List Path → List Char
  | [] => []
  | [path] => renderChars path
  | path :: rest => renderChars path ++ separator :: renderJoined separator rest

end

/-- The surface form of a path. -/
def render (path : Path) : String := String.ofList (renderChars path)

end TreeTable.Path
