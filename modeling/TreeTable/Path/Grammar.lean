import TreeTable.Path.Parser

/-! # The grammar of paths

The grammar has a level for each separator, and a level for single steps. A list at a level
has members of the next level; a list with one member denotes that member. The grammar says
which lexemes denote which path without saying how they are read.
-/

namespace TreeTable.Path

/-- The levels of the grammar from the loosest to the tightest. -/
inductive Level where
  | each
  | all
  | any
  | steps
  | step
  deriving DecidableEq

namespace Level

/-- The level of the members of a list. -/
def next : Level → Level
  | each => all
  | all => any
  | any => steps
  | steps => step
  | step => step

/-- The distance from the loosest level. -/
def depth : Level → Nat
  | each => 0
  | all => 1
  | any => 2
  | steps => 3
  | step => 4

/-- What stands between the members of a list. -/
def separator : Level → Lexeme
  | each => .comma
  | all => .ampersand
  | any => .bar
  | steps => .dot
  | step => .dot

/-- The path that a list of two or more members denotes. -/
def wrap : Level → List Path → Path
  | each => .each
  | all => .all
  | any => .any
  | steps => .steps
  | step => .steps

end Level

mutual

/-- Lexemes that denote a path at a level. -/
inductive Derives : Level → List Lexeme → Path → Prop where
  | literal (text : String) : Derives .step [.literal text] (.literal text)
  | keys (pattern : Pattern) : Derives .step [.pattern pattern.source] (.keys pattern)
  | lookup {word : List Lexeme} {inner : Path} (h : Derives .each word inner) :
      Derives .step (.lookupStart :: (word ++ [.lookupEnd])) (.lookup inner)
  | field (key : String) : Derives .step [.name key] (.field key none)
  | selected (key : String) {text : String} {selection : Selection}
      (h : Selection.ofText text = .ok selection) :
      Derives .step [.name key, .index text] (.field key (some selection))
  | selection {text : String} {selection : Selection}
      (h : Selection.ofText text = .ok selection) :
      Derives .step [.index text] (.field wildcard (some selection))
  | list {level : Level} {word : List Lexeme} {members : List Path}
      (isList : level ≠ .step) (h : DerivesMembers level word members) :
      Derives level word (collapse level.wrap members)

/-- Lexemes that denote the members of a list at a level, with separators between them. -/
inductive DerivesMembers : Level → List Lexeme → List Path → Prop where
  | one {level : Level} {word : List Lexeme} {member : Path}
      (h : Derives level.next word member) : DerivesMembers level word [member]
  | cons {level : Level} {word rest : List Lexeme} {member : Path} {members : List Path}
      (h : Derives level.next word member) (more : DerivesMembers level rest members) :
      DerivesMembers level (word ++ level.separator :: rest) (member :: members)

end

/-- What denotes a path at the next level denotes it as a list with one member. -/
theorem Derives.lift {level : Level} {word : List Lexeme} {path : Path}
    (isList : level ≠ .step) (h : Derives level.next word path) : Derives level word path := by
  have derived : Derives level word (collapse level.wrap [path]) := .list isList (.one h)
  exact derived

/-- A step denotes itself at every level. -/
theorem Derives.ofStep {word : List Lexeme} {path : Path} (h : Derives .step word path)
    (level : Level) : Derives level word path := by
  have atSteps : Derives .steps word path := .lift (by decide) h
  have atAny : Derives .any word path := .lift (by decide) atSteps
  have atAll : Derives .all word path := .lift (by decide) atAny
  cases level with
  | each => exact .lift (by decide) atAll
  | all => exact atAll
  | any => exact atAny
  | steps => exact atSteps
  | step => exact h

theorem DerivesMembers.ne_nil {level : Level} {word : List Lexeme} {members : List Path}
    (h : DerivesMembers level word members) : members ≠ [] := by
  cases h <;> simp

end TreeTable.Path
