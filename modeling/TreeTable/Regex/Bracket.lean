import TreeTable.Regex.Escape

/-! # Bracketed sets

Inside brackets stand characters, ranges, named sets and nested brackets, put together by
juxtaposition; `&&`, `--` and `~~` combine what stands on both sides, from left to right.
Sets are computed while they are read. Each set carries how deep brackets and combinations
are nested in it.
-/

namespace TreeTable.Regex

open Unicode Text

/-- A set operator between two parts of a bracket. -/
inductive SetOperator where
  | inter
  | diff
  | symmDiff
  deriving DecidableEq

/-- A set and its depth of nesting. -/
structure NestedSet where
  set : CharSet
  depth : Nat

/-- Parts put side by side: what they hold together, how many there are, and the depth of
the deepest. -/
structure Juxtaposed where
  set : CharSet := .empty
  count : Nat := 0
  depth : Nat := 0

namespace Juxtaposed

def push (j : Juxtaposed) (part : NestedSet) : Juxtaposed :=
  ⟨j.set.union part.set, j.count + 1, Nat.max j.depth part.depth⟩

/-- Two or more parts count as one more level. -/
def toNested (j : Juxtaposed) : NestedSet :=
  ⟨j.set, if j.count ≤ 1 then j.depth else j.depth + 1⟩

end Juxtaposed

/-- What encloses the parts being read. -/
inductive BracketFrame where
  /-- An opened bracket, and the parts that stand before it in the bracket around it. -/
  | opened (negated : Bool) (outer : Juxtaposed)
  | operator (op : SetOperator) (left : NestedSet)

/-- The case variants of a set, when case is ignored. -/
def foldIn (flags : Flags) (s : CharSet) : CharSet :=
  if flags.ignoreCase then if flags.unicode then s.foldCase else s.foldAsciiCase else s

def SetOperator.apply : SetOperator → CharSet → CharSet → CharSet
  | inter => CharSet.inter
  | diff => CharSet.diff
  | symmDiff => CharSet.symmDiff

/-- Carries out the operator that waits for its right side, if there is one. -/
def applyWaiting (flags : Flags) (right : NestedSet) :
    List BracketFrame → NestedSet × List BracketFrame
  | .operator op left :: frames =>
      (⟨op.apply (foldIn flags left.set) (foldIn flags right.set),
        Nat.max left.depth right.depth + 1⟩, frames)
  | frames => (right, frames)

/-- The set of a closed bracket. -/
def closedSet (flags : Flags) (negated : Bool) (inner : NestedSet) : NestedSet :=
  let folded := foldIn flags inner.set
  ⟨if negated then complementIn flags folded else folded, inner.depth + 1⟩

/-- Hyphens at the start of a bracket stand for themselves. -/
def readHyphens (flags : Flags) : Nat → Juxtaposed → List Char → Juxtaposed × List Char
  | 0, j, cs => (j, cs)
  | fuel + 1, j, cs =>
      match cs with
      | '-' :: rest => readHyphens flags fuel (j.push ⟨.single '-', 0⟩) (skipFiller flags rest)
      | _ => (j, cs)

/-- Opens a bracket behind its sign: a caret turns it round, and a closing bracket in first
place stands for itself. -/
def openBracket (flags : Flags) (cs : List Char) : Bool × Juxtaposed × List Char :=
  let (negated, cs) := match skipFiller flags cs with
    | '^' :: rest => (true, skipFiller flags rest)
    | cs => (false, cs)
  match readHyphens flags cs.length {} cs with
  | (j, ']' :: rest) =>
      if j.count = 0 then (negated, j.push ⟨.single ']', 0⟩, skipFiller flags rest)
      else (negated, j, ']' :: rest)
  | (j, cs) => (negated, j, cs)

def asciiClassTable : List (String × String) := [
  ("alnum", "30-39 41-5A 61-7A"), ("alpha", "41-5A 61-7A"), ("ascii", "0-7F"),
  ("blank", "9 20"), ("cntrl", "0-1F 7F"), ("digit", "30-39"), ("graph", "21-7E"),
  ("lower", "61-7A"), ("print", "20-7E"), ("punct", "21-2F 3A-40 5B-60 7B-7E"),
  ("space", "9-D 20"), ("upper", "41-5A"), ("word", "30-39 41-5A 5F 61-7A"),
  ("xdigit", "30-39 41-46 61-66")]

/-- An ASCII class between colons, behind its opening bracket. -/
def readAsciiClass (flags : Flags) (cs : List Char) : Option (CharSet × List Char) := do
  let inside ← match cs with
    | ':' :: rest => some rest
    | _ => none
  let (negated, inside) := match inside with
    | '^' :: rest => (true, rest)
    | inside => (false, inside)
  let (name, rest) := inside.span (· ≠ ':')
  let rest ← match rest with
    | ':' :: ']' :: rest => some rest
    | _ => none
  let set := foldIn flags (CharSet.ofTable (← asciiClassTable.lookup (String.ofList name)))
  return (if negated then complementIn flags set else set, rest)

/-- The first character that is no blank behind the current one; a number sign is passed
over once when comments are on. -/
def peekBeyond (flags : Flags) (rest : List Char) : Option Char :=
  if flags.verbose then
    match rest.dropWhile isBlank with
    | '#' :: rest => (rest.dropWhile isBlank).head?
    | rest => rest.head?
  else rest.head?

/-- A part inside brackets: a backslash begins an escape, anything else is itself. -/
def readSetPart (flags : Flags) : List Char → Option (Primitive × List Char)
  | [] => none
  | '\\' :: rest => readEscape flags rest
  | c :: rest => some (.char c false, rest)

/-- The character of a part; in the ASCII mode only ASCII characters are allowed. -/
def partChar? (flags : Flags) : Primitive → Option Char
  | .char c _ => if flags.unicode || decide (c.toNat ≤ 0x7F) then some c else none
  | _ => none

/-- The set of a part that is no end of a range. -/
def partSet? (flags : Flags) : Primitive → Option CharSet
  | .char c byte => (partChar? flags (.char c byte)).map CharSet.single
  | .set s => some s
  | .anchor _ => none
  | .dot => none

/-- A part, or a range of characters between two parts. -/
def readSetRange (flags : Flags) (cs : List Char) : Option (CharSet × List Char) := do
  let (first, rest) ← readSetPart flags cs
  match skipFiller flags rest with
  | [] => none
  | '-' :: after =>
      let next := peekBeyond flags after
      if next = some ']' ∨ next = some '-' then
        return (← partSet? flags first, '-' :: after)
      else
        let (last, rest) ← readSetPart flags (skipFiller flags after)
        let lo ← partChar? flags first
        let hi ← partChar? flags last
        if lo ≤ hi then return (.range lo.toNat hi.toNat, rest) else none
  | rest => return (← partSet? flags first, rest)

/-- Reads the inside of brackets up to the bracket that closes the outermost one. -/
def readBracketParts (flags : Flags) :
    Nat → List BracketFrame → Juxtaposed → List Char → Option (NestedSet × List Char)
  | 0, _, _, _ => none
  | fuel + 1, frames, j, cs =>
      let operator (op : SetOperator) (rest : List Char) :=
        let (left, frames) := applyWaiting flags j.toNested frames
        readBracketParts flags fuel (.operator op left :: frames) {} rest
      match skipFiller flags cs with
      | [] => none
      | '[' :: rest =>
          match readAsciiClass flags rest with
          | some (set, rest) => readBracketParts flags fuel frames (j.push ⟨set, 0⟩) rest
          | none =>
              let (negated, inner, rest) := openBracket flags rest
              readBracketParts flags fuel (.opened negated j :: frames) inner rest
      | ']' :: rest =>
          match applyWaiting flags j.toNested frames with
          | (inner, .opened negated outer :: frames) =>
              let closed := closedSet flags negated inner
              if frames.isEmpty then some (closed, rest)
              else readBracketParts flags fuel frames (outer.push closed) rest
          | _ => none
      | '&' :: '&' :: rest => operator .inter rest
      | '-' :: '-' :: rest => operator .diff rest
      | '~' :: '~' :: rest => operator .symmDiff rest
      | cs =>
          match readSetRange flags cs with
          | some (set, rest) => readBracketParts flags fuel frames (j.push ⟨set, 0⟩) rest
          | none => none

/-- Reads a bracketed set behind its opening bracket. In the ASCII mode it may only hold
ASCII characters. -/
def readBracket (flags : Flags) (cs : List Char) : Option (NestedSet × List Char) := do
  let (negated, inner, rest) := openBracket flags cs
  let (nested, rest) ←
    readBracketParts flags (rest.length + 1) [.opened negated {}] inner rest
  if flags.unicode || nested.set.isAscii then some (nested, rest) else none

end TreeTable.Regex
