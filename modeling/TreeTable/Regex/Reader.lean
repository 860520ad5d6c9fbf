import TreeTable.Regex.Bracket

/-! # Reading regular expressions

An expression is read from left to right. Opened groups wait on a stack with the parts and
branches that stand before them; a closing parenthesis puts the group in their place.
Switching a mode holds up to the end of the group around it. Expressions nested deeper than
250 levels are refused.
-/

namespace TreeTable.Regex

open Unicode Text

/-- A part that has been read, with its depth of nesting. A switch of modes is a part that
cannot be repeated. -/
structure Part where
  node : Node
  depth : Nat
  repeatable : Bool

/-- A group that is not closed yet: its number if it is captured, what stands before it,
and the modes to go back to. -/
structure OpenGroup where
  index : Option Nat
  parts : List Part
  branches : List Part
  flags : Flags

/-- What has been read of an expression; parts and branches are listed last first. -/
structure Progress where
  flags : Flags := {}
  parts : List Part := []
  branches : List Part := []
  opened : List OpenGroup := []
  groups : Nat := 0
  names : List (String × Nat) := []

/-- An expression as it was read, with the numbers of its named groups. -/
structure Parsed where
  node : Node
  names : List (String × Nat)

/-- Parts one after another. -/
def joinParts : List Part → Part
  | [] => ⟨.empty, 0, true⟩
  | [part] => part
  | last :: before =>
      let node := before.foldl (fun after part => .seq part.node after) last.node
      ⟨node, (before.foldl (fun depth part => Nat.max depth part.depth) last.depth) + 1, true⟩

/-- Branches, the first preferred. -/
def joinBranches : List Part → Part
  | [] => ⟨.empty, 0, true⟩
  | [branch] => branch
  | last :: before =>
      let node := before.foldl (fun after branch => .alt branch.node after) last.node
      ⟨node, (before.foldl (fun depth part => Nat.max depth part.depth) last.depth) + 1, true⟩

namespace Progress

def push (p : Progress) (node : Node) (depth : Nat) : Progress :=
  { p with parts := ⟨node, depth, true⟩ :: p.parts }

/-- Everything inside the innermost open group. -/
def body (p : Progress) : Part := joinBranches (joinParts p.parts :: p.branches)

def openGroup (p : Progress) (index : Option Nat) (flags : Flags) : Progress :=
  { p with
    flags
    parts := []
    branches := []
    opened := ⟨index, p.parts, p.branches, p.flags⟩ :: p.opened }

def closeGroup? (p : Progress) : Option Progress :=
  match p.opened with
  | [] => none
  | group :: outer =>
      let body := p.body
      let node := match group.index with
        | some index => Node.group index body.node
        | none => body.node
      some { p with
        flags := group.flags
        parts := ⟨node, body.depth + 1, true⟩ :: group.parts
        branches := group.branches
        opened := outer }

/-- Repeats the last part. -/
def repeat? (p : Progress) (min : Nat) (max : Option Nat) (greedy : Bool) : Option Progress :=
  match p.parts with
  | [] => none
  | part :: before =>
      if part.repeatable then
        let node := part.node.repeated min max (greedy != p.flags.lazyFirst)
        some { p with parts := ⟨node, part.depth + 1, true⟩ :: before }
      else none

end Progress

/-- A repetition sign is greedy unless a question mark follows. -/
def readGreedy : List Char → Bool × List Char
  | '?' :: rest => (false, rest)
  | rest => (true, rest)

/-- The digits of a count. -/
def readCountDigits (flags : Flags) : Nat → List Char → List Char → List Char × List Char
  | 0, read, cs => (read.reverse, cs)
  | _, read, [] => (read.reverse, [])
  | fuel + 1, read, c :: rest =>
      if c.isDigit then readCountDigits flags fuel (c :: read) (skipFiller flags rest)
      else (read.reverse, c :: rest)

/-- A count between blanks; the outer option is the text being no count at all. -/
def readCount (flags : Flags) (cs : List Char) : Option (Option Nat × List Char) :=
  let cs := cs.dropWhile isBlank
  let (digits, rest) := readCountDigits flags cs.length [] cs
  let rest := skipFiller flags (rest.dropWhile isBlank)
  let count := digits.foldl (fun n c => n * 10 + (c.toNat - 48)) 0
  if digits = [] then some (none, rest)
  else if count < 0x100000000 then some (some count, rest)
  else none

/-- Bounds in braces, behind the opening brace. -/
def readBounds (flags : Flags) (cs : List Char) : Option (Nat × Option Nat × List Char) := do
  let (min?, rest) ← readCount flags (skipFiller flags cs)
  let min ← min?
  let (max, rest) ← match rest with
    | ',' :: rest =>
        match skipFiller flags rest with
        | '\x7d' :: rest => some (none, '\x7d' :: rest)
        | rest =>
            (readCount flags rest).bind fun (max?, rest) =>
              max?.map fun max => (some max, rest)
    | rest => some (some min, rest)
  match rest with
  | '\x7d' :: rest =>
      if max.all (min ≤ ·) then some (min, max, skipFiller flags rest) else none
  | _ => none

/-- Whether a character may stand in a group name. -/
def isNameChar (first : Bool) (c : Char) : Bool :=
  c == '_' || (CharSet.property "alphabetic").contains c ||
    (!first && (c == '.' || c == '[' || c == ']' || CharSet.numeric.contains c))

/-- A group name up to its closing angle bracket. -/
def readGroupName (cs : List Char) : Option (String × List Char) :=
  let (name, rest) := cs.span (· ≠ '>')
  match name, rest with
  | first :: others, _ :: rest =>
      if isNameChar true first && others.all (isNameChar false) then
        some (String.ofList name, rest)
      else none
  | _, _ => none

/-- Sets the mode of a letter. -/
def setFlag? (flags : Flags) (on : Bool) (c : Char) : Option Flags :=
  if c = 'i' then some { flags with ignoreCase := on }
  else if c = 'm' then some { flags with multiLine := on }
  else if c = 's' then some { flags with dotAll := on }
  else if c = 'U' then some { flags with lazyFirst := on }
  else if c = 'u' then some { flags with unicode := on }
  else if c = 'R' then some { flags with withReturn := on }
  else if c = 'x' then some { flags with verbose := on }
  else none

/-- The letters of a mode switch up to a colon or parenthesis: no letter twice, one hyphen
at most, and a letter behind it. -/
def readFlags : List Char → Flags → List Char → Option (Flags × List Char × List Char)
  | [], _, _ => none
  | c :: rest, flags, seen =>
      if c = ':' ∨ c = ')' then
        if seen.head? = some '-' then none else some (flags, seen, c :: rest)
      else if seen.contains c then none
      else if c = '-' then readFlags rest flags ('-' :: seen)
      else do readFlags rest (← setFlag? flags (!seen.contains '-') c) (c :: seen)

/-- Reads a group or a mode switch behind its opening parenthesis. -/
def readGroup (p : Progress) (cs : List Char) : Option (Progress × List Char) :=
  let number := p.groups + 1
  let named (cs : List Char) : Option (Progress × List Char) := do
    let (name, rest) ← readGroupName cs
    if (p.names.lookup name).isSome then none
    else
      let p := { p with groups := number, names := p.names ++ [(name, number)] }
      return (p.openGroup (some number) p.flags, rest)
  match skipFiller p.flags cs with
  | '?' :: '=' :: _ => none
  | '?' :: '!' :: _ => none
  | '?' :: '<' :: '=' :: _ => none
  | '?' :: '<' :: '!' :: _ => none
  | '?' :: 'P' :: '<' :: rest => named rest
  | '?' :: '<' :: rest => named rest
  | '?' :: rest => do
      let (flags, seen, rest) ← readFlags rest p.flags []
      match rest with
      | ')' :: rest =>
          if seen = [] then none
          else return ({ p with flags, parts := ⟨.empty, 0, false⟩ :: p.parts }, rest)
      | _ :: rest => return (p.openGroup none flags, rest)
      | [] => none
  | rest => some ({ p with groups := number }.openGroup (some number) p.flags, rest)

/-- Reads one part at the head of a text. -/
def readPart (p : Progress) : List Char → Option (Progress × List Char)
  | [] => none
  | '(' :: rest => readGroup p rest
  | ')' :: rest => p.closeGroup?.map (·, rest)
  | '|' :: rest =>
      some ({ p with parts := [], branches := joinParts p.parts :: p.branches }, rest)
  | '[' :: rest => do
      let (nested, rest) ← readBracket p.flags rest
      return (p.push (.one nested.set) nested.depth, rest)
  | '?' :: rest =>
      let (greedy, rest) := readGreedy rest
      (p.repeat? 0 (some 1) greedy).map (·, rest)
  | '*' :: rest =>
      let (greedy, rest) := readGreedy rest
      (p.repeat? 0 none greedy).map (·, rest)
  | '+' :: rest =>
      let (greedy, rest) := readGreedy rest
      (p.repeat? 1 none greedy).map (·, rest)
  | '\x7b' :: rest => do
      let (min, max, rest) ← readBounds p.flags rest
      let (greedy, rest) := readGreedy rest
      return (← p.repeat? min max greedy, rest)
  | cs => do
      let (primitive, rest) ← readPrimitive p.flags cs
      return (p.push (← primitive.toNode? p.flags) 0, rest)

/-- Reads the parts of a text up to its end. -/
def readParts : Nat → Progress → List Char → Option Progress
  | 0, _, _ => none
  | fuel + 1, p, cs =>
      match skipFiller p.flags cs with
      | [] => some p
      | cs => (readPart p cs).bind fun (p, rest) => readParts fuel p rest

/-- Reads an expression; none when the text is not one. -/
def Parsed.ofText? (text : String) : Option Parsed := do
  let cs := text.toList
  let p ← readParts (cs.length + 1) {} cs
  let body := p.body
  if p.opened.isEmpty && decide (body.depth ≤ 250) then
    let kept := body.node.groupIndices
    return ⟨body.node, p.names.filter fun name => kept.contains name.2⟩
  else none

end TreeTable.Regex
