import TreeTable.Regex.Node
import TreeTable.Unicode.Classes
import TreeTable.Text.Blank
import TreeTable.Text.Hex

/-! # Parts of an expression that stand for themselves

An escape, a dot or an anchor is read apart from where it stands: inside a bracketed set
only characters and sets are allowed. Reading gives the rest of the text, or nothing when
the text is no expression.
-/

namespace TreeTable.Regex

open Unicode Text

/-- The modes that an expression can switch. -/
structure Flags where
  ignoreCase : Bool := false
  multiLine : Bool := false
  dotAll : Bool := false
  lazyFirst : Bool := false
  unicode : Bool := true
  withReturn : Bool := false
  verbose : Bool := false
  deriving DecidableEq

/-- A part that is one character, one set or one place. -/
inductive Primitive where
  /-- A character; `byte` when it was written as a number of two digits. -/
  | char (c : Char) (byte : Bool)
  | set (s : CharSet)
  | anchor (a : Anchor)
  | dot

/-- Drops a comment up to and with its line end. -/
def dropComment : List Char → List Char
  | [] => []
  | '\n' :: rest => rest
  | _ :: rest => dropComment rest

/-- Skips blanks and comments, when the mode for them is on. -/
def skipFiller (flags : Flags) (cs : List Char) : List Char :=
  if flags.verbose then go cs.length cs else cs
where
  go : Nat → List Char → List Char
    | 0, cs => cs
    | _, [] => []
    | fuel + 1, c :: rest =>
        if isBlank c then go fuel rest
        else if c = '#' then go fuel (dropComment rest)
        else c :: rest

/-- The character of a number. -/
def charOfCode? (n : Nat) : Option Char :=
  if h : n.isValidChar then some (Char.ofNatAux n h) else none

/-- Exactly `count` hexadecimal digits. -/
def readHexFixed (flags : Flags) : Nat → Nat → List Char → Option (Nat × List Char)
  | 0, n, cs => some (n, cs)
  | _ + 1, _, [] => none
  | count + 1, n, c :: rest => do
      readHexFixed flags count (n * 16 + (← hexDigit? c)) (skipFiller flags rest)

/-- Hexadecimal digits up to a closing brace, at least one. -/
def readHexBraced (flags : Flags) : Nat → Option Nat → List Char → Option (Nat × List Char)
  | 0, _, _ => none
  | _, _, [] => none
  | fuel + 1, n, c :: rest =>
      if c = '\x7d' then n.map (·, skipFiller flags rest)
      else do
        let digit ← hexDigit? c
        readHexBraced flags fuel (some (n.getD 0 * 16 + digit)) (skipFiller flags rest)

/-- A character by its number, behind the letter that gives the count of digits. -/
def readHex (flags : Flags) (digits : Nat) (cs : List Char) : Option (Primitive × List Char) :=
  match skipFiller flags cs with
  | [] => none
  | '\x7b' :: rest => do
      let (n, rest) ← readHexBraced flags (rest.length + 1) none (skipFiller flags rest)
      return (.char (← charOfCode? n) false, rest)
  | cs => do
      let (n, rest) ← readHexFixed flags digits 0 cs
      return (.char (← charOfCode? n) (digits = 2), rest)

/-- The characters up to a closing brace, and what follows it. -/
def readBraced (flags : Flags) : Nat → List Char → List Char → Option (List Char × List Char)
  | 0, _, _ => none
  | _, _, [] => none
  | fuel + 1, read, c :: rest =>
      if c = '\x7d' then some (read.reverse, rest)
      else readBraced flags fuel (c :: read) (skipFiller flags rest)

/-- Cuts a text at the first occurrence of one or two characters. -/
def cutAt (mark : List Char) : List Char → Option (List Char × List Char)
  | [] => none
  | c :: rest =>
      if mark.isPrefixOf (c :: rest) then some ([], (c :: rest).drop mark.length)
      else (cutAt mark rest).map fun (before, after) => (c :: before, after)

/-- The set that a class name in braces stands for, and whether it is turned round. -/
def bracedSet? (name : List Char) : Option (CharSet × Bool) :=
  match cutAt ['!', '='] name with
  | some (property, value) => (valueSet? property value).map (·, true)
  | none =>
      match cutAt [':'] name <|> cutAt ['='] name with
      | some (property, value) => (valueSet? property value).map (·, false)
      | none => (namedSet? name).map (·, false)

/-- The set named behind the letter for properties, and whether it is turned round: a name
in braces, or one letter. -/
def readSetName (flags : Flags) (cs : List Char) : Option ((CharSet × Bool) × List Char) :=
  match skipFiller flags cs with
  | [] => none
  | '\x7b' :: rest => do
      let (name, rest) ← readBraced flags (rest.length + 1) [] (skipFiller flags rest)
      return (← bracedSet? name, rest)
  | c :: rest =>
      if c = '\\' then none
      else (namedSet? [c]).map fun set => ((set, false), skipFiller flags rest)

/-- A set by the name of a property, behind its letter. -/
def readNamedSet (flags : Flags) (negated : Bool) (cs : List Char) :
    Option (Primitive × List Char) := do
  let ((set, turned), rest) ← readSetName flags cs
  if flags.unicode then
    let folded := if flags.ignoreCase then set.foldCase else set
    return (.set (if negated != turned then folded.complement else folded), rest)
  else none

/-- The complement among characters, or among bytes when the mode is ASCII. -/
def complementIn (flags : Flags) (s : CharSet) : CharSet :=
  s.complement (if flags.unicode then CharSet.top else 0xFF)

/-- The set of digits, blanks or word characters, or what is left of it. -/
def shortSet? (flags : Flags) (c : Char) : Option CharSet :=
  let pick (unicode ascii : CharSet) := if flags.unicode then unicode else ascii
  if c = 'd' then some (pick .digit .asciiDigit)
  else if c = 's' then some (pick .blank .asciiBlank)
  else if c = 'w' then some (pick .word .asciiWord)
  else if c = 'D' then some (complementIn flags (pick .digit .asciiDigit))
  else if c = 'S' then some (complementIn flags (pick .blank .asciiBlank))
  else if c = 'W' then some (complementIn flags (pick .word .asciiWord))
  else none

/-- The control character that a letter stands for. -/
def controlEscape? (c : Char) : Option Char :=
  if c = 'a' then some '\x07'
  else if c = 'f' then some '\x0c'
  else if c = 't' then some '\t'
  else if c = 'n' then some '\n'
  else if c = 'r' then some '\r'
  else if c = 'v' then some '\x0b'
  else none

def wordPlaceOfName? (name : String) : Option WordPlace :=
  if name = "start" then some .start
  else if name = "end" then some .finish
  else if name = "start-half" then some .afterNoWord
  else if name = "end-half" then some .beforeNoWord
  else none

def isPlaceNameChar (c : Char) : Bool := c.isAlpha || c == '-'

/-- The letters of a place name, blanks between them skipped. -/
def readPlaceName (flags : Flags) : Nat → List Char → List Char → List Char × List Char
  | 0, read, cs => (read.reverse, cs)
  | _, read, [] => (read.reverse, [])
  | fuel + 1, read, c :: rest =>
      if isPlaceNameChar c then readPlaceName flags fuel (c :: read) (skipFiller flags rest)
      else (read.reverse, c :: rest)

/-- A word edge, or the place named in braces behind it. Braces that cannot hold a name are
left for a repetition. -/
def readWordEdge (flags : Flags) (cs : List Char) : Option (Primitive × List Char) :=
  let anchor place := Primitive.anchor (.word place !flags.unicode)
  match cs with
  | '\x7b' :: rest =>
      match skipFiller flags rest with
      | [] => none
      | c :: inside =>
          if isPlaceNameChar c then
            match readPlaceName flags (inside.length + 2) [] (c :: inside) with
            | (name, '\x7d' :: rest) =>
                (wordPlaceOfName? (String.ofList name)).map fun place => (anchor place, rest)
            | _ => none
          else some (anchor .edge, cs)
  | _ => some (anchor .edge, cs)

/-- ASCII characters other than letters, digits and angle brackets stand for themselves
behind a backslash. -/
def isPunctuationEscape (c : Char) : Bool :=
  decide (c.toNat < 0x80) && !c.isAlphanum && c != '<' && c != '>'

/-- Reads an escape behind its backslash. -/
def readEscape (flags : Flags) : List Char → Option (Primitive × List Char)
  | [] => none
  | c :: rest =>
      let word place := some (Primitive.anchor (.word place !flags.unicode), rest)
      if c = 'x' then readHex flags 2 rest
      else if c = 'u' then readHex flags 4 rest
      else if c = 'U' then readHex flags 8 rest
      else if c = 'p' then readNamedSet flags false rest
      else if c = 'P' then readNamedSet flags true rest
      else if isPunctuationEscape c then some (.char c false, rest)
      else if c = 'A' then some (.anchor .textStart, rest)
      else if c = 'z' then some (.anchor .textEnd, rest)
      else if c = 'b' then readWordEdge flags rest
      else if c = 'B' then word .noEdge
      else if c = '<' then word .start
      else if c = '>' then word .finish
      else match shortSet? flags c with
        | some set => some (.set set, rest)
        | none => (controlEscape? c).map fun d => (.char d false, rest)

/-- Reads the part at the head of a text: an escape, a dot, an anchor or a character. -/
def readPrimitive (flags : Flags) : List Char → Option (Primitive × List Char)
  | [] => none
  | '\\' :: rest => readEscape flags rest
  | '.' :: rest => some (.dot, rest)
  | '^' :: rest =>
      some (.anchor (if flags.multiLine then .lineStart flags.withReturn else .textStart), rest)
  | '$' :: rest =>
      some (.anchor (if flags.multiLine then .lineEnd flags.withReturn else .textEnd), rest)
  | c :: rest => some (.char c false, rest)

/-- The expression of a part, none when the part could match half a character. -/
def Primitive.toNode? (flags : Flags) : Primitive → Option Node
  | .char c byte =>
      if !flags.unicode && byte && decide (0x7F < c.toNat) then none
      else if flags.ignoreCase then
        let set := CharSet.single c
        some (.one (if flags.unicode then set.foldCase else set.foldAsciiCase))
      else some (.one (.single c))
  | .set s => if flags.unicode || s.isAscii then some (.one s) else none
  | .anchor a => some (.anchor a)
  | .dot =>
      if !flags.unicode then none
      else if flags.dotAll then some (.one .full)
      else if flags.withReturn then
        some (.one ((CharSet.single '\n').union (.single '\r')).complement)
      else some (.one (CharSet.single '\n').complement)

end TreeTable.Regex
