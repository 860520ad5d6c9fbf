import TreeTable.Path.Lexeme
import TreeTable.Text.Blank

/-! # Splitting paths into lexemes

A key runs up to the next delimiter and may hold blanks; only those at its end are cut.
The signs for literals, patterns and the reserved inverse count as signs only where a step
may begin: elsewhere they are part of a key. The whole text is split into a stream that
ends in the end of the text or in an error.
-/

namespace TreeTable.Path

open Text

/-- Whether a character ends a key. -/
def isDelimiter (c : Char) : Bool :=
  c == '[' || c == ']' || c == '\x7b' || c == '\x7d' || c == '|' || c == '&' || c == ',' ||
    c == '.' || c == '<' || c == '>'

/-- Whether an unescaped character ends a literal. -/
def endsLiteral (c : Char) : Bool := c == ',' || c == '&' || c == '|' || c == '>'

/-- A literal behind its sign: a backslash is dropped and the next character taken as it
is. -/
def readLiteral : List Char → List Char × List Char
  | [] => ([], [])
  | ['\\'] => ([], [])
  | '\\' :: c :: rest =>
      let (text, rest) := readLiteral rest
      (c :: text, rest)
  | c :: rest =>
      if endsLiteral c then ([], c :: rest)
      else
        let (text, rest) := readLiteral rest
        (c :: text, rest)

/-- A pattern behind its opening slash; none when no slash closes it. A backslash keeps
itself and the next character, but is dropped before a slash. -/
def readPattern : List Char → Option (List Char × List Char)
  | [] => none
  | '/' :: rest => some ([], rest)
  | ['\\'] => none
  | '\\' :: c :: rest =>
      (readPattern rest).map fun (source, rest) =>
        (if c = '/' then c :: source else '\\' :: c :: source, rest)
  | c :: rest => (readPattern rest).map fun (source, rest) => (c :: source, rest)

/-- The text between brackets, behind the opening one; or the cause why it does not end,
with the characters left where it shows. -/
def readIndex : List Char → Except (LexCause × List Char) (List Char × List Char)
  | [] => .error (.openIndex, [])
  | c :: rest =>
      if c = ']' then .ok ([], rest)
      else if c = '[' then .error (.nestedIndex, c :: rest)
      else (readIndex rest).map fun (text, rest) => (c :: text, rest)

/-- Where the splitting stands. -/
structure Cursor where
  position : Nat
  rest : List Char
  /-- Whether a step may begin here. -/
  atStep : Bool
  deriving DecidableEq

namespace Cursor

def ofText (text : String) : Cursor := ⟨0, text.toList, true⟩

/-- Moves to a later rest of the same text. -/
def moveTo (cursor : Cursor) (rest : List Char) (atStep : Bool) : Cursor :=
  ⟨cursor.position + (cursor.rest.length - rest.length), rest, atStep⟩

/-- Skips the blanks before the next lexeme. -/
def skipBlanks (cursor : Cursor) : Cursor :=
  cursor.moveTo (trimStart cursor.rest) cursor.atStep

/-- The lexeme at a place where no blank stands, and the place behind it. -/
def read (cursor : Cursor) : Except LexError (Lexeme × Cursor) :=
  let single (lexeme : Lexeme) (rest : List Char) (atStep : Bool) :=
    Except.ok (lexeme, cursor.moveTo rest atStep)
  let key (cs : List Char) :=
    Except.ok (Lexeme.name (String.ofList (trimEnd (cs.takeWhile (!isDelimiter ·)))),
      cursor.moveTo (cs.dropWhile (!isDelimiter ·)) false)
  match cursor.rest with
  | [] => single .finish [] true
  | c :: rest =>
      if c = '.' then single .dot rest true
      else if c = ',' then single .comma rest true
      else if c = '&' then single .ampersand rest true
      else if c = '|' then single .bar rest true
      else if c = '<' then single .lookupStart rest true
      else if c = '>' then single .lookupEnd rest false
      else if c = '[' then
        match readIndex rest with
        -- An open selection is blamed on its bracket, a nested one on the inner bracket.
        | .ok (text, after) => single (.index (String.ofList text)) after false
        | .error (.nestedIndex, after) =>
            .error ⟨.nestedIndex, cursor.position + (cursor.rest.length - after.length)⟩
        | .error (cause, _) => .error ⟨cause, cursor.position⟩
      else if c = ']' ∨ c = '\x7b' ∨ c = '\x7d' then
        .error ⟨.strayCharacter c, cursor.position⟩
      else if cursor.atStep then
        if c = '#' then
          let (text, after) := readLiteral rest
          single (.literal (String.ofList text)) after false
        else if c = '/' then
          match readPattern rest with
          | some (source, after) => single (.pattern (String.ofList source)) after false
          | none => .error ⟨.openPattern, cursor.position⟩
        else if c = '!' then single .bang rest true
        else key (c :: rest)
      else key (c :: rest)

end Cursor

/-- A lexeme and the places where it begins and ends. -/
structure Placed where
  lexeme : Lexeme
  start : Nat
  stop : Nat
  deriving DecidableEq

/-- The lexemes of a text up to its end or to the first error. -/
inductive Stream where
  | finish (position : Nat)
  | fault (error : LexError)
  | cons (head : Placed) (tail : Stream)

namespace Stream

/-- Reads lexemes from a place on. Each takes at least one character, so the length of the
rest bounds their number. -/
def read : Nat → Cursor → Stream
  | 0, cursor => .finish cursor.position
  | fuel + 1, cursor =>
      let start := cursor.skipBlanks
      match start.read with
      | .error error => .fault error
      | .ok (.finish, _) => .finish start.position
      | .ok (lexeme, next) => .cons ⟨lexeme, start.position, next.position⟩ (read fuel next)

def ofText (text : String) : Stream :=
  let cursor := Cursor.ofText text
  read (cursor.rest.length + 1) cursor

/-- The lexemes with their places, the end of the text included; and the error that cuts
them off, if one does. -/
def placed : Stream → List Placed × Option LexError
  | finish position => ([⟨.finish, position, position⟩], none)
  | fault error => ([], some error)
  | cons head tail =>
      let (rest, error) := tail.placed
      (head :: rest, error)

/-- All lexemes of a text, the end of the text being the last, unless there is an error. -/
def toLexemes : Stream → Except LexError (List Lexeme)
  | finish _ => .ok [.finish]
  | fault error => .error error
  | cons head tail => tail.toLexemes.map (head.lexeme :: ·)

end Stream

/-- The lexemes of a text, ending with its end. -/
def tokenize (text : String) : Except LexError (List Lexeme) := (Stream.ofText text).toLexemes

end TreeTable.Path
