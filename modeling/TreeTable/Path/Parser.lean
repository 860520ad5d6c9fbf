import TreeTable.Path.Lexer
import TreeTable.Path.Basic

/-! # Reading paths

The parser goes through the lexemes once. Members that are complete wait in a frame with
one list for every separator; a lookup that is still open puts a new frame on the stack.
What may come next depends only on whether a step must begin, a key may still get a
selection, or a step is complete. A list with one member is that member.
-/

namespace TreeTable.Path

/-- Why a text is no path. Every cause names the text. -/
inductive ParseError where
  | lex (path : String) (error : LexError)
  | unexpected (path : String) (found : Lexeme) (position : Nat)
  | empty
  | invalidIndex (path selector : String) (position : Nat)
  | pattern (path source : String)
  | unsupported (path : String) (position : Nat)
  deriving DecidableEq

def quoteTicks (text : String) : String := "\x60" ++ text ++ "\x60"

def ParseError.message : ParseError → String
  | lex path error => error.message ++ " in path " ++ quoteTicks path
  | unexpected path found position =>
      "unexpected " ++ found.describe ++ " at position " ++ toString position ++ " in path " ++
        quoteTicks path
  | empty => "empty path expression"
  | invalidIndex path selector position =>
      "invalid index selector " ++ quoteTicks selector ++ " at position " ++ toString position ++
        " in path " ++ quoteTicks path
  | pattern path source =>
      "invalid regex " ++ quoteTicks ("/" ++ source ++ "/") ++ " in path " ++ quoteTicks path
  | unsupported path position =>
      "inverse selection " ++ quoteTicks "!" ++ " at position " ++ toString position ++
        " in path " ++ quoteTicks path ++ " is not supported"

/-- A list with one member is that member. -/
def collapse (wrap : List Path → Path) : List Path → Path
  | [path] => path
  | paths => wrap paths

/-- The members that are complete at one level of nesting, the last first: steps of the
present sequence, branches of the present alternatives, and so on outward. -/
structure Members where
  each : List Path := []
  all : List Path := []
  any : List Path := []
  steps : List Path := []

namespace Members

def addStep (m : Members) (step : Path) : Members := { m with steps := step :: m.steps }

/-- Ends the sequence. -/
def endSteps (m : Members) : Members :=
  { m with steps := [], any := collapse .steps m.steps.reverse :: m.any }

/-- Ends the sequence and the alternatives. -/
def endAny (m : Members) : Members :=
  let m := m.endSteps
  { m with any := [], all := collapse .any m.any.reverse :: m.all }

/-- Ends the sequence, the alternatives and the branches taken together. -/
def endAll (m : Members) : Members :=
  let m := m.endAny
  { m with all := [], each := collapse .all m.all.reverse :: m.each }

/-- The path that all members make up. -/
def close (m : Members) : Path := collapse .each m.endAll.each.reverse

end Members

/-- What may come next. -/
inductive Expecting where
  /-- A step must begin. -/
  | step
  /-- A selection for this key, or whatever may follow a step. -/
  | selection (key : String)
  /-- A separator, the end of a lookup or the end of the text. -/
  | separator
  deriving DecidableEq

/-- Where the parser stands: the innermost level, the levels around it, and what may come
next. -/
structure ParserState where
  level : Members := {}
  outer : List Members := []
  expecting : Expecting := .step

namespace ParserState

def addStep (s : ParserState) (step : Path) : ParserState :=
  { s with level := s.level.addStep step, expecting := .separator }

/-- Goes on after a separator. -/
def wantStep (s : ParserState) (level : Members) : ParserState :=
  { s with level, expecting := .step }

/-- A selection for a key, which completes a step. -/
def addSelection (s : ParserState) (path key text : String) (position : Nat) :
    Except ParseError ParserState :=
  match Selection.ofText text with
  | .ok selection => .ok (s.addStep (.field key (some selection)))
  | .error selector => .error (.invalidIndex path selector position)

/-- A lexeme where a step must begin. -/
def beginStep (s : ParserState) (path : String) (l : Placed) : Except ParseError ParserState :=
  match l.lexeme with
  | .literal text => .ok (s.addStep (.literal text))
  | .pattern source =>
      match Pattern.ofSource? source with
      | some pattern => .ok (s.addStep (.keys pattern))
      | none => .error (.pattern path source)
  | .lookupStart => .ok ⟨{}, s.level :: s.outer, .step⟩
  | .name key => .ok { s with expecting := .selection key }
  | .index text => s.addSelection path wildcard text l.start
  | .bang => .error (.unsupported path l.start)
  | found => .error (.unexpected path found l.start)

/-- A lexeme after a complete step. -/
def afterStep (s : ParserState) (path : String) (l : Placed) : Except ParseError ParserState :=
  match l.lexeme with
  | .dot => .ok (s.wantStep s.level)
  | .bar => .ok (s.wantStep s.level.endSteps)
  | .ampersand => .ok (s.wantStep s.level.endAny)
  | .comma => .ok (s.wantStep s.level.endAll)
  | .lookupEnd =>
      match s.outer with
      | level :: outer => .ok (addStep ⟨level, outer, .separator⟩ (.lookup s.level.close))
      | [] => .error (.unexpected path .lookupEnd l.start)
  | found => .error (.unexpected path found l.start)

/-- Takes in one lexeme that is not the end of the text. -/
def advance (s : ParserState) (path : String) (l : Placed) : Except ParseError ParserState :=
  match s.expecting with
  | .step => s.beginStep path l
  | .selection key =>
      match l.lexeme with
      | .index text => s.addSelection path key text l.start
      -- Anything else shows that the key stands alone.
      | _ => (s.addStep (.field key none)).afterStep path l
  | .separator => s.afterStep path l

/-- The path at the end of the text. -/
def finish (s : ParserState) (path : String) (position : Nat) : Except ParseError Path :=
  let unexpected := Except.error (.unexpected path .finish position)
  match s.outer with
  | _ :: _ => unexpected
  | [] =>
      match s.expecting with
      | .step => unexpected
      | .selection key => .ok (s.addStep (.field key none)).level.close
      | .separator => .ok s.level.close

end ParserState

/-- Takes in the lexemes of a text one after another. -/
def parseStream (path : String) : Stream → ParserState → Except ParseError Path
  | .finish position, s => s.finish path position
  | .fault error, _ => .error (.lex path error)
  | .cons head tail, s => do parseStream path tail (← s.advance path head)

/-- Reads a path. -/
def parse (text : String) : Except ParseError Path :=
  match Stream.ofText text with
  | .finish _ => .error .empty
  | stream => parseStream text stream {}

end TreeTable.Path
