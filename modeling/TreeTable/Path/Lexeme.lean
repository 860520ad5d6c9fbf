/-! # Lexemes of paths -/

namespace TreeTable.Path

/-- A unit of the surface form of a path. -/
inductive Lexeme where
  | name (key : String)
  | literal (text : String)
  | pattern (source : String)
  /-- What stands between brackets. -/
  | index (text : String)
  | lookupStart
  | lookupEnd
  | dot
  | comma
  | ampersand
  | bar
  | bang
  | finish
  deriving DecidableEq

/-- The form of a lexeme in error messages. -/
def Lexeme.describe : Lexeme → String
  | name key => "name \x60" ++ key ++ "\x60"
  | literal text => "literal \x60#" ++ text ++ "\x60"
  | pattern source => "regex \x60/" ++ source ++ "/\x60"
  | index text => "index \x60[" ++ text ++ "]\x60"
  | lookupStart => "\x60<\x60"
  | lookupEnd => "\x60>\x60"
  | dot => "\x60.\x60"
  | comma => "\x60,\x60"
  | ampersand => "\x60&\x60"
  | bar => "\x60|\x60"
  | bang => "\x60!\x60"
  | finish => "end of input"

/-- What makes a text unreadable as lexemes. -/
inductive LexCause where
  | openPattern
  | nestedIndex
  | openIndex
  | strayCharacter (c : Char)
  deriving DecidableEq

/-- A cause and the place of the character at fault. -/
structure LexError where
  cause : LexCause
  position : Nat
  deriving DecidableEq

def LexCause.message : LexCause → String
  | openPattern => "Unterminated regex: missing closing '/'"
  | nestedIndex => "Nested '[' in index spec"
  | openIndex => "Unterminated index spec: missing closing ']'"
  | strayCharacter c => "Unexpected character '" ++ c.toString ++ "'"

def LexError.message (e : LexError) : String :=
  e.cause.message ++ " at position " ++ toString e.position

end TreeTable.Path
