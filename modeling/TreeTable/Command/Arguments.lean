/-! # Command lines

A command line names a command and gives its operands and its switches in any order. A
switch has a long and a short form; short forms may share one dash, and a value follows its
switch in the same argument or in the next one. Behind two bare dashes everything is an
operand.
-/

namespace TreeTable.Command

/-- A switch of a command. -/
inductive Switch where
  | input
  | pretty
  | config
  | document
  deriving DecidableEq

namespace Switch

def all : List Switch := [input, pretty, config, document]

def long : Switch → String
  | input => "input"
  | pretty => "pretty"
  | config => "config"
  | document => "document"

def short : Switch → Char
  | input => 'i'
  | pretty => 'p'
  | config => 'c'
  | document => 'd'

def takesValue : Switch → Bool
  | pretty => false
  | _ => true

end Switch

/-- Why a command line makes no sense. -/
inductive UsageError where
  | unknownCommand (name : String)
  | unknownSwitch (argument : String)
  | missingValue (switch : Switch)
  | unexpectedValue (switch : Switch)
  | repeatedSwitch (switch : Switch)
  | missingOperand (name : String)
  | unexpectedOperand (argument : String)
  deriving DecidableEq

def UsageError.message : UsageError → String
  | unknownCommand name => "unrecognized subcommand '" ++ name ++ "'"
  | unknownSwitch argument => "unexpected argument '" ++ argument ++ "' found"
  | missingValue switch => "a value is required for '--" ++ switch.long ++ "'"
  | unexpectedValue switch => "no value is expected for '--" ++ switch.long ++ "'"
  | repeatedSwitch switch => "the argument '--" ++ switch.long ++ "' cannot be used multiple times"
  | missingOperand name => "the required argument <" ++ name ++ "> was not provided"
  | unexpectedOperand argument => "unexpected argument '" ++ argument ++ "' found"

/-- Operands and switches with their values, in order. -/
structure Arguments where
  operands : List String := []
  switches : List (Switch × String) := []

namespace Arguments

def addSwitch (switch : Switch) (value : String) (a : Arguments) : Arguments :=
  { a with switches := (switch, value) :: a.switches }

/-- A switch that still waits for its value, and the switches before it. -/
structure Cluster where
  flags : List Switch
  /-- The last switch, with its value if the same argument holds it. -/
  last : Option (Switch × Option String)

/-- Reads short forms that share one dash. -/
def readCluster (allowed : List Switch) : List Char → Option Cluster
  | [] => some ⟨[], none⟩
  | c :: rest => do
      let switch ← allowed.find? (·.short == c)
      if switch.takesValue then
        let value := match rest with
          | [] => none
          | '=' :: value => some (String.ofList value)
          | value => some (String.ofList value)
        return ⟨[], some (switch, value)⟩
      else
        let cluster ← readCluster allowed rest
        return { cluster with flags := switch :: cluster.flags }

/-- Reads a long form, with its value if the same argument holds it. -/
def readLong (allowed : List Switch) (cs : List Char) : Option (Switch × Option String) := do
  let name := String.ofList (cs.takeWhile (· ≠ '='))
  let switch ← allowed.find? (·.long == name)
  match cs.dropWhile (· ≠ '=') with
  | _ :: value => return (switch, some (String.ofList value))
  | [] => return (switch, none)

/-- Reads arguments, of which only some switches are allowed. -/
def read (allowed : List Switch) : List String → Except UsageError Arguments
  | [] => .ok {}
  | argument :: rest =>
      let found : Option Cluster := match argument.toList with
        | '-' :: '-' :: name => (readLong allowed name).map fun switch => ⟨[], some switch⟩
        | '-' :: c :: cluster => readCluster allowed (c :: cluster)
        | _ => some ⟨[], none⟩
      if argument = "--" then .ok { operands := rest }
      else match found with
        | none => .error (.unknownSwitch argument)
        | some ⟨[], none⟩ => do
            let others ← read allowed rest
            return { others with operands := argument :: others.operands }
        | some ⟨flags, none⟩ => do
            let others ← read allowed rest
            return flags.foldr (addSwitch · "") others
        | some ⟨flags, some (switch, some value)⟩ => do
            if !switch.takesValue then throw (.unexpectedValue switch)
            let others ← read allowed rest
            return flags.foldr (addSwitch · "") (others.addSwitch switch value)
        | some ⟨flags, some (switch, none)⟩ =>
            if !switch.takesValue then do
              let others ← read allowed rest
              return flags.foldr (addSwitch · "") (others.addSwitch switch "")
            else match rest with
              | [] => .error (.missingValue switch)
              | value :: rest => do
                  let others ← read allowed rest
                  return flags.foldr (addSwitch · "") (others.addSwitch switch value)

/-- All values of a switch, in order. -/
def valuesOf (a : Arguments) (switch : Switch) : List String :=
  (a.switches.filter (·.1 == switch)).map Prod.snd

/-- The value of a switch that may be given once. -/
def valueOf? (a : Arguments) (switch : Switch) : Except UsageError (Option String) :=
  match a.valuesOf switch with
  | [] => .ok none
  | [value] => .ok (some value)
  | _ => .error (.repeatedSwitch switch)

/-- The only operand. -/
def operand (a : Arguments) (name : String) : Except UsageError String :=
  match a.operands with
  | [] => .error (.missingOperand name)
  | [operand] => .ok operand
  | _ :: other :: _ => .error (.unexpectedOperand other)

end Arguments

/-- What a command line asks for. -/
inductive Request where
  | help
  | check (path : String)
  | eval (path : String) (input : Option String) (pretty : Bool)
  | extract (config : String) (input : Option String) (documents : List String) (pretty : Bool)
  deriving DecidableEq

namespace Request

def isPretty (a : Arguments) : Except UsageError Bool :=
  return (← a.valueOf? .pretty).isSome

/-- Reads a command line. -/
def ofArguments : List String → Except UsageError Request
  | [] => .ok help
  | command :: rest =>
      if command = "check" then do
        let a ← Arguments.read [] rest
        return check (← a.operand "PATH")
      else if command = "eval" then do
        let a ← Arguments.read [.input, .pretty] rest
        return eval (← a.operand "PATH") (← a.valueOf? .input) (← isPretty a)
      else if command = "extract" then do
        let a ← Arguments.read Switch.all rest
        match a.operands, ← a.valueOf? .config with
        | operand :: _, _ => throw (.unexpectedOperand operand)
        | [], none => throw (.missingValue .config)
        | [], some config =>
            return extract config (← a.valueOf? .input) (a.valuesOf .document) (← isPretty a)
      else if command = "help" ∨ command = "--help" ∨ command = "-h" then .ok help
      else .error (.unknownCommand command)

end Request

/-- The text that explains the command line. -/
def usage : String := "\n".intercalate [
  "Path queries, merges and row projection over JSON documents",
  "",
  "  check PATH                       validate a path expression and print it normalized",
  "  eval PATH [-i JSON] [-p]         evaluate a path expression against JSON",
  "  extract -c FILE [-i JSON] [-d NAME=FILE]... [-p]",
  "                                   run the merge rules and the projection of a job file"]

end TreeTable.Command
