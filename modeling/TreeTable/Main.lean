import TreeTable.Command
import TreeTable.Command.Arguments

/-! # The program

Reads files and the standard input, runs one command and prints its result. Errors go to the
standard error.
-/

namespace TreeTable.Command

/-- Reads a stream to its end. -/
partial def readStream (stream : IO.FS.Stream) (text : String) : IO String := do
  let line ← stream.getLine
  if line.isEmpty then return text
  readStream stream (text ++ line)

/-- The given text, or what is piped into the standard input. -/
def inputOrPiped (input : Option String) : IO (Option String) := do
  if input.isSome then return input
  let stdin ← IO.getStdin
  if ← stdin.isTty then return none
  return some (← readStream stdin "")

/-- Prints what a command gives, or its error. -/
def printResult (pretty : Bool) (result : Except CommandError Value) : IO UInt32 := do
  match result with
  | .ok value =>
      IO.println (if pretty then value.toIndentedJson else value.toJson)
      return 0
  | .error error =>
      IO.eprintln error.message
      return 1

/-- The names and the texts of document arguments, or the first bad argument. -/
def readFiles : List String → IO (Except CommandError (List (String × String)))
  | [] => return .ok []
  | argument :: rest => do
      match splitDocument argument with
      | .error error => return .error error
      | .ok (name, file) =>
          let text ← IO.FS.readFile file
          let others ← readFiles rest
          return others.map ((name, text) :: ·)

def runExtract (config : String) (input : Option String) (arguments : List String)
    (pretty : Bool) : IO UInt32 := do
  let job ← IO.FS.readFile config
  match ← readFiles arguments with
  | .error error => printResult pretty (.error error)
  | .ok documents =>
      let input ← if documents.isEmpty then inputOrPiped input else pure input
      printResult pretty (extract job input documents)

/-- Runs one request; the result is the exit code. -/
def run : Request → IO UInt32
  | .help => do
      IO.println usage
      return 0
  | .check path => do
      match check path with
      | .ok normal =>
          IO.println ("Syntax is valid: " ++ normal)
          return 0
      | .error error => printResult false (.error error)
  | .eval path input pretty => do printResult pretty (eval path (← inputOrPiped input))
  | .extract config input documents pretty => do
      try runExtract config input documents pretty
      catch error =>
        IO.eprintln ("IO error: " ++ toString error)
        return 1

end TreeTable.Command

def main (arguments : List String) : IO UInt32 := do
  match TreeTable.Command.Request.ofArguments arguments with
  | .ok request => TreeTable.Command.run request
  | .error error =>
      IO.eprintln ("error: " ++ error.message)
      return 2
