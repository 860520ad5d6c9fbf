import TreeTable.Path.Printer
import TreeTable.Pipeline

/-! # Commands

What the command line can do, on texts: check a path, evaluate a path in a document, and run
a job on documents.
-/

namespace TreeTable

/-- Why a command fails. -/
inductive CommandError where
  | parse (error : Path.ParseError)
  | eval (error : EvalError)
  | job (error : JobError)
  | json (error : Json.Error)
  | noInput
  /-- A document argument without a name or without a file. -/
  | badDocument (argument : String)
  deriving DecidableEq

def CommandError.message : CommandError → String
  | parse error => "Parse error: " ++ error.message
  | eval error => "Evaluation error: " ++ error.message
  | job error => "Job error: " ++ error.message
  | json error => "Invalid JSON: " ++ error.message
  | noInput => "No input provided. Use --input or pipe JSON to stdin."
  | badDocument argument =>
      "Invalid document argument '" ++ argument ++ "'; expected name=FILE"

namespace Command

def readPath (text : String) : Except CommandError Path := (Path.parse text).mapError .parse

def readDocument (text : String) : Except CommandError Value :=
  (Value.ofJson text).mapError .json

/-- The document of a command that needs one. -/
def readInput (input : Option String) : Except CommandError Value :=
  match input with
  | some text => readDocument text
  | none => .error .noInput

/-- The normal form of a path. -/
def check (path : String) : Except CommandError String := return (← readPath path).render

/-- The value of a path in a document. -/
def eval (path : String) (input : Option String) : Except CommandError Value := do
  let path ← readPath path
  let document ← readInput input
  (Evaluator.evaluate {} path document).mapError .eval

/-- Reads named documents in order. -/
def readDocuments : List (String × String) → Except CommandError (List (String × Value))
  | [] => .ok []
  | (name, text) :: rest => do
      let document ← readDocument text
      let documents ← readDocuments rest
      return (name, document) :: documents

/-- The table of a job, as a document. Named documents take the place of the input. -/
def extract (job : String) (input : Option String) (documents : List (String × String)) :
    Except CommandError Value := do
  let spec ← (JobSpec.read job).mapError .job
  let pipeline ← spec.pipeline.mapError .job
  let table ←
    if documents.isEmpty then do
      let document ← readInput input
      (pipeline.run {} document).mapError .eval
    else do
      let documents ← readDocuments documents
      (pipeline.runNamed {} documents).mapError .eval
  return table.toValue

/-- The name and the file of a document argument `name=FILE`, split at the first equals
sign. Neither may be empty. -/
def splitDocument (argument : String) : Except CommandError (String × String) :=
  let cs := argument.toList
  let name := cs.takeWhile (· ≠ '=')
  match cs.dropWhile (· ≠ '=') with
  | _ :: file =>
      if name.isEmpty || file.isEmpty then .error (.badDocument argument)
      else .ok (String.ofList name, String.ofList file)
  | [] => .error (.badDocument argument)

end Command

end TreeTable
