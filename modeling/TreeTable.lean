import TreeTable.Address
import TreeTable.Command
import TreeTable.Command.Arguments
import TreeTable.DeclarationError
import TreeTable.Extract.Node
import TreeTable.Extract.Plan
import TreeTable.Extract.Rows
import TreeTable.Extract.Table
import TreeTable.Job.Compilation
import TreeTable.Job.Printer
import TreeTable.Job.Reader
import TreeTable.Job.Spec
import TreeTable.Join.Application
import TreeTable.Join.Pairing
import TreeTable.Join.Rule
import TreeTable.Json.NumberReader
import TreeTable.Json.Printer
import TreeTable.Json.Reader
import TreeTable.Json.Shape
import TreeTable.Json.Tree
import TreeTable.Main
import TreeTable.Numeric.Binary64
import TreeTable.Numeric.Decimal
import TreeTable.Numeric.DecimalOfFloat
import TreeTable.Numeric.DecimalText
import TreeTable.Numeric.FloatText
import TreeTable.Numeric.Integer
import TreeTable.Numeric.Power
import TreeTable.Numeric.Rounding
import TreeTable.Numeric.Shortest
import TreeTable.Numeric.Total
import TreeTable.Path.Basic
import TreeTable.Path.Canonical
import TreeTable.Path.Evaluation
import TreeTable.Path.Grammar
import TreeTable.Path.Lexeme
import TreeTable.Path.Lexer
import TreeTable.Path.Location
import TreeTable.Path.Parser
import TreeTable.Path.Printer
import TreeTable.Path.Selector
import TreeTable.Pipeline
import TreeTable.Proofs.Address.Rewriting
import TreeTable.Proofs.Address.Slots
import TreeTable.Proofs.Congruence
import TreeTable.Proofs.Extract.Batch
import TreeTable.Proofs.Extract.Collation
import TreeTable.Proofs.Extract.Columns
import TreeTable.Proofs.Extract.Compilation
import TreeTable.Proofs.Extract.Congruence
import TreeTable.Proofs.Extract.Enumeration
import TreeTable.Proofs.Extract.Rendering
import TreeTable.Proofs.Job.RoundTrip
import TreeTable.Proofs.Job.Validation
import TreeTable.Proofs.Join.Connection
import TreeTable.Proofs.Join.Declaration
import TreeTable.Proofs.Join.Failure
import TreeTable.Proofs.Join.Independence
import TreeTable.Proofs.Join.KeyMatching
import TreeTable.Proofs.Join.Pairing
import TreeTable.Proofs.Join.Separation
import TreeTable.Proofs.Join.Snapshot
import TreeTable.Proofs.Join.Updates
import TreeTable.Proofs.Json.Documents
import TreeTable.Proofs.Json.Layout
import TreeTable.Proofs.Json.Lexemes
import TreeTable.Proofs.Json.Numbers
import TreeTable.Proofs.Json.Printing
import TreeTable.Proofs.Json.ReaderSteps
import TreeTable.Proofs.Json.Reading
import TreeTable.Proofs.Numeric.ExactIntegers
import TreeTable.Proofs.Numeric.IntegerText
import TreeTable.Proofs.Numeric.RoundedIntegers
import TreeTable.Proofs.Numeric.WholeDecimals
import TreeTable.Proofs.Outcome
import TreeTable.Proofs.Path.Acceptance
import TreeTable.Proofs.Path.CanonicalForm
import TreeTable.Proofs.Path.Collapsing
import TreeTable.Proofs.Path.Congruence
import TreeTable.Proofs.Path.Denotation
import TreeTable.Proofs.Path.ErrorPositions
import TreeTable.Proofs.Path.Existence
import TreeTable.Proofs.Path.Failure
import TreeTable.Proofs.Path.Fallback
import TreeTable.Proofs.Path.Inheritance
import TreeTable.Proofs.Path.Leaves
import TreeTable.Proofs.Path.Lexing
import TreeTable.Proofs.Path.LookupLimit
import TreeTable.Proofs.Path.RoundTrip
import TreeTable.Proofs.Path.Running
import TreeTable.Proofs.Path.SinglePosition
import TreeTable.Proofs.Path.Spans
import TreeTable.Proofs.Path.Spreading
import TreeTable.Proofs.Path.Unfolding
import TreeTable.Proofs.Pipeline.Failure
import TreeTable.Proofs.Selection.Checked
import TreeTable.Proofs.Selection.Grammar
import TreeTable.Proofs.Selection.Positions
import TreeTable.Proofs.Selection.Ranges
import TreeTable.Proofs.Selection.Text
import TreeTable.Proofs.Stage.Sorting
import TreeTable.Proofs.Stage.Sums
import TreeTable.Proofs.Stage.Uniqueness
import TreeTable.Proofs.Text.Span
import TreeTable.Proofs.Value.Equality
import TreeTable.Proofs.Value.Fields
import TreeTable.Proofs.Value.Objects
import TreeTable.Proofs.Value.Order
import TreeTable.Proofs.Value.Reordering
import TreeTable.Proofs.Value.WellFormed
import TreeTable.Regex.Basic
import TreeTable.Regex.Bracket
import TreeTable.Regex.Escape
import TreeTable.Regex.Node
import TreeTable.Regex.Program
import TreeTable.Regex.Reader
import TreeTable.Regex.Search
import TreeTable.Stage.Basic
import TreeTable.Stage.Printer
import TreeTable.Stage.Sorting
import TreeTable.Text.Blank
import TreeTable.Text.Hex
import TreeTable.Text.Quoted
import TreeTable.Unicode.Ages
import TreeTable.Unicode.Breaks
import TreeTable.Unicode.CaseGroups
import TreeTable.Unicode.Categories
import TreeTable.Unicode.CharSet
import TreeTable.Unicode.Classes
import TreeTable.Unicode.Properties
import TreeTable.Unicode.Recent
import TreeTable.Unicode.ScriptExtensions
import TreeTable.Unicode.Scripts
import TreeTable.Value.Basic
import TreeTable.Value.Floats
import TreeTable.Value.Leaves
import TreeTable.Value.Order
import TreeTable.Value.Text
