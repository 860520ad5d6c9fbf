import TreeTable.Extract.Rows

/-! # Tables

A table has a header and rows. Its header is fixed beforehand or lists the columns of the
rows in the order in which they first occur. Written as a document, every row has exactly
the columns of the header.
-/

namespace TreeTable

structure Table where
  header : List String
  rows : List Row

namespace Table

/-- The columns of rows, each once, in the order in which they first occur. -/
def columnsOf (rows : List Row) : List String := (rows.flatMap Fields.keys).eraseDups

/-- A row under a header, null where it has no such column. -/
def fitRow (header : List String) (row : Row) : Value :=
  .object (Fields.ofWrites (header.map fun column => (column, (row.get? column).getD .null)))

/-- The table as a document. -/
def toValue (table : Table) : Value :=
  .object [("header", .list (table.header.map .string)),
    ("rows", .list (table.rows.map (fitRow table.header)))]

end Table

namespace Extractor

/-- The header over some rows. -/
def headerFor (x : Extractor) (rows : List Row) : List String :=
  match x.header with
  | some header => header
  | none => if rows.isEmpty then x.root.columns else Table.columnsOf rows

/-- The rows of a document. -/
def rows (x : Extractor) (e : Evaluator) (document : Value) : Except EvalError (List Row) :=
  x.root.rows e document document

/-- The table of a document. -/
def table (x : Extractor) (e : Evaluator) (document : Value) : Except EvalError Table := do
  let rows ← x.rows e document
  return ⟨x.headerFor rows, rows⟩

end Extractor

end TreeTable
