import TreeTable.Stage.Basic
import TreeTable.Text.Quoted

/-! # Diagnostic texts of stages -/

namespace TreeTable

def Group.describe : Group → String
  | index i => "Index(" ++ toString i ++ ")"
  | name key => "Name(" ++ Text.quote key ++ ")"

/-- The form of a stage in diagnostic output; functions of the caller's have no text. -/
def Stage.describe : Stage → String
  | sum start => "Sum(" ++ start.render ++ ")"
  | average => "Avg"
  | join separator => "Join(" ++ Text.quote separator ++ ")"
  | sort false => "Sort"
  | sort true => "SortDesc"
  | sortBy _ => "SortBy(<fn>)"
  | unique => "Uniq"
  | count compact => "Count(compact: " ++ (if compact then "true" else "false") ++ ")"
  | scan pattern => "Match(/" ++ pattern.source ++ "/)"
  | capture pattern groups =>
      "Capture(/" ++ pattern.source ++ "/, [" ++
        ", ".intercalate (groups.map Group.describe) ++ "])"
  | map _ => "Map(<fn>)"
  | custom _ => "Custom(<fn>)"

end TreeTable
