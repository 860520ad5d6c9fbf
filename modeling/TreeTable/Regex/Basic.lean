import TreeTable.Regex.Reader
import TreeTable.Regex.Search

/-! # Patterns

A pattern is the text of a regular expression together with what it compiles to. The text
decides the rest, so patterns are equal when their texts are.
-/

namespace TreeTable

namespace Regex

/-- Compiles an expression; none when it is too large. -/
def ofParsed? (parsed : Parsed) : Option Regex :=
  if parsed.node.weight ≤ maxWeight then
    let whole := Node.group 0 parsed.node
    let (entry, program) := whole.layOut 0 #[.done]
    some ⟨program, entry, parsed.node.groupCount, parsed.names⟩
  else none

/-- Compiles the text of an expression; none when it is not one. -/
def ofText? (text : String) : Option Regex := (Parsed.ofText? text).bind ofParsed?

end Regex

/-- A text that is a regular expression. -/
structure Pattern where
  source : String
  regex : Regex
  regex_eq : Regex.ofText? source = some regex

namespace Pattern

/-- The pattern of a text, when the text is a regular expression. -/
def ofSource? (source : String) : Option Pattern :=
  match h : Regex.ofText? source with
  | some regex => some ⟨source, regex, h⟩
  | none => none

theorem eq_of_source_eq {p q : Pattern} (h : p.source = q.source) : p = q := by
  obtain ⟨source, regex, hp⟩ := p
  obtain ⟨source', regex', hq⟩ := q
  obtain rfl : source = source' := h
  obtain rfl : regex = regex' := Option.some.inj (hp.symm.trans hq)
  rfl

instance : DecidableEq Pattern := fun p q =>
  decidable_of_iff (p.source = q.source) ⟨eq_of_source_eq, fun h => h ▸ rfl⟩

/-- Reading the text of a pattern again gives the pattern. -/
theorem ofSource?_source (p : Pattern) : ofSource? p.source = some p := by
  unfold ofSource?
  split
  next regex h => exact congrArg some (eq_of_source_eq rfl)
  next h => rw [p.regex_eq] at h; cases h

theorem source_of_ofSource? {source : String} {p : Pattern} (h : ofSource? source = some p) :
    p.source = source := by
  unfold ofSource? at h
  split at h
  · exact Option.some.inj h ▸ rfl
  · cases h

def isMatch (p : Pattern) (text : String) : Bool := p.regex.isMatch text

end Pattern

end TreeTable
