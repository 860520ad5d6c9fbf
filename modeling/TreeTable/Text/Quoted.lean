import TreeTable.Text.Hex
import TreeTable.Unicode.Classes
import TreeTable.Unicode.Recent

/-! # Quoted texts

A text is quoted so that a reader can see every character of it: what is invisible, what
attaches to the character before it, and what would end the quotation is escaped.
-/

namespace TreeTable

open Unicode

/-- What leaves no mark of its own: controls, private and unassigned code points, and all
separators but the common blank. -/
def Unicode.CharSet.invisible : CharSet :=
  ((CharSet.categories ["cc", "cf", "co", "zl", "zp", "zs"]).union CharSet.unassigned).diff
    (CharSet.recent.union (CharSet.single ' '))

/-- What attaches to the character before it. -/
def Unicode.CharSet.attached : CharSet :=
  (CharSet.property "graphemeextend").union CharSet.recentMarks

namespace Text

/-- A character inside a quotation. -/
def quoteChar (c : Char) : List Char :=
  if c = '\x00' then ['\\', '0']
  else if c = '\t' then ['\\', 't']
  else if c = '\n' then ['\\', 'n']
  else if c = '\r' then ['\\', 'r']
  else if c = '"' then ['\\', '"']
  else if c = '\\' then ['\\', '\\']
  else if CharSet.attached.contains c || CharSet.invisible.contains c then
    '\\' :: 'u' :: '\x7b' :: (hexDigits 1 c.toNat ++ ['\x7d'])
  else [c]

/-- A text between quotation marks. -/
def quote (text : String) : String :=
  String.ofList ('"' :: (text.toList.flatMap quoteChar ++ ['"']))

end Text

end TreeTable
