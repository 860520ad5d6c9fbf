import TreeTable.Unicode.CharSet
import TreeTable.Unicode.Categories
import TreeTable.Unicode.Scripts
import TreeTable.Unicode.ScriptExtensions
import TreeTable.Unicode.Properties
import TreeTable.Unicode.Ages
import TreeTable.Unicode.Breaks
import TreeTable.Unicode.CaseGroups

/-! # Named classes of characters

A class is asked for by the name of a property, a general category or a script, or by the
value of a property that has more values than two. Case, blanks, hyphens, underscores and a
leading `is` do not count in names.
-/

namespace TreeTable.Unicode

namespace CharSet

def category (name : String) : CharSet :=
  ((categoryTable.lookup name).map ofTable).getD empty

def property (name : String) : CharSet :=
  ((propertyTable.lookup name).map ofTable).getD empty

def categories (names : List String) : CharSet := unions (names.map category)

/-- The code points that are no characters. -/
def surrogates : CharSet := range 0xD800 0xDFFF

/-- The code points that carry a general category. -/
def assigned : CharSet := categories (categoryTable.map Prod.fst)

def unassigned : CharSet := (assigned.union surrogates).complement

def blank : CharSet :=
  ofTable "9-D 20 85 A0 1680 2000-200A 2028-2029 202F 205F 3000"

def digit : CharSet := category "nd"

def letterOrMark : CharSet := (property "alphabetic").union (categories ["mn", "mc", "me"])

/-- Letters, marks, digits, connecting punctuation and joiners. -/
def word : CharSet :=
  unions [letterOrMark, digit, category "pc", property "joincontrol"]

def numeric : CharSet := categories ["nd", "nl", "no"]

def asciiDigit : CharSet := ofTable "30-39"
def asciiBlank : CharSet := ofTable "9-D 20"
def asciiWord : CharSet := ofTable "30-39 41-5A 5F 61-7A"

end CharSet

/-- Names of general categories, long and short, and the categories they gather. -/
def categoryGroups : List (String × List String) := [
  ("l", ["lu", "ll", "lt", "lm", "lo"]), ("letter", ["lu", "ll", "lt", "lm", "lo"]),
  ("lc", ["lu", "ll", "lt"]), ("casedletter", ["lu", "ll", "lt"]),
  ("uppercaseletter", ["lu"]), ("lowercaseletter", ["ll"]), ("titlecaseletter", ["lt"]),
  ("modifierletter", ["lm"]), ("otherletter", ["lo"]),
  ("m", ["mn", "mc", "me"]), ("mark", ["mn", "mc", "me"]),
  ("combiningmark", ["mn", "mc", "me"]), ("nonspacingmark", ["mn"]),
  ("spacingmark", ["mc"]), ("enclosingmark", ["me"]),
  ("n", ["nd", "nl", "no"]), ("number", ["nd", "nl", "no"]),
  ("decimalnumber", ["nd"]), ("digit", ["nd"]), ("letternumber", ["nl"]),
  ("othernumber", ["no"]),
  ("p", ["pc", "pd", "ps", "pe", "pi", "pf", "po"]),
  ("punctuation", ["pc", "pd", "ps", "pe", "pi", "pf", "po"]),
  ("punct", ["pc", "pd", "ps", "pe", "pi", "pf", "po"]),
  ("connectorpunctuation", ["pc"]), ("dashpunctuation", ["pd"]),
  ("openpunctuation", ["ps"]), ("closepunctuation", ["pe"]),
  ("initialpunctuation", ["pi"]), ("finalpunctuation", ["pf"]), ("otherpunctuation", ["po"]),
  ("s", ["sm", "sc", "sk", "so"]), ("symbol", ["sm", "sc", "sk", "so"]),
  ("mathsymbol", ["sm"]), ("currencysymbol", ["sc"]), ("modifiersymbol", ["sk"]),
  ("othersymbol", ["so"]),
  ("z", ["zs", "zl", "zp"]), ("separator", ["zs", "zl", "zp"]), ("spaceseparator", ["zs"]),
  ("lineseparator", ["zl"]), ("paragraphseparator", ["zp"]),
  ("control", ["cc"]), ("cntrl", ["cc"]), ("format", ["cf"]), ("privateuse", ["co"])]

/-- The set of a general category, by its name in plain form. -/
def categorySet? (name : String) : Option CharSet :=
  if name = "any" then some CharSet.full
  else if name = "ascii" then some CharSet.ascii
  else if name = "assigned" then some CharSet.assigned
  else if name = "cn" ∨ name = "unassigned" then some CharSet.unassigned
  else if name = "c" ∨ name = "other" then
    some ((CharSet.categories ["cc", "cf", "co"]).union CharSet.unassigned)
  else match categoryTable.lookup name with
    | some line => some (CharSet.ofTable line)
    | none => (categoryGroups.lookup name).map CharSet.categories

/-- The set that a table lists under a name, or under the long name that it stands for. -/
def listedSet? (table aliases : List (String × String)) (name : String) : Option CharSet :=
  (table.lookup ((aliases.lookup name).getD name)).map CharSet.ofTable

/-- The set of a script, by its name in plain form. -/
def scriptSet? : String → Option CharSet := listedSet? scriptTable scriptAliases

/-- The characters that are in use with a script. Those that no listed script uses besides
its own are left to `common` and `inherited`. -/
def extendedScriptSet? (name : String) : Option CharSet := do
  let long := (scriptAliases.lookup name).getD name
  let own ← scriptSet? name
  if long = "common" ∨ long = "inherited" then
    return own.diff (CharSet.unions (extensionTable.map fun line => CharSet.ofTable line.2))
  else
    return own.union (((extensionTable.lookup long).map CharSet.ofTable).getD CharSet.empty)

/-- The characters of an age or an older one. An age is named by its number, or by the
letter `v` and the digits of that number. -/
def ageSet? (name : String) : Option CharSet :=
  let isOther (line : String × String) : Bool :=
    line.1 ≠ name && 'v' :: line.1.toList.filter (· ≠ '.') ≠ name.toList
  let (older, rest) := ageTable.span isOther
  rest.head?.map fun line =>
    CharSet.unions ((older ++ [line]).map fun line => CharSet.ofTable line.2)

/-- The set of a property, by its name in plain form. -/
def propertySet? (name : String) : Option CharSet :=
  if name = "whitespace" ∨ name = "wspace" ∨ name = "space" then some CharSet.blank
  else listedSet? propertyTable propertyAliases name

/-- The plain form of a name. -/
def plainName (name : List Char) : String :=
  let bare := name.map Char.toLower |>.filter fun c =>
    c ≠ ' ' && c ≠ '_' && c ≠ '-' && c.toNat < 0x80
  match name.take 2 |>.map Char.toLower, bare with
  | ['i', 's'], 'i' :: 's' :: rest => if rest = ['c'] then "isc" else String.ofList rest
  | _, all => String.ofList all

/-- The set that a name alone asks for: a property first, then a category, then a script.
Three short names that several of these share stand for categories. -/
def namedSet? (name : List Char) : Option CharSet :=
  let plain := plainName name
  let property? :=
    if plain = "cf" ∨ plain = "sc" ∨ plain = "lc" then none else propertySet? plain
  property? <|> categorySet? plain <|> scriptSet? plain

/-- The set that the value of a property asks for. -/
def valueSet? (name value : List Char) : Option CharSet :=
  let value := plainName value
  match plainName name with
  | "gc" | "generalcategory" => categorySet? value
  | "sc" | "script" => scriptSet? value
  | "scx" | "scriptextensions" => extendedScriptSet? value
  | "age" => ageSet? value
  | "gcb" | "graphemeclusterbreak" => listedSet? graphemeBreakTable graphemeBreakAliases value
  | "wb" | "wordbreak" => listedSet? wordBreakTable wordBreakAliases value
  | "sb" | "sentencebreak" => listedSet? sentenceBreakTable sentenceBreakAliases value
  | _ => none

/-- The members of every group of characters that differ in case only. -/
def caseGroups : List (List Nat) :=
  (CharSet.words caseGroupTable.toList).map members
where
  members (group : List Char) : List Nat :=
    (CharSet.words (group.map fun c => if c = '-' then ' ' else c)).map CharSet.hexValue

/-- Adds the case variants of all members. -/
def CharSet.foldCase (s : CharSet) : CharSet :=
  let touched := caseGroups.filter fun group => group.any s.containsCode
  touched.foldl (fun set group => group.foldl (fun set n => set.union (.range n n)) set) s

/-- Adds the case variants of the ASCII letters in the set. -/
def CharSet.foldAsciiCase (s : CharSet) : CharSet :=
  (List.range 26).foldl (fun set i =>
    let upper := 0x41 + i
    let lower := 0x61 + i
    if s.containsCode upper || s.containsCode lower then
      (set.union (.range upper upper)).union (.range lower lower)
    else set) s

end TreeTable.Unicode
