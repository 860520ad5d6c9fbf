import TreeTable.Proofs.Json.Layout
import TreeTable.Proofs.Json.ReaderSteps
import TreeTable.Value.Floats

/-! # Documents are read as they are written

Whatever the layout of a text is, it is read as one tree, which has the elements and the fields of
the document that was written. Only a document that is nested too deeply is not read, and one with a
float in it whose text is no number.
-/

namespace TreeTable

open Json Numeric

/-- Whether the text of a float is read as this float. -/
def Numeric.Binary64.ReadsBack (x : Binary64) : Prop :=
  (Source.ofText (Value.float x).toJson).decode Tree.asFloat = .ok x

instance : DecidablePred Binary64.ReadsBack := fun _ => inferInstanceAs (Decidable (_ = _))

namespace Value

mutual

/-- How many lists and objects are nested in a document. -/
def depth : Value → Nat
  | list items => depthIn items + 1
  | object fields => depthOf fields + 1
  | _ => 0

def depthIn : List Value → Nat
  | [] => 0
  | item :: rest => max (depth item) (depthIn rest)

def depthOf : List (String × Value) → Nat
  | [] => 0
  | (_, value) :: rest => max (depth value) (depthOf rest)

end

theorem depthIn_le_iff {items : List Value} {n : Nat} :
    depthIn items ≤ n ↔ ∀ item ∈ items, item.depth ≤ n := by
  induction items with
  | nil => simp [depthIn]
  | cons item rest ih => rw [depthIn, Nat.max_le, ih, List.forall_mem_cons]

theorem depthOf_le_iff {fields : List (String × Value)} {n : Nat} :
    depthOf fields ≤ n ↔ ∀ field ∈ fields, field.2.depth ≤ n := by
  induction fields with
  | nil => simp [depthOf]
  | cons field rest ih => rw [depthOf, Nat.max_le, ih, List.forall_mem_cons]

mutual

/-- The tree that the text of a document is read as. -/
def toTree : Value → Tree
  | null => .null
  | bool b => .bool b
  | int n => .number (.whole n.toInt)
  | float x => (Source.ofText (Value.float x).toJson).tree
  | string s => .string s
  | list items => .list (toItems items)
  | object fields => .object (toEntries fields)

def toItems : List Value → Items
  | [] => .closed
  | item :: rest => .cons (toTree item) (toItems rest)

def toEntries : List (String × Value) → Entries
  | [] => .closed
  | (key, value) :: rest => .cons key (toTree value) (toEntries rest)

end

/-- Whether the text of every float in a document is read as this float. -/
def floatsReadBack (value : Value) : Bool := value.allFloats fun x => decide x.ReadsBack

/-- Whether the text of a document is read as its tree where so many lists and objects may still be
opened. What is left is the text behind it, up to blanks. -/
def IsReadIn (layout : Layout) (depth : Nat) (value : Value) : Prop :=
  ∀ level fuel tail, 2 * (layout.chars level value).length ≤ fuel + 1 → EndsNumber tail →
    ∃ left, readTree (fuel + 1) depth (layout.chars level value ++ tail) =
      (value.toTree, some left) ∧ skipBlanks left = skipBlanks tail

variable {layout : Layout} {depth : Nat}

theorem isReadIn_null : null.IsReadIn layout depth := by
  intro level fuel tail _ _
  exact ⟨tail, rfl, rfl⟩

theorem isReadIn_bool (b : Bool) : (bool b).IsReadIn layout depth := by
  intro level fuel tail _ _
  cases b <;> exact ⟨tail, rfl, rfl⟩

theorem isReadIn_int (n : Int64) : (int n).IsReadIn layout depth := by
  intro level fuel tail _ ends
  exact ⟨tail, readTree_of_readNumber (readNumber_append (readNumber_int64Text n) ends), rfl⟩

theorem isReadIn_string (s : String) : (string s).IsReadIn layout depth := by
  intro level fuel tail _ _
  have text : layout.chars level (string s) = stringChars s := rfl
  rw [text, stringChars_append]
  exact ⟨tail, readTree_string (skipBlanks_cons rfl _) (readString_stringChars s tail), rfl⟩

/-- The text of a float that reads back is a number, up to blanks behind it. -/
theorem exists_number_of_readsBack {x : Binary64} (h : x.ReadsBack) :
    ∃ number left, (float x).toTree = .number number ∧ number.toBinary64 = x ∧
      (∀ fuel depth tail, EndsNumber tail → readTree (fuel + 1) depth (floatChars x ++ tail) =
        (.number number, some (left ++ tail))) ∧ ∀ c ∈ left, isSpace c = true := by
  obtain ⟨hfloat, complete⟩ := Source.decode_eq_ok_iff.mp h
  obtain ⟨number, htree, rfl⟩ : ∃ number, (Source.ofText (float x).toJson).tree = .number number ∧
      number.toBinary64 = x := by
    rw [Tree.asFloat.eq_def] at hfloat
    split at hfloat
    next number htree => exact ⟨number, htree, Except.ok.inj hfloat⟩
    next => cases hfloat
  have text : (float number.toBinary64).toJson.toList = floatChars number.toBinary64 :=
    String.toList_ofList
  have read := htree
  rw [Source.tree_ofText, text] at read
  obtain ⟨left, hleft, -⟩ := readNumber_of_readTree read
  rw [Source.ofText_eq (by rw [text, Prod.ext_iff]; exact ⟨read, hleft⟩)] at complete
  have ended : skipBlanks left = [] := by simpa using complete
  refine ⟨number, left, htree, rfl, ?_, List.dropWhile_eq_nil_iff.mp ended⟩
  intro fuel depth tail ends
  obtain ⟨left', hleft', goesOn⟩ := readTree_number_append read ends fuel depth
  cases hleft.symm.trans hleft'
  exact goesOn

theorem asFloat_toTree {x : Binary64} (h : x.ReadsBack) : (float x).toTree.asFloat = .ok x :=
  (Source.decode_eq_ok_iff.mp h).1

theorem isReadIn_float {x : Binary64} (h : x.ReadsBack) : (float x).IsReadIn layout depth := by
  intro level fuel tail _ ends
  obtain ⟨number, left, htree, -, read, blank⟩ := exists_number_of_readsBack h
  rw [htree]
  exact ⟨left ++ tail, read fuel depth tail ends, skipBlanks_append blank tail⟩

theorem endsNumber_breaks (level : Nat) {c : Char}
    (h : c.isDigit = false ∧ c ≠ '.' ∧ c ≠ 'e' ∧ c ≠ 'E') (tail : List Char) :
    EndsNumber (layout.breaks level ++ c :: tail) := by
  intro d hd
  have blank := layout.isSpace_breaks level
  cases hbreaks : layout.breaks level with
  | nil =>
      rw [hbreaks] at hd
      cases hd
      exact h
  | cons b breaks =>
      rw [hbreaks] at hd blank
      cases hd
      have space := blank d List.mem_cons_self
      simp only [isSpace, Bool.or_eq_true, decide_eq_true_eq] at space
      rcases space with ((rfl | rfl) | rfl) | rfl <;> decide

theorem endsNumber_itemsChars (level : Nat) (items : List Value) (tail : List Char) :
    EndsNumber (layout.itemsChars level items ++ tail) := by
  cases items with
  | nil =>
      rw [Layout.itemsChars, List.append_assoc]
      exact endsNumber_breaks level (by decide) tail
  | cons item rest =>
      intro c hc
      rw [Layout.itemsChars] at hc
      cases hc
      decide

theorem endsNumber_fieldsChars (level : Nat) (fields : List (String × Value)) (tail : List Char) :
    EndsNumber (layout.fieldsChars level fields ++ tail) := by
  cases fields with
  | nil =>
      rw [Layout.fieldsChars, List.append_assoc]
      exact endsNumber_breaks level (by decide) tail
  | cons field rest =>
      intro c hc
      rw [Layout.fieldsChars] at hc
      cases hc
      decide

theorem readItems_itemsChars (level : Nat) {rest : List Value} (fuel : Nat) (item : Value)
    (hread : ∀ value ∈ item :: rest, value.IsReadIn layout depth)
    (hfuel : 2 * ((layout.chars (level + 1) item).length + (layout.itemsChars level rest).length) ≤
      fuel + 2)
    (tail : List Char) :
    readItems (fuel + 2) depth
        (layout.chars (level + 1) item ++ (layout.itemsChars level rest ++ tail)) =
      (.cons item.toTree (toItems rest), some tail) := by
  induction rest generalizing fuel item with
  | nil =>
      rw [Layout.itemsChars, List.length_append, List.length_singleton] at hfuel
      obtain ⟨left, read, hleft⟩ := hread item List.mem_cons_self (level + 1) fuel _ (by omega)
        (endsNumber_itemsChars level [] tail)
      refine readItems_last read ?_
      rw [hleft, Layout.itemsChars, List.append_assoc,
        skipBlanks_append (layout.isSpace_breaks level)]
      exact skipBlanks_cons rfl tail
  | cons next rest ih =>
      rw [Layout.itemsChars, List.length_cons, List.length_append, List.length_append] at hfuel
      have positive := layout.length_itemsChars_pos level rest
      obtain ⟨readItem, readRest⟩ := List.forall_mem_cons.mp hread
      obtain ⟨fuel, rfl⟩ : ∃ less, fuel = less + 1 := ⟨fuel - 1, by omega⟩
      obtain ⟨left, read, hleft⟩ := readItem (level + 1) (fuel + 1)
        (layout.itemsChars level (next :: rest) ++ tail) (by omega)
        (endsNumber_itemsChars level (next :: rest) tail)
      have others := ih fuel next readRest (by omega)
      rw [← readItems_blanks (layout.isSpace_breaks (level + 1))] at others
      refine readItems_cons read ?_ others
      rw [hleft, Layout.itemsChars, List.cons_append, List.append_assoc, List.append_assoc]
      exact skipBlanks_cons rfl _

theorem readEntries_fieldsChars (level : Nat) {rest : List (String × Value)} (fuel : Nat)
    (key : String) (value : Value)
    (hread : ∀ field ∈ (key, value) :: rest, field.2.IsReadIn layout depth)
    (hfuel : 2 * ((layout.chars (level + 1) value).length +
      (layout.fieldsChars level rest).length) ≤ fuel + 2)
    (tail : List Char) :
    readEntries (fuel + 2) depth
        (stringChars key ++ ':' :: (layout.gap ++ (layout.chars (level + 1) value ++
          (layout.fieldsChars level rest ++ tail)))) =
      (.cons key value.toTree (toEntries rest), some tail) := by
  induction rest generalizing fuel key value with
  | nil =>
      rw [Layout.fieldsChars, List.length_append, List.length_singleton] at hfuel
      obtain ⟨left, read, hleft⟩ := hread (key, value) List.mem_cons_self (level + 1) fuel _
        (by dsimp only; omega) (endsNumber_fieldsChars level [] tail)
      rw [← readTree_blanks layout.isSpace_gap] at read
      rw [stringChars_append]
      refine readEntries_last (skipBlanks_cons rfl _) (readString_stringChars key _)
        (skipBlanks_cons rfl _) read ?_
      rw [hleft, Layout.fieldsChars, List.append_assoc,
        skipBlanks_append (layout.isSpace_breaks level)]
      exact skipBlanks_cons rfl tail
  | cons next rest ih =>
      obtain ⟨nextKey, nextValue⟩ := next
      rw [Layout.fieldsChars, List.length_cons, List.length_append, List.length_append,
        List.length_cons, List.length_append, List.length_append] at hfuel
      have positive := layout.length_fieldsChars_pos level rest
      obtain ⟨readValue, readRest⟩ := List.forall_mem_cons.mp hread
      obtain ⟨fuel, rfl⟩ : ∃ less, fuel = less + 1 := ⟨fuel - 1, by omega⟩
      obtain ⟨left, read, hleft⟩ := readValue (level + 1) (fuel + 1)
        (layout.fieldsChars level ((nextKey, nextValue) :: rest) ++ tail) (by dsimp only; omega)
        (endsNumber_fieldsChars level _ tail)
      have others := ih fuel nextKey nextValue readRest (by omega)
      rw [← readEntries_blanks (layout.isSpace_breaks (level + 1))] at others
      rw [← readTree_blanks layout.isSpace_gap] at read
      rw [stringChars_append]
      refine readEntries_cons (skipBlanks_cons rfl _) (readString_stringChars key _)
        (skipBlanks_cons rfl _) read ?_ others
      rw [hleft, Layout.fieldsChars]
      simp only [List.cons_append, List.append_assoc]
      exact skipBlanks_cons rfl _

theorem isReadIn_list {items : List Value} (h : ∀ item ∈ items, item.IsReadIn layout depth) :
    (list items).IsReadIn layout (depth + 1) := by
  intro level fuel tail hfuel _
  cases items with
  | nil => exact ⟨tail, rfl, rfl⟩
  | cons item rest =>
      rw [Layout.chars, List.length_cons, List.length_append, List.length_append] at hfuel
      have positive := layout.length_itemsChars_pos level rest
      obtain ⟨fuel, rfl⟩ : ∃ less, fuel = less + 2 := ⟨fuel - 2, by omega⟩
      have elements := readItems_itemsChars level fuel item h (by omega) tail
      rw [← readItems_blanks (layout.isSpace_breaks (level + 1))] at elements
      refine ⟨tail, readTree_list ?_ elements, rfl⟩
      rw [Layout.chars, List.cons_append, List.append_assoc, List.append_assoc]
      exact skipBlanks_cons rfl _

theorem isReadIn_object {fields : Fields}
    (h : ∀ field ∈ fields, field.2.IsReadIn layout depth) :
    (object fields).IsReadIn layout (depth + 1) := by
  intro level fuel tail hfuel _
  cases fields with
  | nil => exact ⟨tail, rfl, rfl⟩
  | cons field rest =>
      obtain ⟨key, value⟩ := field
      rw [Layout.chars, List.length_cons, List.length_append, List.length_append, List.length_cons,
        List.length_append, List.length_append] at hfuel
      have positive := layout.length_fieldsChars_pos level rest
      obtain ⟨fuel, rfl⟩ : ∃ less, fuel = less + 2 := ⟨fuel - 2, by omega⟩
      have entries := readEntries_fieldsChars level fuel key value h (by omega) tail
      rw [← readEntries_blanks (layout.isSpace_breaks (level + 1))] at entries
      refine ⟨tail, readTree_object ?_ entries, rfl⟩
      rw [Layout.chars]
      simp only [List.cons_append, List.append_assoc]
      exact skipBlanks_cons rfl _

/-- A document is read as it is written, unless it is nested too deeply or has a float in it whose
text is not read as this float. -/
theorem isReadIn_of_depth (value : Value) {depth : Nat} (nesting : value.depth ≤ depth)
    (floats : value.floatsReadBack = true) :
    value.IsReadIn layout depth := by
  induction value using nodeInduction generalizing depth with
  | null => exact isReadIn_null
  | bool b => exact isReadIn_bool b
  | int n => exact isReadIn_int n
  | float x => exact isReadIn_float (of_decide_eq_true floats)
  | string s => exact isReadIn_string s
  | list items ih =>
      obtain ⟨depth, rfl⟩ : ∃ less, depth = less + 1 :=
        ⟨depth - 1, by rw [Value.depth] at nesting; omega⟩
      rw [Value.depth, Nat.add_le_add_iff_right, depthIn_le_iff] at nesting
      rw [floatsReadBack, allFloats, allFloatsIn_iff] at floats
      exact isReadIn_list fun item hitem => ih item hitem (nesting item hitem) (floats item hitem)
  | object fields ih =>
      obtain ⟨depth, rfl⟩ : ∃ less, depth = less + 1 :=
        ⟨depth - 1, by rw [Value.depth] at nesting; omega⟩
      rw [Value.depth, Nat.add_le_add_iff_right, depthOf_le_iff] at nesting
      rw [floatsReadBack, allFloats, allFloatsOf_iff] at floats
      exact isReadIn_object fun field hfield =>
        ih field hfield (nesting field hfield) (floats field hfield)

theorem ofText_chars (layout : Layout) {value : Value} (nesting : value.depth ≤ 127)
    (floats : value.floatsReadBack = true) :
    Source.ofText (String.ofList (layout.chars 0 value)) = ⟨value.toTree, false⟩ := by
  have reads : value.IsReadIn layout 127 := isReadIn_of_depth value nesting floats
  obtain ⟨left, read, hleft⟩ := reads 0 (2 * (layout.chars 0 value).length + 1) [] (by omega) nofun
  rw [List.append_nil] at read
  rw [Source.ofText_eq (by rw [String.toList_ofList]; exact read), hleft]
  rfl

/-- Both texts of a document are read as its tree to the end. -/
theorem ofText_toJson {value : Value} (nesting : value.depth ≤ 127)
    (floats : value.floatsReadBack = true) :
    Source.ofText value.toJson = ⟨value.toTree, false⟩ ∧
      Source.ofText value.toIndentedJson = ⟨value.toTree, false⟩ := by
  rw [toJson, toIndentedJson, ← Layout.compact_chars 0, ← Layout.indented_chars]
  exact ⟨ofText_chars .compact nesting floats, ofText_chars .indented nesting floats⟩

theorem exists_toValues {items : List Value}
    (h : ∀ item ∈ items, ∃ document, item.toTree.toValue = .ok document) :
    ∃ documents, (toItems items).toValues = .ok documents := by
  induction items with
  | nil => exact ⟨[], rfl⟩
  | cons item rest ih =>
      obtain ⟨⟨document, hitem⟩, hrest⟩ := List.forall_mem_cons.mp h
      obtain ⟨documents, hdocuments⟩ := ih hrest
      rw [toItems, Items.toValues, hitem, hdocuments]
      exact ⟨_, rfl⟩

theorem exists_toFields {fields : Fields}
    (h : ∀ field ∈ fields, ∃ document, field.2.toTree.toValue = .ok document) (before : Fields) :
    ∃ after, (toEntries fields).toFields before = .ok after := by
  induction fields generalizing before with
  | nil => exact ⟨before, rfl⟩
  | cons field rest ih =>
      obtain ⟨⟨document, hfield⟩, hrest⟩ := List.forall_mem_cons.mp h
      rw [toEntries, Entries.toFields, hfield]
      exact ih hrest _

/-- The tree of a document can be read to its end. -/
theorem whole_toTree (value : Value) (floats : value.floatsReadBack = true) :
    value.toTree.whole = .ok value.toTree := by
  have ended : ∃ document, value.toTree.toValue = .ok document := by
    induction value using nodeInduction with
    | null => exact ⟨_, rfl⟩
    | bool b => exact ⟨_, rfl⟩
    | int n => exact ⟨_, rfl⟩
    | float x =>
        obtain ⟨number, _, htree, -⟩ := exists_number_of_readsBack (of_decide_eq_true floats)
        rw [htree]
        exact ⟨_, rfl⟩
    | string s => exact ⟨_, rfl⟩
    | list items ih =>
        rw [floatsReadBack, allFloats, allFloatsIn_iff] at floats
        obtain ⟨documents, h⟩ := exists_toValues fun item hitem => ih item hitem (floats item hitem)
        rw [toTree, Tree.toValue, h]
        exact ⟨_, rfl⟩
    | object fields ih =>
        rw [floatsReadBack, allFloats, allFloatsOf_iff] at floats
        obtain ⟨after, h⟩ := exists_toFields
          (fun field hfield => ih field hfield (floats field hfield)) []
        rw [toTree, Tree.toValue, h]
        exact ⟨_, rfl⟩
  obtain ⟨document, h⟩ := ended
  rw [Tree.whole, h]
  rfl

end Value

end TreeTable