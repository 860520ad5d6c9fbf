import TreeTable.Job.Compilation
import TreeTable.Job.Printer
import TreeTable.Proofs.Job.Validation
import TreeTable.Proofs.Json.Reading

/-! # Jobs are read as they are written

A job is written with all fields of its records in order. What is read from the text of a field is
what was written there, so the job that is read is the job that was written. Only the start of a sum
is a number, whose text need not be read as the same number.
-/

namespace TreeTable

open Json Numeric Outcome

namespace Json

section Shapes

variable {α : Type} {shape : Shape α} {write : α → Value}

/-- A list is read by reading what was written for its elements. -/
theorem asList_toTree {items : List α}
    (h : ∀ item ∈ items, shape (write item).toTree = .ok item) :
    Tree.asList shape (Value.list (items.map write)).toTree = .ok items := by
  rw [Value.toTree, Tree.asList]
  induction items with
  | nil => rfl
  | cons item rest ih =>
      obtain ⟨hitem, hrest⟩ := List.forall_mem_cons.mp h
      rw [List.map_cons, Value.toItems, Items.readAll, hitem, ok_bind, ih hrest]
      rfl

/-- Null stands for nothing, unless it may be written for something. -/
theorem asOption_toTree {option : Option α} (h : ∀ a, shape (write a).toTree = .ok a)
    (something : ∀ a, (write a).toTree ≠ .null) :
    Tree.asOption shape ((option.map write).getD .null).toTree = .ok option := by
  cases option with
  | none => rfl
  | some a =>
      rw [Option.map_some, Option.getD_some, Tree.asOption.eq_def]
      split
      next null => exact absurd null (something a)
      next => rw [h, Except.map]

theorem asString_toTree (s : String) : Tree.asString (Value.string s).toTree = .ok s := rfl

theorem asBool_toTree (b : Bool) : Tree.asBool (Value.bool b).toTree = .ok b := rfl

theorem asList_ofTexts (texts : List String) :
    Tree.asList Tree.asString (Value.ofTexts texts).toTree = .ok texts :=
  asList_toTree fun _ _ => rfl

theorem asOption_ofText? (text : Option String) :
    Tree.asOption Tree.asString (Value.ofText? text).toTree = .ok text :=
  asOption_toTree asString_toTree fun _ => nofun

end Shapes

section Records

variable {σ : Type} {fields : List (FieldShape σ)} {written : List (FieldShape σ × Value)}

/-- Reads the fields of a record from what was written for each of them. -/
def readFields (written : List (FieldShape σ × Value)) (record : σ) : Except Error σ :=
  written.foldlM (fun record field => field.1.read field.2.toTree record) record

/-- A field is found by its name, which no field before it has. -/
theorem find?_name {before after : List (FieldShape σ)} {field : FieldShape σ}
    (all : fields = before ++ field :: after) (distinct : (fields.map FieldShape.name).Nodup) :
    fields.find? (·.name == field.name) = some field ∧
      field.name ∉ before.map FieldShape.name := by
  subst all
  rw [List.map_append, List.map_cons, List.nodup_append] at distinct
  obtain ⟨-, -, apart⟩ := distinct
  have fresh : field.name ∉ before.map FieldShape.name :=
    fun h => apart _ h _ List.mem_cons_self rfl
  have unfound : before.find? (·.name == field.name) = none := by
    rw [List.find?_eq_none]
    intro other hother same
    rw [beq_iff_eq] at same
    exact fresh (same ▸ List.mem_map_of_mem hother)
  refine ⟨?_, fresh⟩
  rw [List.find?_append, unfound, List.find?_cons, beq_self_eq_true]
  rfl

/-- Whether the keys seen so far are the names of these fields. -/
def SeenAre (seen : List String) (before : List (FieldShape σ)) : Prop :=
  ∀ name, name ∈ seen ↔ name ∈ before.map FieldShape.name

theorem SeenAre.cons {seen : List String} {before : List (FieldShape σ)} (h : SeenAre seen before)
    (field : FieldShape σ) : SeenAre (field.name :: seen) (before ++ [field]) := by
  intro name
  rw [List.mem_cons, h, List.map_append, List.mem_append, List.map_singleton, List.mem_singleton,
    or_comm]

/-- Fields that are written behind those that have been read. -/
theorem readRecord_toEntries_append (before : List (FieldShape σ)) {seen : List String}
    (all : fields = before ++ written.map Prod.fst)
    (distinct : (fields.map FieldShape.name).Nodup) (hseen : SeenAre seen before) (record : σ) :
    (Value.toEntries (written.map fun field => (field.1.name, field.2))).readRecord fields seen
        record = readFields written record := by
  induction written generalizing before seen record with
  | nil =>
      have present : fields.all (fun field => !field.required || seen.contains field.name) := by
        rw [List.all_eq_true]
        intro field hfield
        rw [all, List.map_nil, List.append_nil] at hfield
        simp [(hseen field.name).mpr (List.mem_map_of_mem hfield)]
      rw [List.map_nil, Value.toEntries, Entries.readRecord, if_pos present]
      rfl
  | cons field rest ih =>
      obtain ⟨field, value⟩ := field
      obtain ⟨found, fresh⟩ := find?_name all distinct
      have unseen : seen.contains field.name = false := by
        simpa [hseen field.name] using fresh
      rw [List.map_cons, Value.toEntries, Entries.readRecord, unseen,
        if_neg Bool.false_ne_true, found]
      refine bind_congr fun record => ?_
      exact ih (before ++ [field]) (all.trans (List.append_cons before field _))
        (hseen.cons field) record

/-- A record that is written with all its fields in order is read field by field. -/
theorem readRecord_toEntries (fields : List (FieldShape σ)) (values : List Value)
    (all : fields.length = values.length) (distinct : (fields.map FieldShape.name).Nodup)
    (record : σ) :
    (Value.toEntries ((fields.zip values).map fun field => (field.1.name, field.2))).readRecord
        fields [] record = readFields (fields.zip values) record := by
  refine readRecord_toEntries_append [] ?_ distinct (fun _ => Iff.rfl) record
  rw [List.nil_append, List.map_fst_zip (Nat.le_of_eq all)]

end Records

end Json

namespace Value

variable (test : Binary64 → Bool)

theorem allFloats_ofTexts (texts : List String) : (ofTexts texts).allFloats test = true := by
  rw [ofTexts, allFloats, allFloatsIn_iff, List.forall_mem_map]
  exact fun _ _ => rfl

theorem allFloats_ofText? (text : Option String) : (ofText? text).allFloats test = true := by
  cases text <;> rfl

end Value

theorem JoinSpec.ofTree_toValue (spec : JoinSpec) : ofTree spec.toValue.toTree = .ok spec := by
  have hmatchers : Tree.asList Tree.asPair (Value.list (spec.matchers.map fun keys =>
      Value.ofTexts [keys.1, keys.2])).toTree = .ok spec.matchers :=
    asList_toTree fun _ _ => rfl
  have read := readRecord_toEntries JoinSpec.fields [.string spec.left, .string spec.right,
      .list (spec.matchers.map fun keys => Value.ofTexts [keys.1, keys.2]),
      Value.ofText? spec.target] rfl (by decide) ⟨"", "", [], none⟩
  refine Eq.trans read ?_
  simp [readFields, fields, FieldShape.mandatory, FieldShape.optional, asString_toTree, hmatchers,
    asOption_ofText?, Except.map]

theorem JoinSpec.allFloats_toValue (test : Binary64 → Bool) (spec : JoinSpec) :
    spec.toValue.allFloats test = true := by
  have hmatchers : Value.allFloatsIn test
      (spec.matchers.map fun keys => Value.ofTexts [keys.1, keys.2]) = true := by
    rw [Value.allFloatsIn_iff, List.forall_mem_map]
    exact fun keys _ => Value.allFloats_ofTexts test _
  simp [toValue, Value.allFloats, Value.allFloatsOf, Value.allFloats_ofText?, hmatchers]

namespace StageSpec

/-- The number that a sum starts with. -/
def start? : StageSpec → Option Binary64
  | sum start => some start
  | _ => none

/-- The start of a sum is the only float in a stage. -/
theorem allFloats_toValue (test : Binary64 → Bool) (stage : StageSpec) :
    stage.toValue.allFloats test = stage.start?.all test := by
  cases stage <;>
    simp [toValue, Value.allFloats, Value.allFloatsOf, Value.allFloats_ofTexts, start?]

/-- A stage that is written as its kind and its fields is read from them. -/
theorem ofTree_tagged (kind : StageKind) {fields : Fields}
    (others : ∀ field ∈ fields, field.1 ≠ kindField)
    (floats : (Value.object ((kindField, .string kind.name) :: fields)).floatsReadBack = true) :
    ofTree (Value.object ((kindField, .string kind.name) :: fields)).toTree =
      ofFields (fields.map fun field => (field.1, field.2.toTree)) kind := by
  have hkind : readKind (.string kind.name) = .ok kind := by
    rw [readKind, Tree.asString, ok_bind, StageKind.ofName?_name]
    rfl
  rw [Value.floatsReadBack, Value.allFloats, Value.allFloatsOf_iff, List.forall_mem_cons] at floats
  have hfields : readEntries (Value.toEntries fields) (some kind) =
      .ok (kind, fields.map fun field => (field.1, field.2.toTree)) := by
    replace floats := floats.2
    induction fields with
    | nil => rfl
    | cons field rest ih =>
        obtain ⟨hname, hnames⟩ := List.forall_mem_cons.mp others
        obtain ⟨hvalue, hvalues⟩ := List.forall_mem_cons.mp floats
        rw [Value.toEntries, readEntries, if_neg hname, Value.whole_toTree _ hvalue, ok_bind,
          ih hnames hvalues]
        rfl
  rw [Value.toTree, Value.toEntries, ofTree, readEntries, if_pos rfl, Value.toTree, hkind, ok_bind,
    hfields]
  rfl

theorem ofTree_toValue {stage : StageSpec} (floats : stage.toValue.floatsReadBack = true) :
    ofTree stage.toValue.toTree = .ok stage := by
  cases stage with
  | sum start =>
      have reads : start.ReadsBack := by
        rw [Value.floatsReadBack, allFloats_toValue] at floats
        exact of_decide_eq_true floats
      refine (ofTree_tagged .sum (by simp [kindField]) floats).trans ?_
      change (Tree.asFloat (Value.float start).toTree >>= fun start => .ok (sum start)) = _
      rw [Value.asFloat_toTree reads]
      rfl
  | average => exact ofTree_tagged .average (by simp) floats
  | join separator => exact ofTree_tagged .join (by simp [kindField]) floats
  | sort descending => exact ofTree_tagged .sort (by simp [kindField]) floats
  | unique => exact ofTree_tagged .unique (by simp) floats
  | count compact => exact ofTree_tagged .count (by simp [kindField]) floats
  | scan pattern => exact ofTree_tagged .scan (by simp [kindField]) floats
  | capture pattern groups =>
      refine (ofTree_tagged .capture (by simp [kindField]) floats).trans ?_
      change (Tree.asList Tree.asString (Value.ofTexts groups).toTree >>= fun groups =>
        .ok (capture pattern groups)) = _
      rw [asList_ofTexts]
      rfl

end StageSpec

namespace NodeSpec

/-- A node is read field by field, and then the nodes below it. -/
theorem readEntries_toEntries (before : List (FieldShape NodeSpec)) {seen : List String}
    (written : List (FieldShape NodeSpec × Value))
    (all : ownFields = before ++ written.map Prod.fst) (hseen : SeenAre seen before)
    (children : Value) (spec : NodeSpec) :
    readEntries (Value.toEntries ((written.map fun field => (field.1.name, field.2)) ++
        [(childrenField, children)])) seen spec = do
      let spec ← readFields written spec
      let children ← listOfTree children.toTree
      return { spec with children } := by
  have distinct : (ownFields.map FieldShape.name).Nodup := by decide
  have apart : childrenField ∉ ownFields.map FieldShape.name := by decide
  induction written generalizing before seen spec with
  | nil =>
      have unseen : seen.contains childrenField = false := by
        rw [List.map_nil, List.append_nil] at all
        simpa [hseen childrenField, ← all] using apart
      rw [List.map_nil, List.nil_append, Value.toEntries, readEntries, unseen,
        if_neg Bool.false_ne_true, if_pos rfl, Value.toEntries]
      rfl
  | cons field rest ih =>
      obtain ⟨field, value⟩ := field
      obtain ⟨found, fresh⟩ := find?_name all distinct
      have unseen : seen.contains field.name = false := by
        simpa [hseen field.name] using fresh
      have own : field.name ≠ childrenField := by
        intro same
        rw [all, List.map_append, List.mem_append, ← same] at apart
        exact apart (.inr List.mem_cons_self)
      rw [List.map_cons, List.cons_append, Value.toEntries, readEntries, unseen,
        if_neg Bool.false_ne_true, if_neg own, found]
      rw [readFields, List.foldlM_cons, bind_assoc]
      refine bind_congr fun spec => ?_
      exact ih (before ++ [field]) (all.trans (List.append_cons before field _))
        (hseen.cons field) spec

/-- The floats in a node are those in its stages and in the nodes below it. -/
theorem allFloats_toValue (test : Binary64 → Bool) (spec : NodeSpec) :
    spec.toValue.allFloats test = ((spec.stages.all fun stage => stage.toValue.allFloats test) &&
      Value.allFloatsIn test (toValues spec.children)) := by
  have hstages : Value.allFloatsIn test (spec.stages.map StageSpec.toValue) =
      spec.stages.all fun stage => stage.toValue.allFloats test := by
    rw [Bool.eq_iff_iff, Value.allFloatsIn_iff, List.forall_mem_map, List.all_eq_true]
  obtain ⟨key, find, capture, aggregate, value, name, splat, stages, children⟩ := spec
  simp only [toValue, Value.allFloats, Value.allFloatsOf, Value.allFloats_ofText?,
    Value.allFloats_ofTexts, hstages, Bool.true_and, Bool.and_true]

mutual

theorem ofTree_toValue : (spec : NodeSpec) → spec.toValue.floatsReadBack = true →
    ofTree spec.toValue.toTree = .ok spec
  | ⟨key, find, capture, aggregate, value, name, splat, stages, children⟩, floats => by
      rw [Value.floatsReadBack, allFloats_toValue, Bool.and_eq_true, List.all_eq_true] at floats
      have hstages : Tree.asList StageSpec.ofTree
          (Value.list (stages.map StageSpec.toValue)).toTree = .ok stages :=
        asList_toTree fun stage hstage => StageSpec.ofTree_toValue (floats.1 stage hstage)
      have hchildren : listOfTree (Value.list (toValues children)).toTree = .ok children :=
        ofItems_toValues children floats.2
      have read := readEntries_toEntries [] (ownFields.zip [Value.ofText? key, Value.ofText? find,
        Value.ofText? capture, Value.ofTexts aggregate, Value.ofText? value, Value.ofText? name,
        .bool splat, .list (stages.map StageSpec.toValue)]) rfl (fun _ => Iff.rfl)
        (.list (toValues children)) {}
      refine Eq.trans read ?_
      rw [hchildren]
      simp [readFields, ownFields, textField, FieldShape.optional, asOption_ofText?,
        asList_ofTexts, asBool_toTree, hstages, Except.map]

theorem ofItems_toValues : (specs : List NodeSpec) →
    Value.allFloatsIn (fun x => decide x.ReadsBack) (toValues specs) = true →
    ofItems (Value.toItems (toValues specs)) = .ok specs
  | [], _ => rfl
  | spec :: rest, floats => by
      rw [toValues, Value.allFloatsIn, Bool.and_eq_true] at floats
      rw [toValues, Value.toItems, ofItems, ofTree_toValue spec floats.1, ok_bind,
        ofItems_toValues rest floats.2]
      rfl

end

mutual

/-- The starts of sums are the only floats in a node and in those below it. -/
theorem allFloats_nodes (test : Binary64 → Bool) : (spec : NodeSpec) →
    spec.toValue.allFloats test =
      (nodes spec).all fun node => node.stages.all fun stage => stage.start?.all test
  | ⟨key, find, capture, aggregate, value, name, splat, stages, children⟩ => by
      rw [allFloats_toValue, nodes, List.all_cons, allFloatsIn_nodesOf test children]
      simp only [StageSpec.allFloats_toValue]

theorem allFloatsIn_nodesOf (test : Binary64 → Bool) : (specs : List NodeSpec) →
    Value.allFloatsIn test (toValues specs) =
      (nodesOf specs).all fun node => node.stages.all fun stage => stage.start?.all test
  | [] => rfl
  | spec :: rest => by
      rw [toValues, Value.allFloatsIn, nodesOf, List.all_append, allFloats_nodes test spec,
        allFloatsIn_nodesOf test rest]

end

end NodeSpec

namespace ExtractSpec

/-- The only floats in an extraction tree are in its nodes. -/
theorem allFloats_toValue (test : Binary64 → Bool) (spec : ExtractSpec) :
    spec.toValue.allFloats test = Value.allFloatsIn test (NodeSpec.toValues spec.nodes) := by
  have hheader : ((spec.header.map Value.ofTexts).getD .null).allFloats test = true := by
    cases spec.header with
    | none => rfl
    | some names => exact Value.allFloats_ofTexts test names
  simp only [toValue, Value.allFloats, Value.allFloatsOf, Value.allFloats_ofText?, hheader,
    Bool.true_and, Bool.and_true]

theorem ofTree_toValue {spec : ExtractSpec} (floats : spec.toValue.floatsReadBack = true) :
    ofTree spec.toValue.toTree = .ok spec := by
  rw [Value.floatsReadBack, allFloats_toValue] at floats
  have hheader : Tree.asOption (Tree.asList Tree.asString)
      ((spec.header.map Value.ofTexts).getD .null).toTree = .ok spec.header :=
    asOption_toTree asList_ofTexts fun _ => nofun
  have hnodes : NodeSpec.listOfTree (Value.list (NodeSpec.toValues spec.nodes)).toTree =
      .ok spec.nodes := NodeSpec.ofItems_toValues spec.nodes floats
  have read := readRecord_toEntries ExtractSpec.fields [Value.ofText? spec.source,
    (spec.header.map Value.ofTexts).getD .null, .list (NodeSpec.toValues spec.nodes)] rfl
    (by decide) {}
  refine Eq.trans read ?_
  simp [readFields, fields, FieldShape.optional, asOption_ofText?, hheader, hnodes, Except.map]

end ExtractSpec

namespace JobSpec

/-- The numbers that the sums in a job start with. -/
def starts (spec : JobSpec) : List Binary64 :=
  spec.extract.allNodes.flatMap fun node => node.stages.filterMap StageSpec.start?

theorem allFloats_extract (test : Binary64 → Bool) (spec : JobSpec) :
    spec.toValue.allFloats test = spec.extract.toValue.allFloats test := by
  have hrules : Value.allFloatsIn test (spec.rules.map JoinSpec.toValue) = true := by
    rw [Value.allFloatsIn_iff, List.forall_mem_map]
    exact fun rule _ => rule.allFloats_toValue test
  simp only [toValue, Value.allFloats, Value.allFloatsOf, hrules, Bool.true_and, Bool.and_true]

/-- The starts of sums are the only floats in a job. -/
theorem allFloats_toValue (test : Binary64 → Bool) (spec : JobSpec) :
    spec.toValue.allFloats test = spec.starts.all test := by
  rw [allFloats_extract, ExtractSpec.allFloats_toValue, NodeSpec.allFloatsIn_nodesOf, starts,
    ExtractSpec.allNodes, List.all_flatMap]
  simp only [List.all_filterMap]
  rfl

theorem ofTree_toValue {spec : JobSpec} (floats : spec.toValue.floatsReadBack = true) :
    ofTree spec.toValue.toTree = .ok spec := by
  rw [Value.floatsReadBack, allFloats_extract] at floats
  have hrules : Tree.asList JoinSpec.ofTree (Value.list (spec.rules.map JoinSpec.toValue)).toTree =
      .ok spec.rules := asList_toTree fun rule _ => rule.ofTree_toValue
  have read := readRecord_toEntries JobSpec.fields [.list (spec.rules.map JoinSpec.toValue),
    spec.extract.toValue] rfl (by decide) {}
  refine Eq.trans read ?_
  simp [readFields, fields, FieldShape.optional, hrules, ExtractSpec.ofTree_toValue floats,
    Except.map]

/-- A text that is read as the tree of a job is read as the job. -/
theorem read_of_source {spec : JobSpec} {text : String}
    (floats : spec.toValue.floatsReadBack = true)
    (source : Source.ofText text = ⟨spec.toValue.toTree, false⟩) : read text = .ok spec := by
  have decoded : ofJson text = .ok spec := by
    rw [ofJson, source, Source.decode_eq_ok_iff]
    exact ⟨ofTree_toValue floats, rfl⟩
  rw [read, decoded]
  rfl

/-- A job is read from its text, in one line or indented, so what is read has the same merge rules
and the same extractor. The text must not be nested more deeply than texts that are read may be, and
each start of a sum must be read as the same number. -/
theorem read_toJson (spec : JobSpec) (nesting : spec.toValue.depth ≤ 127)
    (starts : ∀ start ∈ spec.starts, start.ReadsBack) :
    ∀ text ∈ [spec.toJson, spec.toValue.toIndentedJson], read text = .ok spec ∧
      (read text >>= joinRules) = spec.joinRules ∧ (read text >>= extractor) = spec.extractor := by
  have floats : spec.toValue.floatsReadBack = true := by
    rw [Value.floatsReadBack, allFloats_toValue, List.all_eq_true]
    exact fun start hstart => decide_eq_true (starts start hstart)
  obtain ⟨compact, indented⟩ := Value.ofText_toJson nesting floats
  have reads : ∀ text ∈ [spec.toJson, spec.toValue.toIndentedJson], read text = .ok spec := by
    rw [List.forall_mem_cons, List.forall_mem_singleton]
    exact ⟨read_of_source floats compact, read_of_source floats indented⟩
  intro text htext
  rw [reads text htext]
  exact ⟨rfl, rfl, rfl⟩

theorem read_toJson_nested :
    let tenth : Binary64 := Binary64.ofRatio false 1 10
    let total : NodeSpec := {
      capture := some "lines[\"net\"]"
      name := some "net \u000b"
      stages := [.sum tenth, .capture "(\\d+)" ["1", "all"], .average] }
    let orders : NodeSpec := { key := some "orders", splat := true, children := [total, {}] }
    let spec : JobSpec := {
      rules := [⟨"orders", "people", [("buyer", "id"), ("zone", "zone")], none⟩]
      extract := { header := some ["net"], nodes := [orders] } }
    spec.toValue.depth = 9 ∧ spec.starts = [tenth] ∧ tenth.ReadsBack ∧
      read spec.toJson = .ok spec ∧
      (read spec.toJson >>= extractor) = .error (.unclearKind "") := by
  intro tenth total orders spec
  have nesting : spec.toValue.depth = 9 := by decide +kernel
  have starts : spec.starts = [tenth] := by decide +kernel
  have reads : tenth.ReadsBack := by decide +kernel
  have read := read_toJson spec (by rw [nesting]; decide)
    (by rw [starts, List.forall_mem_singleton]; exact reads) spec.toJson List.mem_cons_self
  exact ⟨nesting, starts, reads, read.1, read.2.2.trans (by rfl)⟩

end JobSpec

end TreeTable
