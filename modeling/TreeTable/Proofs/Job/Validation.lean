import TreeTable.Job.Compilation
import TreeTable.Proofs.Outcome

/-! # What makes a job valid

A job is checked in two passes, each of which takes every node before the nodes below it. The
first looks at the shape of the nodes alone, the second reads paths and patterns; a pattern that
is none is met in the first pass, while its node is put together, and reported in the second.

What is wrong with a node is said here on its declaration, without the plan that it becomes. A
job reports what is wrong with the first node that has something wrong with it, a wrong shape
anywhere before everything else.
-/

namespace TreeTable

open Outcome

/-- The text of the pattern that a stage rests on. -/
def StageSpec.pattern? : StageSpec → Option String
  | scan pattern => some pattern
  | capture pattern _ => some pattern
  | _ => none

namespace NodeSpec

/-- What a node may say that it is. -/
inductive Kind where
  | key (key : String)
  | find (path : String)
  | capture (path : String)
  | aggregate (paths : List String)
  | value (name : String)

namespace Kind

/-- Whether nodes of a kind lead to the nodes below them. -/
def isInterior : Kind → Bool
  | key _ => true
  | find _ => true
  | _ => false

/-- The paths that a kind declares. -/
def paths : Kind → List String
  | key _ => []
  | find path => [path]
  | capture path => [path]
  | aggregate paths => paths
  | value _ => []

/-- The name that a kind gives to a node. -/
def name : Kind → String
  | key field => field
  | find path => path
  | capture path => path
  | aggregate paths => "_".intercalate paths
  | value column => column

end Kind

/-- Everything that a node says that it is. An aggregate of no paths says nothing. -/
def kinds (spec : NodeSpec) : List Kind :=
  spec.key.toList.map .key ++ spec.find.toList.map .find ++ spec.capture.toList.map .capture ++
    (if spec.aggregate = [] then [] else [.aggregate spec.aggregate]) ++
    spec.value.toList.map .value

/-- The texts of the patterns that a node declares. -/
def patterns (spec : NodeSpec) : List String := spec.stages.filterMap StageSpec.pattern?

/-- The name of a node of a kind in messages about its paths and patterns. -/
def place (spec : NodeSpec) (kind : Kind) : String :=
  let name := if kind.isInterior then spec.name.getD kind.name else kind.name
  if name = "" then "<root>" else name

/-- What is wrong with the shape of a node: it does not say exactly once what it is, or it has
nodes below it though it is a capture. -/
def shapeFault (spec : NodeSpec) : Option JobError :=
  match spec.kinds with
  | [kind] =>
      if kind.isInterior || spec.children.isEmpty then none
      else some (.captureWithChildren spec.label)
  | _ => some (.unclearKind spec.label)

/-- What is wrong with the declaration of a node: stages where nothing is captured, or else the
first of its paths that cannot be read, or else the first of its patterns that is none. -/
def fault (spec : NodeSpec) : Option DeclarationError :=
  match spec.kinds with
  | [kind] =>
      let place := spec.place kind
      if kind.isInterior && !spec.stages.isEmpty then some (.composedInterior place)
      else
        (kind.paths.findSome? fun text => (error? (Path.parse text)).map (.path place)).or
          (spec.patterns.findSome? fun source =>
            if (Pattern.ofSource? source).isSome then none else some (.pattern place source))
  | _ => none

/-- A node that is of a kind and has nothing wrong with it. -/
structure ValidAs (spec : NodeSpec) (kind : Kind) : Prop where
  only : spec.kinds = [kind]
  childless : kind.isInterior = false → spec.children = []
  stageless : kind.isInterior = true → spec.stages = []
  paths : ∀ text ∈ kind.paths, ∃ path, Path.parse text = .ok path
  patterns : ∀ source ∈ spec.patterns, ∃ pattern, Pattern.ofSource? source = some pattern

/-- A node that says exactly once what it is and has nothing wrong with it as that. -/
def Valid (spec : NodeSpec) : Prop := ∃ kind, spec.ValidAs kind

mutual

/-- A node and the nodes below it, each before those below it. -/
def nodes : NodeSpec → List NodeSpec
  | ⟨key, find, capture, aggregate, value, name, splat, stages, children⟩ =>
      ⟨key, find, capture, aggregate, value, name, splat, stages, children⟩ :: nodesOf children

def nodesOf : List NodeSpec → List NodeSpec
  | [] => []
  | spec :: rest => nodes spec ++ nodesOf rest

end

end NodeSpec

namespace ExtractSpec

/-- All nodes of a declared tree, each before those below it. -/
def allNodes (spec : ExtractSpec) : List NodeSpec := NodeSpec.nodesOf spec.nodes

/-- What is wrong with the path from which the data is taken. -/
def sourceFault (spec : ExtractSpec) : Option DeclarationError :=
  spec.source.bind fun text => (error? (Path.parse text)).map (.path "<root>")

/-- What is wrong with a declared tree: the first wrong shape, or else the first fault. -/
def firstFault (spec : ExtractSpec) : Option JobError :=
  (spec.allNodes.findSome? NodeSpec.shapeFault).or
    ((spec.sourceFault.or (spec.allNodes.findSome? NodeSpec.fault)).map .declaration)

/-- A declared tree that nothing is wrong with. -/
structure Valid (spec : ExtractSpec) : Prop where
  source : ∀ text ∈ spec.source, ∃ path, Path.parse text = .ok path
  nodes : ∀ node ∈ spec.allNodes, node.Valid

end ExtractSpec

/-! ## The plan of a node -/

/-- How a stage that is declared at a node is read. -/
def StageSpec.read (node : String) : StageSpec → Except DeclarationError Stage
  | sum start => .ok (.sum (.ofBinary64 start))
  | average => .ok .average
  | join separator => .ok (.join separator)
  | sort descending => .ok (.sort descending)
  | unique => .ok .unique
  | count compact => .ok (.count compact)
  | scan source =>
      match Pattern.ofSource? source with
      | some pattern => .ok (.scan pattern)
      | none => .error (.pattern node source)
  | capture source groups =>
      match Pattern.ofSource? source with
      | some pattern => .ok (.capture pattern (groups.map Group.ofText))
      | none => .error (.pattern node source)

theorem StageSpec.attach_eq (spec : StageSpec) (plan : NodePlan) :
    spec.attach plan = plan.addStage (spec.read plan.label) := by
  cases spec <;> rfl

/-- A stage is wrong only by its pattern. -/
theorem StageSpec.error?_read (node : String) (spec : StageSpec) :
    error? (spec.read node) = spec.pattern?.bind fun source =>
      if (Pattern.ofSource? source).isSome then none else some (.pattern node source) := by
  cases spec with
  | scan source =>
      rw [read, pattern?, Option.bind_some]
      cases Pattern.ofSource? source <;> rfl
  | capture source groups =>
      rw [read, pattern?, Option.bind_some]
      cases Pattern.ofSource? source <;> rfl
  | _ => rfl

/-- The first wrong stage is the one with the first wrong pattern. -/
theorem StageSpec.findSome?_read (node : String) (specs : List StageSpec) :
    (specs.map (read node)).findSome? error? =
      (specs.filterMap pattern?).findSome? fun source =>
        if (Pattern.ofSource? source).isSome then none else some (.pattern node source) := by
  induction specs with
  | nil => rfl
  | cons spec rest ih =>
      rw [List.map_cons, List.findSome?_cons, ih, error?_read, List.filterMap_cons]
      cases spec.pattern? with
      | none => rfl
      | some source => rw [List.findSome?_cons, Option.bind_some]

namespace PlanRole

def isInterior : PlanRole → Bool
  | interior _ => true
  | capture _ _ => false

/-- The texts that are read as paths. -/
def paths : PlanRole → List String
  | interior .here => []
  | interior (.key _) => []
  | interior (.find path) => [path]
  | capture paths _ => paths

end PlanRole

namespace NodePlan

theorem error?_readPaths (node : String) (texts : List String) :
    error? (readPaths node texts) =
      texts.findSome? fun text => (error? (Path.parse text)).map (.path node) := by
  induction texts with
  | nil => rfl
  | cons text rest ih =>
      rw [readPaths, ← List.singleton_append, List.findSome?_append, List.findSome?_singleton, ← ih,
        ← error?_mapError]
      apply error?_bind_eq_or
      intro path _
      cases readPaths node rest <;> rfl

theorem error?_readStages (stages : List (Except DeclarationError Stage)) :
    error? (readStages stages) = stages.findSome? error? := by
  induction stages with
  | nil => rfl
  | cons stage rest ih =>
      rw [readStages, ← List.singleton_append, List.findSome?_append, List.findSome?_singleton,
        ← ih]
      apply error?_bind_eq_or
      intro read _
      cases readStages rest <;> rfl

/-- What is wrong with a node that is being declared. -/
theorem error?_compileRole (plan : NodePlan) :
    error? plan.compileRole =
      if plan.role.isInterior && !plan.stages.isEmpty then some (.composedInterior plan.label)
      else
        (plan.role.paths.findSome? fun text =>
          (error? (Path.parse text)).map (.path plan.label)).or (plan.stages.findSome? error?) := by
  obtain ⟨segment, role, splat, stages, children⟩ := plan
  cases role with
  | interior reach =>
      cases stages with
      | cons stage rest => rfl
      | nil =>
          cases reach with
          | here => rfl
          | key field => rfl
          | find text =>
              rw [compileRole]
              simp only [PlanRole.paths, List.findSome?_singleton, List.findSome?_nil,
                Option.or_none, ← error?_mapError]
              change error? (Path.declared _ text >>= _) = error? (Path.declared _ text)
              cases Path.declared _ text <;> rfl
  | capture paths column =>
      simp only [PlanRole.isInterior, PlanRole.paths, Bool.false_and, Bool.false_eq_true, if_false]
      rw [compileRole, ← error?_readPaths, ← error?_readStages]
      apply error?_bind_eq_or
      intro compiled _
      cases readStages stages <;> rfl

/-- A plan is wrong where its node is, or else where the nodes below it are. -/
theorem error?_compileBelow (above : List String) (plan : NodePlan) :
    error? (compileBelow above plan) =
      (error? (compileRole { plan with children := [] })).or
        (error? (compileAllBelow (plan.lineage above) plan.children)) := by
  obtain ⟨segment, role, splat, stages, children⟩ := plan
  have lineage_eq : lineage above ⟨segment, role, splat, stages, children⟩ =
      lineage above ⟨segment, role, splat, stages, []⟩ := rfl
  rw [compileBelow, lineage_eq]
  apply error?_bind_eq_or
  intro compiled _
  cases compileAllBelow _ children <;> rfl

theorem error?_compile (plan : NodePlan) :
    error? plan.compile = error? (compileBelow [] plan) := by
  rw [compile]
  cases compileBelow [] plan <;> rfl

end NodePlan

namespace NodeSpec

/-- Stages are added in order, and read under the name that the node has by then. -/
theorem foldl_attach (stages : List StageSpec) (plan : NodePlan) :
    stages.foldl (fun plan stage => stage.attach plan) plan =
      { plan with stages := plan.stages ++ stages.map (StageSpec.read plan.label) } := by
  induction stages generalizing plan with
  | nil =>
      rw [List.foldl_nil, List.map_nil, List.append_nil]
      cases plan
      rfl
  | cons stage rest ih =>
      rw [List.foldl_cons, ih, StageSpec.attach_eq, List.map_cons]
      simp only [NodePlan.addStage, List.append_assoc, List.singleton_append]
      rfl

theorem length_kinds (spec : NodeSpec) : spec.kinds.length = spec.kindCount := by
  have once {α : Type} (field : Option α) : field.toList.length = [field.isSome].count true := by
    cases field <;> rfl
  have several (paths : List String) :
      (if paths = [] then [] else [Kind.aggregate paths]).length =
        [!paths.isEmpty].count true := by
    cases paths <;> rfl
  simp only [kinds, List.length_append, List.length_map, once, several]
  rw [← List.count_append, ← List.count_append, ← List.count_append, ← List.count_append]
  rfl

/-- The plan of a node of a kind before anything else is said about it. -/
def Kind.plan : Kind → NodePlan
  | key field => .atKey field
  | find path => .atPath path
  | capture path => .capture path
  | aggregate paths => .aggregate paths
  | value column => .captureSelf column

/-- A node that says once what it is becomes that, and captures unless it leads on. -/
theorem kindPlan_of_kinds {spec : NodeSpec} {kind : Kind} (h : spec.kinds = [kind]) :
    spec.kindPlan = kind.plan ∧ spec.isCapture = !kind.isInterior := by
  obtain ⟨key, find, capture, aggregate, value, name, splat, stages, children⟩ := spec
  -- The plan goes by the first thing that the node says, and here there is no second one.
  have first : List.head? (kinds _) = some kind := congrArg List.head? h
  cases key with
  | some field =>
      cases first
      exact ⟨rfl, rfl⟩
  | none =>
      cases find with
      | some path =>
          cases first
          exact ⟨rfl, rfl⟩
      | none =>
          cases capture with
          | some path =>
              cases first
              exact ⟨rfl, rfl⟩
          | none =>
              cases aggregate with
              | nil =>
                  cases value with
                  | none => cases first
                  | some column =>
                      cases first
                      exact ⟨rfl, rfl⟩
              | cons path paths =>
                  cases first
                  cases value with
                  | none => exact ⟨rfl, rfl⟩
                  | some column => cases h

theorem ownPlan_of_kinds {spec : NodeSpec} {kind : Kind} (h : spec.kinds = [kind]) :
    spec.ownPlan.role.isInterior = kind.isInterior ∧ spec.ownPlan.role.paths = kind.paths ∧
      spec.ownPlan.label = spec.place kind ∧
      spec.ownPlan.stages = spec.stages.map (StageSpec.read (spec.place kind)) := by
  obtain ⟨key, find, capture, aggregate, value, name, splat, stages, children⟩ := spec
  rw [ownPlan, (kindPlan_of_kinds h).1]
  simp only [foldl_attach]
  cases name <;> cases splat <;> cases kind <;> exact ⟨rfl, rfl, rfl, rfl⟩

/-- Checking the shape of a node finds what is wrong with it. -/
theorem error?_check (spec : NodeSpec) : error? spec.check = spec.shapeFault := by
  have count := spec.length_kinds
  rw [shapeFault]
  split
  next kind h =>
    have capture := (kindPlan_of_kinds h).2
    rw [h, List.length_singleton] at count
    rw [check, ← count, capture]
    cases kind.isInterior <;> cases spec.children <;> rfl
  next h =>
    have unclear : spec.kindCount ≠ 1 := by
      intro once
      rw [once, List.length_eq_one_iff] at count
      obtain ⟨kind, hkind⟩ := count
      exact h kind hkind
    rw [check, if_pos unclear]
    rfl

theorem exists_kind_of_shapeFault {spec : NodeSpec} (h : spec.shapeFault = none) :
    ∃ kind, spec.kinds = [kind] := by
  rw [shapeFault] at h
  split at h
  next kind hkind => exact ⟨kind, hkind⟩
  next => cases h

/-- Reading what a node declares finds what is wrong with it. -/
theorem error?_compileRole {spec : NodeSpec} {kind : Kind} (h : spec.kinds = [kind]) :
    error? (NodePlan.compileRole { spec.ownPlan with children := [] }) = spec.fault := by
  obtain ⟨interior, paths, label, stages⟩ := ownPlan_of_kinds h
  have read := StageSpec.findSome?_read (spec.place kind) spec.stages
  rw [NodePlan.error?_compileRole]
  change (if spec.ownPlan.role.isInterior && !spec.ownPlan.stages.isEmpty then
      some (.composedInterior spec.ownPlan.label)
    else (spec.ownPlan.role.paths.findSome? fun text =>
      (error? (Path.parse text)).map (.path spec.ownPlan.label)).or
        (spec.ownPlan.stages.findSome? error?)) = _
  rw [interior, paths, label, stages, read, List.isEmpty_map, fault, h]
  rfl

mutual

/-- The first pass reports the first wrong shape. -/
theorem error?_toPlan : (spec : NodeSpec) →
    error? spec.toPlan = spec.nodes.findSome? shapeFault
  | ⟨key, find, capture, aggregate, value, name, splat, stages, children⟩ => by
      rw [toPlan, nodes, ← List.singleton_append, List.findSome?_append, List.findSome?_singleton,
        ← error?_toPlans children, ← error?_check]
      apply error?_bind_eq_or
      intro _ _
      cases toPlans children <;> rfl

theorem error?_toPlans : (specs : List NodeSpec) →
    error? (toPlans specs) = (nodesOf specs).findSome? shapeFault
  | [] => rfl
  | spec :: rest => by
      rw [toPlans, nodesOf, List.findSome?_append, ← error?_toPlan spec, ← error?_toPlans rest]
      apply error?_bind_eq_or
      intro plan _
      cases toPlans rest <;> rfl

end

mutual

/-- The second pass reports the first fault. -/
theorem error?_compileBelow : (spec : NodeSpec) → {plan : NodePlan} → (above : List String) →
    spec.toPlan = .ok plan →
      error? (NodePlan.compileBelow above plan) = spec.nodes.findSome? fault
  | ⟨key, find, capture, aggregate, value, name, splat, stages, children⟩, plan, above, h => by
      rw [toPlan] at h
      obtain ⟨_, hcheck, h⟩ := bind_eq_ok_iff.mp h
      -- The first pass let the node through, so it is of one kind.
      have shape := error?_eq_none_iff.mpr ⟨_, hcheck⟩
      obtain ⟨below, hbelow, h⟩ := bind_eq_ok_iff.mp h
      cases h
      rw [error?_check] at shape
      obtain ⟨kind, hkind⟩ := exists_kind_of_shapeFault shape
      rw [NodePlan.error?_compileBelow, nodes, ← List.singleton_append, List.findSome?_append,
        List.findSome?_singleton, ← error?_compileRole hkind,
        ← error?_compileAllBelow children _ hbelow]

theorem error?_compileAllBelow : (specs : List NodeSpec) → {plans : List NodePlan} →
    (above : List String) → toPlans specs = .ok plans →
      error? (NodePlan.compileAllBelow above plans) = (nodesOf specs).findSome? fault
  | [], plans, above, h => by
      cases h
      rfl
  | spec :: rest, plans, above, h => by
      rw [toPlans] at h
      obtain ⟨plan, hplan, h⟩ := bind_eq_ok_iff.mp h
      obtain ⟨others, hothers, h⟩ := bind_eq_ok_iff.mp h
      cases h
      rw [NodePlan.compileAllBelow, nodesOf, List.findSome?_append,
        ← error?_compileBelow spec above hplan, ← error?_compileAllBelow rest above hothers]
      apply error?_bind_eq_or
      intro node _
      cases NodePlan.compileAllBelow above others <;> rfl

end

theorem shapeFault_eq_none_iff {spec : NodeSpec} {kind : Kind} (h : spec.kinds = [kind]) :
    spec.shapeFault = none ↔ (kind.isInterior = false → spec.children = []) := by
  rw [shapeFault, h]
  cases hkind : kind.isInterior <;> cases spec.children <;> simp [hkind]

theorem fault_eq_none_iff {spec : NodeSpec} {kind : Kind} (h : spec.kinds = [kind]) :
    spec.fault = none ↔ (kind.isInterior = true → spec.stages = []) ∧
      (∀ text ∈ kind.paths, ∃ path, Path.parse text = .ok path) ∧
      ∀ source ∈ spec.patterns, ∃ pattern, Pattern.ofSource? source = some pattern := by
  rw [fault, h]
  dsimp only
  split
  next composed =>
    rw [Bool.and_eq_true, Bool.not_eq_true', List.isEmpty_eq_false_iff] at composed
    simp [composed]
  next plain =>
    have stageless : kind.isInterior = true → spec.stages = [] := by
      intro interior
      simpa [interior] using plain
    rw [and_iff_right stageless]
    simp [List.findSome?_eq_none_iff, error?_eq_none_iff, Option.isSome_iff_exists]

/-- A node has nothing wrong with it exactly when it is valid. -/
theorem valid_iff {spec : NodeSpec} :
    spec.Valid ↔ spec.shapeFault = none ∧ spec.fault = none := by
  constructor
  · rintro ⟨kind, only, childless, stageless, paths, patterns⟩
    exact ⟨(shapeFault_eq_none_iff only).mpr childless,
      (fault_eq_none_iff only).mpr ⟨stageless, paths, patterns⟩⟩
  · rintro ⟨shape, sound⟩
    obtain ⟨kind, only⟩ := exists_kind_of_shapeFault shape
    obtain ⟨stageless, paths, patterns⟩ := (fault_eq_none_iff only).mp sound
    exact ⟨kind, only, (shapeFault_eq_none_iff only).mp shape, stageless, paths, patterns⟩

end NodeSpec

namespace ExtractSpec

/-- The plan of the root, before its nodes are added. -/
def rootPlan (spec : ExtractSpec) : NodePlan :=
  match spec.source with
  | some path => NodePlan.root.through path
  | none => NodePlan.root

theorem error?_compileRole (spec : ExtractSpec) :
    error? spec.rootPlan.compileRole = spec.sourceFault := by
  rw [rootPlan, sourceFault, NodePlan.error?_compileRole]
  cases spec.source with
  | none => rfl
  | some text => simp [NodePlan.through, NodePlan.root, PlanRole.paths, NodePlan.label]

/-- The second pass over a tree reports the first fault, that of the path to the data before
those of the nodes. -/
theorem error?_compile_plan {spec : ExtractSpec} {plan : NodePlan} (h : spec.toPlan = .ok plan) :
    error? plan.compile = spec.sourceFault.or (spec.allNodes.findSome? NodeSpec.fault) := by
  rw [toPlan] at h
  obtain ⟨children, hchildren, h⟩ := bind_eq_ok_iff.mp h
  cases h
  change error? (NodePlan.compile { spec.rootPlan with children }) = _
  rw [NodePlan.error?_compile, NodePlan.error?_compileBelow, allNodes,
    ← NodeSpec.error?_compileAllBelow spec.nodes _ hchildren, ← error?_compileRole]
  rw [rootPlan]
  cases spec.source <;> rfl

/-- A declared tree reports the first thing that is wrong with it. -/
theorem error?_compile (spec : ExtractSpec) : error? spec.compile = spec.firstFault := by
  have shapes : error? spec.toPlan = spec.allNodes.findSome? NodeSpec.shapeFault := by
    rw [allNodes, ← NodeSpec.error?_toPlans, toPlan]
    cases NodeSpec.toPlans spec.nodes <;> rfl
  rw [compile, firstFault, ← shapes]
  apply error?_bind_eq_or
  intro plan hplan
  rw [← error?_compile_plan hplan, ← error?_mapError]
  cases plan.compile.mapError JobError.declaration <;> rfl

/-- A declared tree has nothing wrong with it exactly when it is valid. -/
theorem valid_iff {spec : ExtractSpec} : spec.Valid ↔ spec.firstFault = none := by
  have source : spec.sourceFault = none ↔
      ∀ text ∈ spec.source, ∃ path, Path.parse text = .ok path := by
    rw [sourceFault]
    cases spec.source <;> simp [error?_eq_none_iff]
  rw [firstFault, Option.or_eq_none_iff, Option.map_eq_none_iff, Option.or_eq_none_iff, source,
    List.findSome?_eq_none_iff, List.findSome?_eq_none_iff]
  constructor
  · rintro ⟨hsource, hnodes⟩
    refine ⟨?_, hsource, ?_⟩
    · intro node hnode
      exact (NodeSpec.valid_iff.mp (hnodes node hnode)).1
    · intro node hnode
      exact (NodeSpec.valid_iff.mp (hnodes node hnode)).2
  · rintro ⟨shapes, hsource, sound⟩
    refine ⟨hsource, ?_⟩
    intro node hnode
    exact NodeSpec.valid_iff.mpr ⟨shapes node hnode, sound node hnode⟩

end ExtractSpec

/-- A job has an extractor exactly when nothing is wrong with its tree: every node says exactly
once what it is, captures have no nodes below them and no other nodes have stages, and all paths
and patterns can be read. Otherwise it reports the first node of a wrong shape, each node coming
before those below it, whatever is wrong with paths and patterns. If all shapes are right, it
reports the first fault, that of the path to the data before those of the nodes, and within a node
stages where nothing is captured before its paths and these before its patterns. -/
theorem JobSpec.extractor_exact (spec : JobSpec) :
    ((∃ x, spec.extractor = .ok x) ↔ spec.extract.Valid) ∧
      error? spec.extractor = spec.extract.firstFault := by
  have first : error? spec.extractor = spec.extract.firstFault := spec.extract.error?_compile
  refine ⟨?_, first⟩
  rw [← error?_eq_none_iff, first, ExtractSpec.valid_iff]

/-- A shape comes before every path, and the path to the data before those of the nodes. -/
example :
    let bad : NodeSpec := { capture := some "a[", stages := [.scan "("] }
    let job (nodes : List NodeSpec) : JobSpec := { extract := { source := some "<", nodes } }
    let inner : NodeSpec := { value := some "v", children := [bad] }
    error? (job [bad, { key := some "k", children := [bad, inner] }, {}]).extractor =
        some (.captureWithChildren "v") ∧
      error? (job [bad]).extractor =
        some (.declaration (.path "<root>" (.unexpected "<" .finish 1))) := by
  decide +kernel

end TreeTable
