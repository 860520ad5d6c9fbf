import TreeTable.Job.Compilation
import TreeTable.Proofs.Extract.Congruence

/-! # Compiled trees hold paths that were read

Every path in the tree of an extractor that was declared, in code or in a job, is what some text
reads as.
-/

namespace TreeTable

open Outcome

/-- Whether a path is what some text reads as. -/
def Path.IsRead (path : Path) : Prop := ∃ text, parse text = .ok path

theorem Path.isRead_of_declared {node text : String} {path : Path}
    (h : declared node text = .ok path) : path.IsRead := ⟨text, mapError_eq_ok_iff.mp h⟩

namespace NodePlan

theorem isRead_of_readPaths {node : String} {texts : List String} {paths : List Path}
    (h : readPaths node texts = .ok paths) : ∀ path ∈ paths, path.IsRead := by
  induction texts generalizing paths with
  | nil =>
      cases h
      nofun
  | cons text rest ih =>
      rw [readPaths, bind_eq_ok_iff] at h
      obtain ⟨path, hpath, h⟩ := h
      obtain ⟨others, hothers, h⟩ := bind_eq_ok_iff.mp h
      cases h
      rw [List.forall_mem_cons]
      exact ⟨Path.isRead_of_declared hpath, ih hothers⟩

theorem isRead_of_compileRole {plan : NodePlan} {role : Role}
    (h : plan.compileRole = .ok role) : ∀ path ∈ role.paths, path.IsRead := by
  rw [compileRole] at h
  split at h
  next reach _ =>
    dsimp only at h
    split at h
    next => cases h
    next =>
      cases reach with
      | here =>
          cases h
          nofun
      | key name =>
          cases h
          nofun
      | find text =>
          obtain ⟨path, hpath, h⟩ := bind_eq_ok_iff.mp h
          cases h
          rw [Role.paths, List.forall_mem_singleton]
          exact Path.isRead_of_declared hpath
  next texts _ _ =>
    obtain ⟨paths, hpaths, h⟩ := bind_eq_ok_iff.mp h
    obtain ⟨stages, -, h⟩ := bind_eq_ok_iff.mp h
    cases h
    exact isRead_of_readPaths hpaths

mutual

theorem isRead_of_compileBelow : (plan : NodePlan) → {above : List String} →
    {node : ExtractNode} → compileBelow above plan = .ok node →
      ∀ path ∈ node.paths, path.IsRead
  | ⟨segment, role, splat, stages, children⟩, above, node, h => by
      rw [compileBelow, bind_eq_ok_iff] at h
      obtain ⟨compiled, hcompiled, h⟩ := h
      obtain ⟨below, hbelow, h⟩ := bind_eq_ok_iff.mp h
      cases h
      rw [ExtractNode.paths, List.forall_mem_append]
      exact ⟨isRead_of_compileRole hcompiled, isRead_of_compileAllBelow children hbelow⟩

theorem isRead_of_compileAllBelow : (plans : List NodePlan) → {above : List String} →
    {nodes : List ExtractNode} → compileAllBelow above plans = .ok nodes →
      ∀ path ∈ ExtractNode.pathsOf nodes, path.IsRead
  | [], above, nodes, h => by
      rw [compileAllBelow] at h
      cases h
      nofun
  | plan :: rest, above, nodes, h => by
      rw [compileAllBelow, bind_eq_ok_iff] at h
      obtain ⟨node, hnode, h⟩ := h
      obtain ⟨others, hothers, h⟩ := bind_eq_ok_iff.mp h
      cases h
      rw [ExtractNode.pathsOf, List.forall_mem_append]
      exact ⟨isRead_of_compileBelow plan hnode, isRead_of_compileAllBelow rest hothers⟩

end

end NodePlan

/-- What is declared to stay at the document stays there. -/
theorem NodePlan.root_role_of_compile {plan : NodePlan} {x : Extractor}
    (h : plan.compile = .ok x) (stays : plan.role = .interior .here) :
    x.root.role = .interior .here := by
  obtain ⟨segment, role, splat, stages, children⟩ := plan
  obtain rfl : role = .interior .here := stays
  rw [compile, compileBelow, compileRole] at h
  obtain ⟨root, hroot, h⟩ := bind_eq_ok_iff.mp h
  cases h
  obtain ⟨compiled, hcompiled, h⟩ := bind_eq_ok_iff.mp hroot
  obtain ⟨below, -, h⟩ := bind_eq_ok_iff.mp h
  cases h
  dsimp only at hcompiled
  split at hcompiled
  next => cases hcompiled
  next =>
    cases hcompiled
    rfl

/-- A job that names no path for its data takes it from the document. -/
theorem JobSpec.root_role_of_extractor {spec : JobSpec} {x : Extractor}
    (h : spec.extractor = .ok x) (unnamed : spec.extract.source = none) :
    x.root.role = .interior .here := by
  rw [extractor, ExtractSpec.compile, ExtractSpec.toPlan, unnamed] at h
  obtain ⟨plan, hplan, h⟩ := bind_eq_ok_iff.mp h
  obtain ⟨children, -, hplan⟩ := bind_eq_ok_iff.mp hplan
  cases hplan
  obtain ⟨y, hy, h⟩ := bind_eq_ok_iff.mp h
  cases h
  have role := NodePlan.root_role_of_compile (mapError_eq_ok_iff.mp hy) rfl
  exact role

/-- Extractors that are compiled from a declaration: in code, with a header that may be fixed
afterwards, or in a job. -/
inductive Extractor.Declared : Extractor → Prop where
  | code {plan : NodePlan} {x : Extractor} (h : plan.compile = .ok x)
      (header : Option (List String)) : Declared { x with header }
  | job {spec : JobSpec} {x : Extractor} (h : spec.extractor = .ok x) : Declared x

end TreeTable
