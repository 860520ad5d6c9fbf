import TreeTable.Job.Compilation

/-! # Merge rules declared by calls

Calls declare merge rules in sections. A section opens a rule, and the calls up to the next
section refine it. Only the calls before the first section have no rule to refine, and the first
of them is what such a declaration is refused for. All other declarations are read like the rules
of a job.
-/

namespace TreeTable

namespace JoinCall

/-- Whether a call opens a rule. -/
def opens : JoinCall → Bool
  | merge .. => true
  | on .. => false
  | intoField _ => false

/-- The keys that a call adds to its rule. -/
def matcher? : JoinCall → Option (String × String)
  | merge .. => none
  | on leftKey rightKey => some (leftKey, rightKey)
  | intoField _ => none

/-- The field that a call gives to its rule. -/
def target? : JoinCall → Option String
  | merge .. => none
  | on .. => none
  | intoField field => some field

end JoinCall

/-- A call that opens a rule, with the calls that refine this rule. -/
structure JoinSection where
  left : String
  right : String
  refinements : List JoinCall
  opens_refinements : ∀ call ∈ refinements, call.opens = false

namespace JoinSection

def calls (s : JoinSection) : List JoinCall := .merge s.left s.right :: s.refinements

/-- The rule of a section: all keys in the order of their calls, and the last field. -/
def spec (s : JoinSection) : JoinSpec where
  left := s.left
  right := s.right
  matchers := s.refinements.filterMap JoinCall.matcher?
  target := (s.refinements.filterMap JoinCall.target?).getLast?

/-- Calls are sections up to those before the first rule is opened. -/
theorem exists_calls_eq (calls : List JoinCall) :
    ∃ (stray : List JoinCall) (sections : List JoinSection),
      calls = stray ++ sections.flatMap JoinSection.calls ∧
        ∀ call ∈ stray, call.opens = false := by
  induction calls with
  | nil => exact ⟨[], [], rfl, by simp⟩
  | cons call rest ih =>
      obtain ⟨stray, sections, rfl, hstray⟩ := ih
      cases call with
      | merge left right =>
          exact ⟨[], ⟨left, right, stray, hstray⟩ :: sections, by simp [JoinSection.calls],
            by simp⟩
      | on leftKey rightKey =>
          exact ⟨.on leftKey rightKey :: stray, sections, rfl,
            List.forall_mem_cons.mpr ⟨rfl, hstray⟩⟩
      | intoField field =>
          exact ⟨.intoField field :: stray, sections, rfl,
            List.forall_mem_cons.mpr ⟨rfl, hstray⟩⟩

end JoinSection

namespace JoinBuilder

theorem error_take {builder : JoinBuilder} {error : DeclarationError}
    (h : builder.error = some error) (call : JoinCall) :
    (builder.take call).error = some error := by
  obtain ⟨rules, _⟩ := builder
  cases h
  cases call <;> cases rules <;> rfl

/-- The first error is kept whatever is called after it. -/
theorem error_foldl_take {builder : JoinBuilder} {error : DeclarationError}
    (h : builder.error = some error) (calls : List JoinCall) :
    (calls.foldl take builder).error = some error := by
  induction calls generalizing builder with
  | nil => exact h
  | cons call rest ih => exact ih (error_take h call)

/-- A call that refines nothing is an error. -/
theorem error_take_of_not_opens {call : JoinCall} (h : call.opens = false) :
    (take {} call).error = some (.noOpenRule call.clause) := by
  cases call with
  | merge => cases h
  | on => rfl
  | intoField => rfl

/-- Refinements of an open rule add their keys to it and replace its field. -/
theorem foldl_take_of_not_opens {refinements : List JoinCall}
    (h : ∀ call ∈ refinements, call.opens = false) (rule : JoinSpec) (others : List JoinSpec)
    (error : Option DeclarationError) :
    refinements.foldl take ⟨rule :: others, error⟩ =
      ⟨{ rule with
          matchers := rule.matchers ++ refinements.filterMap JoinCall.matcher?
          target := (refinements.filterMap JoinCall.target?).getLast?.or rule.target } :: others,
        error⟩ := by
  induction refinements generalizing rule with
  | nil => simp
  | cons call rest ih =>
      obtain ⟨hcall, hrest⟩ := List.forall_mem_cons.mp h
      cases call with
      | merge => cases hcall
      | on leftKey rightKey =>
          rw [List.foldl_cons, take, refine, ih hrest]
          simp [JoinCall.matcher?, JoinCall.target?]
      | intoField field =>
          rw [List.foldl_cons, take, refine, ih hrest]
          simp [List.filterMap_cons, JoinCall.matcher?, JoinCall.target?, List.getLast?_cons]

theorem foldl_take_section (s : JoinSection) (rules : List JoinSpec)
    (error : Option DeclarationError) :
    s.calls.foldl take ⟨rules, error⟩ = ⟨s.spec :: rules, error⟩ := by
  rw [JoinSection.calls, List.foldl_cons, take, foldl_take_of_not_opens s.opens_refinements]
  simp [JoinSection.spec]

/-- Sections declare their rules, the last one first. -/
theorem foldl_take_sections (sections : List JoinSection) (rules : List JoinSpec)
    (error : Option DeclarationError) :
    (sections.flatMap JoinSection.calls).foldl take ⟨rules, error⟩ =
      ⟨(sections.map JoinSection.spec).reverse ++ rules, error⟩ := by
  induction sections generalizing rules with
  | nil => rfl
  | cons s rest ih =>
      rw [List.flatMap_cons, List.foldl_append, foldl_take_section, ih]
      simp

end JoinBuilder

theorem JoinSpec.compileAll_eq_mapM (specs : List JoinSpec) :
    compileAll specs = specs.mapM compile := by
  induction specs with
  | nil => rfl
  | cons spec rest ih => rw [compileAll, ih, List.mapM_cons]

namespace JoinCall

/-- Calls before the first rule are refused for the first of them. -/
theorem compile_stray {call : JoinCall} (h : call.opens = false) (calls : List JoinCall) :
    compile (call :: calls) = .error (.noOpenRule call.clause) := by
  have herror := JoinBuilder.error_foldl_take (JoinBuilder.error_take_of_not_opens h) calls
  rw [compile, List.foldl_cons, JoinBuilder.build, herror]

theorem compile_sections (sections : List JoinSection) :
    compile (sections.flatMap JoinSection.calls) =
      JoinSpec.compileAll (sections.map JoinSection.spec) := by
  rw [compile, JoinBuilder.foldl_take_sections, JoinBuilder.build]
  simp

/-- All calls are sections behind stray refinements. A first stray refinement is what the
declaration is refused for. Without one, the rules of the sections are read in order up to the
first that is wrong, and so they are in a job that lists them. -/
theorem compile_eq_mapM_sections (calls : List JoinCall) :
    ∃ (stray : List JoinCall) (sections : List JoinSection),
      calls = stray ++ sections.flatMap JoinSection.calls ∧
      (∀ call ∈ stray, call.opens = false) ∧
      match stray with
      | call :: _ => compile calls = .error (.noOpenRule call.clause)
      | [] =>
          compile calls = sections.mapM (·.spec.compile) ∧
          ∀ extract : ExtractSpec, (compile calls).mapError JobError.declaration =
            (JobSpec.mk (sections.map JoinSection.spec) extract).joinRules := by
  obtain ⟨stray, sections, hcalls, hstray⟩ := JoinSection.exists_calls_eq calls
  refine ⟨stray, sections, hcalls, hstray, ?_⟩
  subst hcalls
  cases stray with
  | cons call others => exact compile_stray (hstray call List.mem_cons_self) _
  | nil =>
      have hread := compile_sections sections
      refine ⟨?_, fun extract => congrArg (Except.mapError _) hread⟩
      rw [List.nil_append, hread, JoinSpec.compileAll_eq_mapM, List.mapM_map]
      rfl

/-- Stray refinements are reported even where a rule is wrong as well. -/
example : compile [.intoField "a", .merge "b[" "c", .on "d" "e"] =
    .error (.noOpenRule "into_field(a)") := rfl

end JoinCall

end TreeTable
