import StepPipeline.Document.Build
import StepPipeline.Proofs.Computations

/-!
# What is built from a document

A pipeline that was built has the steps of its document in order, each made by
`Workbench.makeStep`, and begins with a fresh state but for the context.
-/

namespace StepPipeline

/-- A document passes the check only if no finding about it is an error. -/
theorem Document.no_error_of_check {d : Document} {registry : Registry} {findings : List Finding}
    (h : d.check registry = .ok findings) :
    ∀ finding ∈ d.lint registry, finding.severity ≠ .error := by
  intro finding hfinding herror
  dsimp only [Document.check] at h
  split at h
  · next hnone =>
    have hkept := List.filter_eq_nil_iff.mp (List.isEmpty_iff.mp hnone) finding hfinding
    rw [herror] at hkept
    exact hkept rfl
  · cases h

namespace Workbench

variable {b : Workbench}

/-- What a build that succeeds has done, in order; later proofs use this and never open `build`. -/
theorem build_eq_ok {d : Document} {p : Pipeline} (h : b.build d = .ok p) :
    (∃ findings, d.check b.registry = .ok findings) ∧ d.pipeline.mapM b.makeStep = .ok p.steps ∧
      p.state = { context := b.initialContext d } := by
  obtain ⟨findings, hcheck, h⟩ := Except.bind_eq_ok h
  obtain ⟨steps, hsteps, h⟩ := Except.bind_eq_ok h
  obtain rfl := Except.ok.inj h
  exact ⟨⟨findings, hcheck⟩, hsteps, rfl⟩

/-- Whether a document can be built, and its steps, do not depend on the context. -/
theorem build_withContext (b : Workbench) (d : Document) (context : Record) :
    b.build { d with context := context } = (b.build d).map fun p =>
      ⟨p.steps, { context := .ofRecord (b.environment.expandFields context) d.testInfo? }⟩ := by
  have hcheck : Document.check { d with context := context } b.registry = d.check b.registry := rfl
  rw [build, build, hcheck]
  cases d.check b.registry with
  | error f => rfl
  | ok findings => cases d.pipeline.mapM b.makeStep <;> rfl

/-- A step has what its description says, and the block that the registry made for it. -/
theorem makeStep_eq_ok {spec : StepDescription} {step : Step} (h : b.makeStep spec = .ok step) :
    b.registry.create spec.block (spec.configFields?.getD []) = .ok step.block ∧
      step.id = spec.effectiveId ∧ step.input = spec.input ∧ step.output = spec.output ∧
      step.config = spec.configFields? := by
  obtain ⟨block, hblock, h⟩ := Except.bind_eq_ok h
  obtain rfl := Except.ok.inj h
  exact ⟨hblock, rfl, rfl, rfl, rfl⟩

/-- The step at a position of a built pipeline is made of the description at that position. -/
theorem makeStep_of_build {d : Document} {p : Pipeline} (h : b.build d = .ok p) {i : Nat}
    {step : Step} (hstep : p.steps[i]? = some step) :
    ∃ spec, d.pipeline[i]? = some spec ∧ b.makeStep spec = .ok step := by
  rcases List.getElem?_of_mapM_eq_ok (build_eq_ok h).2.1 i with ⟨x, y, hx, hy, hmade⟩ | ⟨-, hnone⟩
  · obtain rfl := Option.some.inj (hstep.symm.trans hy)
    exact ⟨x, hx, hmade⟩
  · rw [hstep] at hnone
    cases hnone

/-- The description at a position is made the step at that position. -/
theorem exists_step_of_build {d : Document} {p : Pipeline} (h : b.build d = .ok p) {i : Nat}
    {spec : StepDescription} (hspec : d.pipeline[i]? = some spec) :
    ∃ step, p.steps[i]? = some step ∧ b.makeStep spec = .ok step := by
  rcases List.getElem?_of_mapM_eq_ok (build_eq_ok h).2.1 i with ⟨x, y, hx, hy, hmade⟩ | ⟨hnone, -⟩
  · obtain rfl := Option.some.inj (hspec.symm.trans hx)
    exact ⟨y, hy, hmade⟩
  · rw [hspec] at hnone
    cases hnone

/-- The steps have the ids of their descriptions, in the same order. -/
theorem ids_of_build {d : Document} {p : Pipeline} (h : b.build d = .ok p) :
    p.steps.map Step.id = d.pipeline.map StepDescription.effectiveId := by
  apply List.ext_getElem?
  intro i
  rw [List.getElem?_map, List.getElem?_map]
  rcases List.getElem?_of_mapM_eq_ok (build_eq_ok h).2.1 i with ⟨x, y, hx, hy, hmade⟩ | ⟨hx, hy⟩
  · rw [hx, hy, Option.map_some, Option.map_some, (makeStep_eq_ok hmade).2.1]
  · rw [hx, hy, Option.map_none, Option.map_none]

end Workbench
end StepPipeline
