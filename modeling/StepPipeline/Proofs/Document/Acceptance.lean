import StepPipeline.Blocks.Standard
import StepPipeline.Proofs.Document.Building
import StepPipeline.Proofs.Store.Names

/-!
# Which documents are built, and into what

Building checks a document and then makes its blocks. With the standard blocks each of the two can
fail in one way only: the check reports an error, or an `http_request` is given a `timeout` that is
no number. That a type is unknown never comes up while blocks are made, since the check reports it
before (`has_of_no_error`).

What is built has one step for each description, with what that says and nothing else, and begins
with the context of the document. Main statement: `build_outcome`.
-/

namespace StepPipeline

/-! ## The check -/

namespace Document

variable {d : Document} {registry : Registry}

/-- Only errors keep a document from being built; warnings do not. -/
theorem exists_check_iff : (∃ findings, d.check registry = .ok findings) ↔
    ∀ finding ∈ d.lint registry, finding.severity ≠ .error := by
  constructor
  · rintro ⟨findings, h⟩
    exact no_error_of_check h
  · intro h
    have hnone : (d.lint registry).filter (fun f => f.severity == .error) = [] := by
      apply List.filter_eq_nil_iff.mpr
      intro finding hfinding
      simpa using h finding hfinding
    exact ⟨d.lint registry, by rw [check, hnone]; rfl⟩

theorem check_eq_error {f : Fault} (h : d.check registry = .error f) :
    ∃ reason, f = .invalidPipeline reason := by
  dsimp only [check] at h
  split at h
  · cases h
  · exact ⟨_, (Except.error.inj h).symm⟩

/-- Where the check reports no error, every type is registered. -/
theorem has_of_no_error (h : ∀ finding ∈ d.lint registry, finding.severity ≠ .error) :
    ∀ spec ∈ d.pipeline, registry.has spec.block = true := by
  intro spec hspec
  cases hhas : registry.has spec.block with
  | true => rfl
  | false =>
      obtain ⟨i, hi⟩ := List.mem_iff_getElem?.mp hspec
      have hmem : Lint.unknownBlock registry spec i ∈ Lint.knownBlockType d registry := by
        refine List.mem_map.mpr ⟨(spec, i), List.mem_filter.mpr ⟨?_, ?_⟩, rfl⟩
        · exact List.mem_zipIdx_iff_getElem?.mpr hi
        · simp [hhas]
      refine absurd rfl (h (Lint.unknownBlock registry spec i) ?_)
      simp only [lint, List.mem_append]
      exact .inl (.inl (.inl (.inr hmem)))

end Document

/-! ## Building from any registry -/

namespace Workbench

variable {b : Workbench} {d : Document} {spec : StepDescription}

/-- The one thing of a step that can fail is the making of its block. -/
theorem exists_makeStep_iff : (∃ step, b.makeStep spec = .ok step) ↔
    ∃ block, b.registry.create spec.block (spec.configFields?.getD []) = .ok block := by
  constructor
  · rintro ⟨step, h⟩
    exact ⟨step.block, (makeStep_eq_ok h).1⟩
  · rintro ⟨block, h⟩
    exact ⟨_, by rw [makeStep, h]; rfl⟩

theorem makeStep_eq_error {f : Fault} (h : b.makeStep spec = .error f) :
    b.registry.create spec.block (spec.configFields?.getD []) = .error f := by
  rcases Except.bind_eq_error h with hcreate | ⟨block, -, h⟩
  · exact hcreate
  · cases h

/-- First the check of the whole document, then the steps. -/
theorem exists_build_iff : (∃ p, b.build d = .ok p) ↔
    (∀ finding ∈ d.lint b.registry, finding.severity ≠ .error) ∧
      ∀ spec ∈ d.pipeline, ∃ step, b.makeStep spec = .ok step := by
  rw [← Document.exists_check_iff, ← List.exists_mapM_eq_ok_iff]
  constructor
  · rintro ⟨p, h⟩
    exact ⟨(build_eq_ok h).1, p.steps, (build_eq_ok h).2.1⟩
  · rintro ⟨⟨findings, hcheck⟩, steps, hsteps⟩
    refine ⟨⟨steps, { context := b.initialContext d }⟩, ?_⟩
    rw [build, hcheck]
    show d.pipeline.mapM b.makeStep >>= _ = _
    rw [hsteps]
    rfl

/-- Building fails with the check, or behind it with one of the steps. -/
theorem build_eq_error {f : Fault} (h : b.build d = .error f) :
    d.check b.registry = .error f ∨
      (∀ finding ∈ d.lint b.registry, finding.severity ≠ .error) ∧
        ∃ spec ∈ d.pipeline, b.makeStep spec = .error f := by
  rcases Except.bind_eq_error h with hcheck | ⟨findings, hcheck, h⟩
  · exact .inl hcheck
  · rcases Except.bind_eq_error h with hsteps | ⟨steps, -, h⟩
    · exact .inr ⟨Document.no_error_of_check hcheck, List.exists_mem_of_mapM_eq_error hsteps⟩
    · cases h

end Workbench

/-! ## The standard blocks -/

section

variable {transport : Http.Transport} {type : String} {config : Record} {f : Fault} {block : Block}

namespace Blocks

/-- The only `config` that a standard block can refuse. -/
theorem exists_makeHttpRequest_iff : (∃ block, makeHttpRequest transport config = .ok block) ↔
    ∀ timeout, Table.find? config "timeout" = some timeout → ∃ ms, timeout.count? = some ms := by
  unfold makeHttpRequest
  split
  · next hnone => exact iff_of_true ⟨_, rfl⟩ fun timeout h => by rw [hnone] at h; cases h
  · -- With a timeout, that one has to be readable.
    next timeout hfound =>
    cases hcount : timeout.count? with
    | some ms =>
        refine iff_of_true ⟨_, rfl⟩ fun other hother => ⟨ms, ?_⟩
        obtain rfl := Option.some.inj (hfound.symm.trans hother)
        exact hcount
    | none =>
        refine iff_of_false nofun fun h => ?_
        obtain ⟨ms, hms⟩ := h timeout hfound
        rw [hcount] at hms
        cases hms

theorem type_of_makeHttpRequest (h : makeHttpRequest transport config = .ok block) :
    block.type = Http.blockType := by
  unfold makeHttpRequest at h
  split at h
  · obtain rfl := Except.ok.inj h
    rfl
  · split at h
    · obtain rfl := Except.ok.inj h
      rfl
    · cases h

theorem makeHttpRequest_eq_error (h : makeHttpRequest transport config = .error f) :
    ∃ reason, f = .invalidPipeline reason := by
  unfold makeHttpRequest at h
  split at h
  · cases h
  · split at h
    · cases h
    · exact ⟨_, (Except.error.inj h).symm⟩

end Blocks

namespace Registry

/-- Only the maker of requests looks at the `config`; the others have one block of their type. -/
theorem standard_cases (h : (standardWith transport).has type = true) :
    type = Http.blockType ∧
      (standardWith transport).create type = Blocks.makeHttpRequest transport ∨
    type ≠ Http.blockType ∧ ∃ block : Block, block.type = type ∧
      (standardWith transport).create type = fun _ => .ok block := by
  obtain ⟨make, hmake⟩ := Option.isSome_iff_exists.mp h
  have hmem := Table.mem_of_find? hmake
  simp only [standardWith, List.mem_cons, List.not_mem_nil, or_false, Prod.mk.injEq] at hmem
  rcases hmem with ⟨rfl, -⟩ | ⟨rfl, -⟩ | ⟨rfl, -⟩ | ⟨rfl, -⟩ | ⟨rfl, -⟩ | ⟨rfl, -⟩ | ⟨rfl, -⟩
  case inr.inr.inl => exact .inl ⟨rfl, rfl⟩
  all_goals exact .inr ⟨by decide, _, rfl, rfl⟩

/-- For a registered type the blocks differ in what they ask of the `config`. -/
theorem exists_create_iff (h : (standardWith transport).has type = true) :
    (∃ block, (standardWith transport).create type config = .ok block) ↔
      (type = Http.blockType → ∀ timeout, Table.find? config "timeout" = some timeout →
        ∃ ms, timeout.count? = some ms) := by
  rcases standard_cases h with ⟨rfl, hcreate⟩ | ⟨hother, block, -, hcreate⟩
  · rw [hcreate, Blocks.exists_makeHttpRequest_iff]
    exact ⟨fun h _ => h, fun h => h rfl⟩
  · rw [hcreate]
    exact iff_of_true ⟨block, rfl⟩ fun htype => absurd htype hother

theorem create_eq_error (h : (standardWith transport).has type = true)
    (hfails : (standardWith transport).create type config = .error f) :
    ∃ reason, f = .invalidPipeline reason := by
  rcases standard_cases h with ⟨-, hcreate⟩ | ⟨-, block, -, hcreate⟩
  · rw [hcreate] at hfails
    exact Blocks.makeHttpRequest_eq_error hfails
  · rw [hcreate] at hfails
    cases hfails

/-- A block that is made has the type under which it is registered. -/
theorem type_of_create (h : (standardWith transport).has type = true)
    (hmade : (standardWith transport).create type config = .ok block) : block.type = type := by
  rcases standard_cases h with ⟨rfl, hcreate⟩ | ⟨-, made, htype, hcreate⟩
  · rw [hcreate] at hmade
    exact Blocks.type_of_makeHttpRequest hmade
  · rw [hcreate] at hmade
    obtain rfl := Except.ok.inj hmade
    exact htype

end Registry

end

/-! ## Building with the standard blocks -/

/-- If the step makes requests and its `config` is a record with a `timeout`, that is a number or
the text of one. -/
def StepDescription.TimeoutReadable (spec : StepDescription) : Prop :=
  spec.block = "http_request" → ∀ fields timeout, spec.config = some (.obj fields) →
    Table.find? fields "timeout" = some timeout → ∃ ms, timeout.count? = some ms

/-- The step has what the description says: its id or else the type of its block, its inputs and
its output, and its `config` if that is a record. -/
structure Step.Realizes (step : Step) (spec : StepDescription) : Prop where
  type : step.block.type = spec.block
  id : step.id = match spec.id with
    | some id => id
    | none => spec.block
  input : step.input = spec.input
  output : step.output = spec.output
  config : step.config = match spec.config with
    | some (.obj fields) => some fields
    | _ => none

/-- The context has the values of the document, expanded, no counters, and the test that the
document tells about, if it tells anything. -/
structure Context.BeginsWith (c : Context) (env : Environment) (d : Document) : Prop where
  values : Json.obj c.values = env.expand (.obj d.context)
  counts : c.jumpCounts = []
  test_eq_none_iff : c.test = none ↔ d.name = none ∧ d.version = none ∧ d.input = none ∧
    d.output = none ∧ d.assertions = []
  test : ∀ t, c.test = some t →
    t = ⟨d.name, d.version.map Json.toText, d.input, d.output, d.assertions⟩

/-- A `config` that is no record counts as an empty one, which sets no timeout. -/
theorem StepDescription.timeoutReadable_iff {spec : StepDescription} : spec.TimeoutReadable ↔
    (spec.block = Http.blockType →
      ∀ timeout, Table.find? (spec.configFields?.getD []) "timeout" = some timeout →
        ∃ ms, timeout.count? = some ms) := by
  refine imp_congr_right fun _ => ?_
  unfold configFields?
  cases spec.config with
  | none => exact iff_of_true nofun nofun
  | some v =>
      cases v with
      | obj fields =>
          constructor
          · intro h timeout hfound
            exact h fields timeout rfl hfound
          · rintro h other timeout hother hfound
            cases hother
            exact h timeout hfound
      | null | bool _ | num _ | str _ | arr _ => exact iff_of_true nofun nofun

theorem Workbench.realizes_of_makeStep {transport : Http.Transport} {env : Environment}
    {spec : StepDescription} {step : Step}
    (hhas : (Registry.standardWith transport).has spec.block = true)
    (h : Workbench.makeStep ⟨.standardWith transport, env⟩ spec = .ok step) :
    step.Realizes spec := by
  obtain ⟨hblock, hid, hinput, houtput, hconfig⟩ := makeStep_eq_ok h
  refine ⟨Registry.type_of_create hhas hblock, ?_, hinput, houtput, ?_⟩
  · rw [hid, StepDescription.effectiveId]
    cases spec.id <;> rfl
  · rw [hconfig, StepDescription.configFields?]
    cases spec.config with
    | none => rfl
    | some v => cases v <;> rfl

theorem Workbench.beginsWith_initialContext (b : Workbench) (d : Document) :
    (b.initialContext d).BeginsWith b.environment d := by
  refine ⟨?_, rfl, ?_, ?_⟩
  · rw [Environment.expand]
    rfl
  · show d.testInfo? = none ↔ _
    simp [Document.testInfo?, TestInfo.isBlank, and_assoc]
  · intro t ht
    replace ht : d.testInfo? = some t := ht
    dsimp only [Document.testInfo?] at ht
    split at ht
    · cases ht
    · exact (Option.some.inj ht).symm

/-- **Which documents are built.** With the standard blocks a document is built exactly if its check
reports no error and no `http_request` is given a `timeout` in its `config` that is no number. That
a pipeline is invalid is the only fault. What is built has one step for each description, in the
same order and with what the description says, and begins with the context of the document. -/
theorem build_outcome (transport : Http.Transport) (env : Environment) (d : Document) :
    let b : Workbench := ⟨.standardWith transport, env⟩
    ((∃ p, b.build d = .ok p) ↔
      (∀ finding ∈ d.lint b.registry, finding.severity ≠ .error) ∧
        ∀ spec ∈ d.pipeline, spec.TimeoutReadable) ∧
    (∀ f, b.build d = .error f → ∃ reason, f = .invalidPipeline reason) ∧
    ∀ p : Pipeline, b.build d = .ok p →
      p.steps.length = d.pipeline.length ∧
      (∀ (i : Nat) (spec : StepDescription), d.pipeline[i]? = some spec →
        ∃ step : Step, p.steps[i]? = some step ∧ step.Realizes spec) ∧
      p.state.context.BeginsWith env d := by
  intro b
  refine ⟨?_, ?_, ?_⟩
  · -- Behind a check without errors every type is known, so what is left is the timeout.
    rw [Workbench.exists_build_iff]
    refine and_congr_right fun hnone => forall₂_congr fun spec hspec => ?_
    rw [Workbench.exists_makeStep_iff, StepDescription.timeoutReadable_iff]
    exact Registry.exists_create_iff (Document.has_of_no_error hnone spec hspec)
  · intro f hf
    rcases Workbench.build_eq_error hf with hcheck | ⟨hnone, spec, hspec, hmake⟩
    · exact Document.check_eq_error hcheck
    · exact Registry.create_eq_error (Document.has_of_no_error hnone spec hspec)
        (Workbench.makeStep_eq_error hmake)
  · intro p hp
    obtain ⟨⟨findings, hcheck⟩, hsteps, hstate⟩ := Workbench.build_eq_ok hp
    have hnone := Document.no_error_of_check hcheck
    refine ⟨?_, ?_, ?_⟩
    · simpa using congrArg List.length (Workbench.ids_of_build hp)
    · intro i spec hspec
      obtain ⟨step, hstep, hmade⟩ := Workbench.exists_step_of_build hp hspec
      have hhas := Document.has_of_no_error hnone spec (List.mem_of_getElem? hspec)
      exact ⟨step, hstep, Workbench.realizes_of_makeStep hhas hmade⟩
    · rw [hstate]
      exact b.beginsWith_initialContext d

def timedRequest (timeout : Json) : Document where
  pipeline := [{ block := "http_request", config := some (.obj [("timeout", timeout)]) }]

/-- The text of a number will do, and `null` will not. -/
theorem timedRequest_outcome :
    let b : Workbench := ⟨.standardWith .offline, fun _ => none⟩
    (∃ p, b.build (timedRequest (.str " 250 ")) = .ok p) ∧
    ∃ reason, b.build (timedRequest .null) = .error (.invalidPipeline reason) := by
  intro b
  have hlint : (timedRequest (.str " 250 ")).lint (.standardWith .offline) = [] := rfl
  constructor
  · apply (build_outcome .offline _ _).1.mpr
    constructor
    · intro finding hfinding
      rw [hlint] at hfinding
      cases hfinding
    · intro spec hspec _ fields timeout hconfig hfound
      obtain rfl := List.mem_singleton.mp hspec
      cases hconfig
      obtain rfl : Json.str " 250 " = timeout := Option.some.inj hfound
      exact ⟨250, by decide +kernel⟩
  · have hnot : ¬∃ p, b.build (timedRequest .null) = .ok p := by
      rw [(build_outcome .offline _ _).1]
      rintro ⟨-, hreadable⟩
      obtain ⟨ms, hms⟩ := hreadable _ List.mem_cons_self rfl _ .null rfl rfl
      cases hms
    cases hresult : b.build (timedRequest .null) with
    | ok p => exact absurd ⟨p, hresult⟩ hnot
    | error f =>
        obtain ⟨reason, rfl⟩ := (build_outcome .offline _ _).2.1 f hresult
        exact ⟨reason, rfl⟩

end StepPipeline
