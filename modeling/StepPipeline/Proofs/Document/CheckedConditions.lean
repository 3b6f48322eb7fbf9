import StepPipeline.Proofs.Condition.Checking
import StepPipeline.Proofs.Document.FixedFields

/-!
# Conditions in a document

The conditions in the `config` of a step are received as they are written, so what a check of the
document says about them is true of every run. A document about which it says nothing has
well-formed conditions there, and one with a finding about them is not built
(`conditionSyntax_of_build`). Main statement: `checked_conditions`.
-/

namespace StepPipeline

variable {b : Workbench} {d : Document} {p : Pipeline} {i : Nat} {spec : StepDescription}
  {conditions : Json}

namespace Lint

/-- Conditions that may hold a placeholder are left to the run. -/
theorem stepProblems_of_config (hconditions : spec.configField? "conditions" = some conditions)
    (hplain : conditions.mayHoldPlaceholder = false) :
    stepProblems spec = conditionProblems conditions := by
  rw [stepProblems, StepDescription.fixedField?_of_config hconditions]
  simp only [hplain, Bool.false_eq_true, if_false]

/-- There is a finding about a step if there is a problem with its conditions. -/
theorem exists_conditionSyntax_iff (hspec : d.pipeline[i]? = some spec) :
    (∃ finding ∈ conditionSyntax d, finding.stepIndex = some i) ↔ stepProblems spec ≠ [] := by
  constructor
  · rintro ⟨finding, hfinding, hindex⟩
    obtain ⟨⟨step, j⟩, hstep, hfinding⟩ := List.mem_flatMap.mp hfinding
    obtain ⟨problem, hproblem, rfl⟩ := List.mem_map.mp hfinding
    obtain rfl : j = i := Option.some.inj hindex
    obtain rfl := Option.some.inj (hspec.symm.trans (List.mem_zipIdx_iff_getElem?.mp hstep))
    exact List.ne_nil_of_mem hproblem
  · intro h
    obtain ⟨problem, hproblem⟩ := List.exists_mem_of_ne_nil _ h
    refine ⟨badCondition spec i problem, ?_, rfl⟩
    refine List.mem_flatMap.mpr ⟨(spec, i), List.mem_zipIdx_iff_getElem?.mpr hspec, ?_⟩
    exact List.mem_map.mpr ⟨problem, hproblem, rfl⟩

/-- There is no finding about a step exactly if its conditions are well-formed. -/
theorem no_conditionSyntax_iff (hspec : d.pipeline[i]? = some spec)
    (hconditions : spec.configField? "conditions" = some conditions)
    (hplain : conditions.mayHoldPlaceholder = false) :
    (∀ finding ∈ conditionSyntax d, finding.stepIndex ≠ some i) ↔
      Condition.WellFormed conditions := by
  rw [← Condition.conditionProblems_eq_nil_iff, ← stepProblems_of_config hconditions hplain]
  have hexists := not_congr (exists_conditionSyntax_iff hspec)
  simpa using hexists

/-- Findings about conditions are errors, so a document that is built has none. -/
theorem conditionSyntax_of_build (h : b.build d = .ok p) : conditionSyntax d = [] := by
  obtain ⟨⟨findings, hcheck⟩, -, -⟩ := Workbench.build_eq_ok h
  refine List.eq_nil_iff_forall_not_mem.mpr fun finding hfinding => ?_
  obtain ⟨e, -, hproblem⟩ := List.mem_flatMap.mp hfinding
  obtain ⟨problem, -, rfl⟩ := List.mem_map.mp hproblem
  exact Document.no_error_of_check hcheck _ (List.mem_append_right _ hfinding) rfl

end Lint

/-- **What the check of conditions promises.** Let conditions be given in the `config` of a step,
and not as a text with a placeholder. If the check finds nothing about the step, evaluating them on
any data can only fail for a pattern in them that cannot be read, by themselves and in every block
that evaluates conditions, which may also miss another input. In every run of what is built of the
document this holds of the step, whose block is not called if an input is missing. If the check
finds something about the step, an assertion with these conditions is a fault, whatever its other
inputs are. -/
theorem checked_conditions (hspec : d.pipeline[i]? = some spec)
    (hconditions : spec.configField? "conditions" = some conditions)
    (hplain : conditions.mayHoldPlaceholder = false) :
    ((∀ finding ∈ Lint.conditionSyntax d, finding.stepIndex ≠ some i) →
      (∀ data f, Condition.listHolds data conditions = .error f →
        Condition.BadPatternIn conditions f) ∧
      ∀ block ∈ Blocks.judging, ∀ calls inputs context f,
        Table.find? inputs "conditions" = some conditions →
        (block.process calls inputs context).result = .error f →
        Condition.BadPatternIn conditions f ∨
          ∃ name ∈ block.inputs.missing inputs, f = .missingInputs block.type [name]) ∧
    (∀ b p, Workbench.build b d = .ok p → d.NamesOnce →
      (∀ finding ∈ Lint.conditionSyntax d, finding.stepIndex ≠ some i) ∧
      ∀ (earlier : List Call) (c : Call),
      ∀ v ∈ (p.callAll earlier).visits c.moves c.input c.initial, v.index = i →
        v.step.block ∈ Blocks.judging → ∀ f, v.outcome = .fault f →
        Condition.BadPatternIn conditions f ∨
          "conditions" ∉ v.step.block.inputs.missing v.inputs ∧
          v.step.block.inputs.missing v.inputs ≠ [] ∧
          f = .missingInputs v.step.id (v.step.block.inputs.missing v.inputs)) ∧
    ((∃ finding ∈ Lint.conditionSyntax d, finding.stepIndex = some i) →
      ∀ calls inputs context, Table.find? inputs "conditions" = some conditions →
        ∃ f, (Blocks.assertion.process calls inputs context).result = .error f) := by
  have hwell := Lint.no_conditionSyntax_iff hspec hconditions hplain
  refine ⟨fun hnone => ?_, fun b p hbuild hnames => ?_, ?_⟩
  · refine ⟨fun data f hf => Condition.badPatternIn_of_listHolds (hwell.mp hnone) hf, ?_⟩
    intro block hblock calls inputs context f hfound hf
    exact Blocks.badPattern_or_missing (hwell.mp hnone) hblock hfound hf
  · have hnone : ∀ finding ∈ Lint.conditionSyntax d, finding.stepIndex ≠ some i := by
      rw [Lint.conditionSyntax_of_build hbuild]
      exact fun finding hfinding => absurd hfinding List.not_mem_nil
    refine ⟨hnone, fun earlier c v hv hindex hblock f hf => ?_⟩
    -- The conditions are received, so only other inputs can be missing.
    have hstep := Pipeline.getElem?_steps_of_mem_visits hv
    rw [Pipeline.steps_callAll, hindex] at hstep
    obtain ⟨made, hmade, hstep⟩ := Workbench.makeStep_of_build hbuild hstep
    obtain rfl := Option.some.inj (hspec.symm.trans hmade)
    have honce : spec.NamesOnce := hnames spec (List.mem_of_getElem? hspec)
    have hreceived : Table.find? v.inputs "conditions" = some conditions :=
      find?_gather_of_config hstep honce hconditions v.before.scope
    rcases v.answer_of_fault hf with ⟨hmissing, rfl⟩ | ⟨hcomplete, hanswer⟩
    · refine .inr ⟨fun hmem => ?_, hmissing, rfl⟩
      obtain ⟨-, habsent⟩ := InputNames.mem_missing_iff.mp hmem
      rw [hreceived] at habsent
      cases habsent
    · rcases Blocks.badPattern_or_missing (hwell.mp hnone) hblock hreceived hanswer with
        hpattern | ⟨name, hname, -⟩
      · exact .inl hpattern
      · rw [hcomplete] at hname
        cases hname
  · rintro ⟨finding, hfinding, hindex⟩ calls inputs context hfound
    cases hresult : (Blocks.assertion.process calls inputs context).result with
    | error f => exact ⟨f, rfl⟩
    | ok output =>
        -- An answer would mean that the conditions are well-formed, and then nothing is found.
        exact absurd hindex (hwell.mpr (Blocks.wellFormed_of_process hfound hresult) _ hfinding)

def textAssertion (conditions : Json) : StepDescription where
  block := "assert"
  config := some (.obj [("conditions", conditions), ("data", .str "x")])

def assertingText (conditions : Json) : Document where
  pipeline := [textAssertion conditions]

theorem getElem?_assertingText (conditions : Json) :
    (assertingText conditions).pipeline[0]? = some (textAssertion conditions) := rfl

theorem configField?_textAssertion (conditions : Json) :
    (textAssertion conditions).configField? "conditions" = some conditions := rfl

theorem namesOnce_assertingText (conditions : Json) : (assertingText conditions).NamesOnce := by
  intro spec hspec
  obtain rfl := List.mem_singleton.mp hspec
  constructor <;> intro fields h
  · obtain rfl := Option.some.inj h
    show ["conditions", "data"].Nodup
    decide
  · cases h

def builtAssertion (conditions : Json) : Step where
  id := "assert"
  block := Blocks.assertion
  config := (textAssertion conditions).configFields?

def builtAssertingText (conditions : Json) : Pipeline where
  steps := [builtAssertion conditions]

def assertionVisit (conditions : Json) : Visit :=
  ⟨(builtAssertingText conditions).start [] [], 0, builtAssertion conditions⟩

/-- A condition with a pattern that cannot be read. -/
def openPattern : Json := .arr [.arr [.str "", .str "matches", .str "("]]

/-- A condition with an operator that is unknown, behind one that does not hold. -/
def strangeOperator : Json := .arr [.arr [.str "", .str "isNull"], .arr [.str "", .str "resembles"]]

/-- A pattern that cannot be read passes the check and is a fault of the run, an unknown operator
does not pass and is always a fault. -/
theorem openPattern_passes_check :
    (∀ finding ∈ Lint.conditionSyntax (assertingText openPattern), finding.stepIndex ≠ some 0) ∧
    plainWorkbench.build (assertingText openPattern) = .ok (builtAssertingText openPattern) ∧
    (∃ v ∈ (builtAssertingText openPattern).visits 1 [] [], ∃ f, v.outcome = .fault f ∧
      Condition.BadPatternIn openPattern f) ∧
    (∃ finding ∈ Lint.conditionSyntax (assertingText strangeOperator),
      finding.stepIndex = some 0) ∧
    ∃ f, (Blocks.assertion.process 0 [("conditions", strangeOperator)] {}).result = .error f := by
  have hbuild : plainWorkbench.build (assertingText openPattern) =
      .ok (builtAssertingText openPattern) := rfl
  have hfound : ∃ finding ∈ Lint.conditionSyntax (assertingText strangeOperator),
      finding.stepIndex = some 0 := by decide +kernel
  obtain ⟨-, hruns, -⟩ := checked_conditions (getElem?_assertingText openPattern)
    (configField?_textAssertion openPattern) rfl
  obtain ⟨-, -, hrejected⟩ := checked_conditions (getElem?_assertingText strangeOperator)
    (configField?_textAssertion strangeOperator) rfl
  obtain ⟨hunfound, hvisits⟩ := hruns plainWorkbench _ hbuild (namesOnce_assertingText openPattern)
  have hvisit : assertionVisit openPattern ∈ (builtAssertingText openPattern).visits 1 [] [] :=
    List.mem_singleton.mpr rfl
  refine ⟨hunfound, hbuild, ⟨_, hvisit, ?_⟩, hfound, hrejected hfound 0 _ {} rfl⟩
  cases hfault : (assertionVisit openPattern).outcome with
  | fault f =>
      rcases hvisits [] ⟨1, [], []⟩ _ hvisit rfl List.mem_cons_self f hfault with
        hpattern | ⟨-, hmissing, -⟩
      · exact ⟨f, rfl, hpattern⟩
      · exact absurd rfl hmissing
  | _ =>
      have herror : ((assertionVisit openPattern).outcome matches .fault _) = true := by
        decide +kernel
      rw [hfault] at herror
      cases herror

end StepPipeline
