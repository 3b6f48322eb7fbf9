import StepPipeline.Blocks.Standard
import StepPipeline.Proofs.Document.Building
import StepPipeline.Proofs.Document.Reading
import StepPipeline.Proofs.Run.Visits
import StepPipeline.Proofs.Template.Texts

/-!
# What a block receives of the fields that a document gives

A document can be checked for what it gives to a step: `StepDescription.fixedField?` looks into the
`config` first and into a record of inputs second. The step itself gathers its inputs anew in every
state. A value in the `config` arrives as it is written, placeholders and all
(`find?_gather_of_config`); a value in a record of inputs arrives resolved
(`find?_gather_of_record`), and then even a text without placeholders may become something else,
the content of the slot that it names. Main statement: `received_fields`.
-/

namespace StepPipeline

/-! ## The two places -/

section

variable {b : Workbench} {spec : StepDescription} {step : Step} {key : String} {value : Json}

/-- The check looks where the step finds the value first. -/
theorem StepDescription.fixedField?_of_config (h : spec.configField? key = some value) :
    spec.fixedField? key = some value := by
  rw [fixedField?, h]

/-- Only then does it look into the record of inputs. -/
theorem StepDescription.fixedField?_of_no_config (h : spec.configField? key = none) :
    spec.fixedField? key = spec.inputField? key := by
  rw [fixedField?, h]

/-- The `config` lies over what the input description supplies. -/
theorem find?_gather (hmade : b.makeStep spec = .ok step) (hnames : spec.NamesOnce)
    (scope : Scope) : Table.find? (step.gather scope) key =
      (spec.configField? key).or (Table.find? (step.supplied scope) key) := by
  obtain ⟨-, -, -, -, hconfig⟩ := Workbench.makeStep_eq_ok hmade
  rw [Step.gather, hconfig, StepDescription.configField?]
  cases hfields : spec.configFields? with
  | none => rfl
  | some fields => exact Table.find?_overlay _ (hnames.config fields hfields) key

/-- A value in the `config` arrives as it is written. -/
theorem find?_gather_of_config (hmade : b.makeStep spec = .ok step) (hnames : spec.NamesOnce)
    (h : spec.configField? key = some value) (scope : Scope) :
    Table.find? (step.gather scope) key = some value := by
  rw [find?_gather hmade hnames, h]
  rfl

/-- A value in a record of inputs arrives resolved, unless the `config` hides it. -/
theorem find?_gather_of_record (hmade : b.makeStep spec = .ok step) (hnames : spec.NamesOnce)
    (hconfig : spec.configField? key = none) (h : spec.inputField? key = some value)
    (scope : Scope) : Table.find? (step.gather scope) key = scope.resolveWithin value := by
  rw [find?_gather hmade hnames, hconfig, Option.none_or]
  unfold StepDescription.inputField? at h
  split at h
  · next fields hinput =>
    obtain ⟨-, -, hsame, -, -⟩ := Workbench.makeStep_eq_ok hmade
    rw [Step.supplied, hsame, hinput]
    show Table.find? (scope.resolveFields fields) key = _
    rw [Scope.resolveFields, Table.find?_filterMap _ (hnames.input fields hinput), h]
    rfl
  · cases h

end

/-! ## Every visit -/

/-- **The fields that a document gives, as they are received.** In every state that any calls of a
built pipeline come to, a block receives a value that the `config` gives exactly as it is written.
A value that a record of inputs gives is resolved in the current scope; it is received unchanged
exactly if every text inside it resolves to itself, and a text that cannot hold a placeholder
becomes the content of the slot that it names, if there is one. -/
theorem received_fields {b : Workbench} {d : Document} {p : Pipeline} (hbuild : b.build d = .ok p)
    (hnames : d.NamesOnce) (earlier : List Call) (c : Call) :
    ∀ v ∈ (p.callAll earlier).visits c.moves c.input c.initial,
      ∃ spec, d.pipeline[v.index]? = some spec ∧ b.makeStep spec = .ok v.step ∧
        ∀ key value, spec.fixedField? key = some value →
          (spec.configField? key = some value ∧ Table.find? v.inputs key = some value) ∨
          (spec.configField? key = none ∧
            Table.find? v.inputs key = v.before.scope.resolveWithin value ∧
            (Table.find? v.inputs key = some value ↔
              ∀ text ∈ value.texts, v.before.scope.resolveText text = some (.str text)) ∧
            ∀ text, value = .str text →
              Table.find? v.inputs key = v.before.scope.resolveText text ∧
              (value.mayHoldPlaceholder = false →
                Table.find? v.inputs key = some ((v.before.bus.get? text).getD value))) := by
  intro v hv
  have hstep := Pipeline.getElem?_steps_of_mem_visits hv
  rw [Pipeline.steps_callAll] at hstep
  obtain ⟨spec, hspec, hmade⟩ := Workbench.makeStep_of_build hbuild hstep
  have honce : spec.NamesOnce := hnames spec (List.mem_of_getElem? hspec)
  refine ⟨spec, hspec, hmade, fun key value hvalue => ?_⟩
  cases hconfig : spec.configField? key with
  | some written =>
      obtain rfl : written = value := by
        rw [StepDescription.fixedField?_of_config hconfig] at hvalue
        exact Option.some.inj hvalue
      exact .inl ⟨rfl, find?_gather_of_config hmade honce hconfig v.before.scope⟩
  | none =>
      rw [StepDescription.fixedField?_of_no_config hconfig] at hvalue
      have hreceived : Table.find? v.inputs key = v.before.scope.resolveWithin value :=
        find?_gather_of_record hmade honce hconfig hvalue v.before.scope
      refine .inr ⟨rfl, hreceived, ?_, ?_⟩
      · rw [hreceived]
        exact Scope.resolveWithin_eq_self_iff
      · -- A text that may hold no placeholder holds none, and then only the bus is asked.
        rintro text rfl
        have htext : Table.find? v.inputs key = v.before.scope.resolveText text := by
          rw [hreceived, Scope.resolveWithin]
        refine ⟨htext, fun hplain => ?_⟩
        rw [htext]
        apply Scope.resolveText_of_not_hasSlot
        cases hslot : Template.hasSlot text with
        | false => rfl
        | true =>
            rw [Json.mayHoldPlaceholder, Template.contains_of_hasSlot hslot] at hplain
            cases hplain

/-! ## A target that is a slot -/

/-- A loop with its target among the inputs. -/
def loopDescription : StepDescription where
  block := "loop"
  input := some (.record [("target", .str "pause")])

/-- A pause, and a loop that is to go back to it. -/
def loopToPause : Document where
  pipeline := [{ block := "delay", id := some "pause" }, loopDescription]

def plainWorkbench : Workbench := ⟨Registry.standard, fun _ => none⟩

def builtLoopToPause : Pipeline where
  steps := [
    { id := "pause", block := Blocks.delay },
    { id := "loop", block := Blocks.loop, input := loopDescription.input }]

theorem build_loopToPause : plainWorkbench.build loopToPause = .ok builtLoopToPause := rfl

theorem namesOnce_loopToPause : loopToPause.NamesOnce := by
  intro spec hspec
  simp only [loopToPause, List.mem_cons, List.not_mem_nil, or_false] at hspec
  rcases hspec with rfl | rfl
  · constructor <;> intro fields h <;> cases h
  · constructor
    · intro fields h
      cases h
    · intro fields h
      cases h
      decide

/-- When the loop is executed, the pause has left its output in a slot of its name. -/
theorem loop_visit : ∃ v ∈ builtLoopToPause.visits 2 [] [], v.index = 1 ∧
    plainWorkbench.makeStep loopDescription = .ok v.step ∧
    v.before.bus.get? "pause" = some (.obj [("delayed", .nat 0)]) :=
  ⟨_, List.mem_cons_of_mem _ List.mem_cons_self, rfl, rfl, rfl⟩

/-- The loop receives the output of the pause for its target. -/
theorem loop_receives_output :
    plainWorkbench.build loopToPause = .ok builtLoopToPause ∧ loopToPause.NamesOnce ∧
    ∃ v ∈ builtLoopToPause.visits 2 [] [], v.index = 1 ∧
      Table.find? v.inputs "target" = some (.obj [("delayed", .nat 0)]) := by
  refine ⟨build_loopToPause, namesOnce_loopToPause, ?_⟩
  obtain ⟨v, hv, hindex, -, hslot⟩ := loop_visit
  refine ⟨v, hv, hindex, ?_⟩
  obtain ⟨spec, hspec, -, hfields⟩ :=
    received_fields build_loopToPause namesOnce_loopToPause [] ⟨2, [], []⟩ v hv
  rw [hindex] at hspec
  obtain rfl := Option.some.inj hspec
  rcases hfields "target" (.str "pause") rfl with ⟨hconfig, -⟩ | ⟨-, -, -, htext⟩
  · cases hconfig
  · rw [(htext "pause" rfl).2 rfl, hslot]
    rfl

/-- So a value is not always received as it is given, even if it holds no placeholder. -/
theorem not_always_received_as_given :
    ¬∀ (b : Workbench) (d : Document) (p : Pipeline), b.build d = .ok p → d.NamesOnce →
      ∀ (earlier : List Call) (c : Call),
      ∀ v ∈ (p.callAll earlier).visits c.moves c.input c.initial,
      ∀ spec, d.pipeline[v.index]? = some spec →
      ∀ key ∈ ["target", "conditions"], ∀ value, spec.fixedField? key = some value →
        (value.mayHoldPlaceholder = false → Table.find? v.inputs key = some value) ∧
        (value.mayHoldPlaceholder = true →
          Table.find? v.inputs key = v.before.scope.resolve value) := by
  intro h
  obtain ⟨v, hv, hindex, hmade, hslot⟩ := loop_visit
  obtain ⟨hgiven, -⟩ := h plainWorkbench loopToPause builtLoopToPause build_loopToPause
    namesOnce_loopToPause [] ⟨2, [], []⟩ v hv loopDescription (by rw [hindex]; rfl) "target"
    List.mem_cons_self (.str "pause") rfl
  have hresolved : Table.find? v.inputs "target" = v.before.scope.resolveText "pause" := by
    rw [Visit.inputs, find?_gather_of_record hmade
      (namesOnce_loopToPause _ (List.mem_cons_of_mem _ List.mem_cons_self)) rfl rfl,
      Scope.resolveWithin]
  have hslotText : v.before.scope.resolveText "pause" = some (.obj [("delayed", .nat 0)]) := by
    rw [Scope.resolveText_of_not_hasSlot (by decide +kernel)]
    show some ((v.before.bus.get? "pause").getD _) = _
    rw [hslot]
    rfl
  rw [hgiven rfl] at hresolved
  cases hresolved.trans hslotText

end StepPipeline
