import StepPipeline.Proofs.Document.FixedFields
import StepPipeline.Proofs.Run.Jumps

/-!
# Targets, in a document and in a run

A target is looked up twice. The check of a document looks through the descriptions in front of a
loop; a run looks through all steps of what was built and then asks whether the one it found lies
behind. Both come to the same: the steps have the ids of their descriptions, in the same order
(`ids_of_build`), and the first holder of an id among the steps in front is the first holder of all,
if that one is in front (`firstHolder?_eq`, `isEarlier_iff`).

So a warning about a target says that the jump will not be made, whatever the caps and counters are,
and a warning about an id names the step that targets of this id mean. Main statement:
`lints_agree_with_jumps`.
-/

namespace StepPipeline

variable {b : Workbench} {d : Document} {p : Pipeline} {i : Nat} {spec : StepDescription}

/-! ## The same ids -/

/-- A text denotes the first description of that id. -/
theorem targetIndex?_str_of_build (h : b.build d = .ok p) (id : String) :
    targetIndex? p.steps (.str id) = d.pipeline.findIdx? fun spec => spec.effectiveId == id := by
  have hids := congrArg (List.findIdx? (· == id)) (Workbench.ids_of_build h)
  rw [List.findIdx?_map, List.findIdx?_map] at hids
  exact hids

namespace Lint

/-- Among the descriptions in front of a position, the first holder of an id is what the id denotes,
unless that is further behind. -/
theorem firstHolder?_eq (h : b.build d = .ok p) (id : String) (index : Nat) :
    firstHolder? d id index = (targetIndex? p.steps (.str id)).filter (· < index) := by
  rw [firstHolder?, List.findIdx?_take, targetIndex?_str_of_build h]
  cases List.findIdx? _ d.pipeline with
  | none => rfl
  | some first => rfl

/-- What the rule about ids finds is what a target of the id denotes. -/
theorem firstHolder?_eq_some_iff (h : b.build d = .ok p) {id : String} {index first : Nat} :
    firstHolder? d id index = some first ↔
      targetIndex? p.steps (.str id) = some first ∧ first < index := by
  rw [firstHolder?_eq h, Option.filter_eq_some_iff, decide_eq_true_eq]

/-- What the rule about loops asks is whether a run would go back. -/
theorem isEarlier_iff (h : b.build d = .ok p) {index : Nat} {target : Json} :
    isEarlier d index target = true ↔
      ∃ earlier, targetIndex? p.steps target = some earlier ∧ earlier < index := by
  cases target with
  | str id =>
      show (firstHolder? d id index).isSome = true ↔ _
      rw [Option.isSome_iff_exists]
      exact exists_congr fun earlier => firstHolder?_eq_some_iff h
  | num n =>
      show n.toIndex?.any (fun earlier => earlier < index) = true ↔
        ∃ earlier, n.toIndex? = some earlier ∧ earlier < index
      rw [Option.any_eq_true]
      simp only [decide_eq_true_eq]
  | null | bool _ | arr _ | obj _ =>
      -- No other value is a target, in a document or in a run.
      exact iff_of_false Bool.false_ne_true nofun

/-! ## Findings about one step -/

/-- Where a rule looks for one thing at each step and reports it there, the findings about a step
are the reports of what it finds at that step. -/
theorem mem_reports_iff {α : Type} (find : StepDescription → Nat → Option α)
    (report : StepDescription → Nat → α → Finding)
    (hreport : ∀ spec i a, (report spec i a).stepIndex = some i)
    (hspec : d.pipeline[i]? = some spec) {finding : Finding} :
    (finding ∈ (numbered d).filterMap fun e => (find e.1 e.2).map (report e.1 e.2)) ∧
        finding.stepIndex = some i ↔
      ∃ a, find spec i = some a ∧ finding = report spec i a := by
  constructor
  · rintro ⟨hmem, hindex⟩
    obtain ⟨⟨other, j⟩, hother, hfinding⟩ := List.mem_filterMap.mp hmem
    obtain ⟨a, ha, rfl⟩ := Option.map_eq_some_iff.mp hfinding
    -- The report carries the position, so it was made at this step.
    obtain rfl : j = i := Option.some.inj ((hreport other j a).symm.trans hindex)
    have hsame : d.pipeline[j]? = some other := List.mem_zipIdx_iff_getElem?.mp hother
    obtain rfl := Option.some.inj (hspec.symm.trans hsame)
    exact ⟨a, ha, rfl⟩
  · rintro ⟨a, ha, rfl⟩
    refine ⟨List.mem_filterMap.mpr ⟨(spec, i), ?_, ?_⟩, hreport spec i a⟩
    · exact List.mem_zipIdx_iff_getElem?.mpr hspec
    · rw [ha, Option.map_some]

/-- The finding names the step that a run would go back to. -/
theorem mem_duplicateId_iff (h : b.build d = .ok p) (hspec : d.pipeline[i]? = some spec)
    {finding : Finding} : finding ∈ duplicateId d ∧ finding.stepIndex = some i ↔
      ∃ first, (targetIndex? p.steps (.str spec.effectiveId) = some first ∧ first < i) ∧
        finding = repeatedId spec i first := by
  simp only [← firstHolder?_eq_some_iff h]
  exact mem_reports_iff (fun spec i => firstHolder? d spec.effectiveId i) repeatedId
    (fun _ _ _ => rfl) hspec

/-- The finding about a step names the target that was looked for. -/
theorem mem_loopTarget_iff (hspec : d.pipeline[i]? = some spec) {finding : Finding} :
    finding ∈ loopTarget d ∧ finding.stepIndex = some i ↔
      ∃ target, badTarget? d spec i = some target ∧ finding = badTarget spec i target :=
  mem_reports_iff (badTarget? d) badTarget (fun _ _ _ => rfl) hspec

/-- A loop whose target is written in its `config` is reported exactly if the target is no earlier
step. -/
theorem exists_loopTarget_iff (hspec : d.pipeline[i]? = some spec) (hloop : spec.block = "loop")
    {target : Json} (htarget : spec.configField? "target" = some target)
    (hplain : target.mayHoldPlaceholder = false) :
    (∃ finding ∈ loopTarget d, finding.stepIndex = some i) ↔ isEarlier d i target = false := by
  have hbad : badTarget? d spec i = if isEarlier d i target then none else some target := by
    rw [badTarget?, if_pos hloop, StepDescription.fixedField?_of_config htarget, Option.filter_some,
      hplain]
    cases isEarlier d i target <;> rfl
  simp only [mem_loopTarget_iff hspec, hbad]
  cases isEarlier d i target <;> simp

end Lint

/-! ## Requests -/

/-- A target in an output is jumped to, as far as the cap allows, if it denotes an earlier step, and
passed over otherwise. -/
theorem State.steer_of_loopTo {steps : List Step} {index : Nat} {output : Record} {loopTo : Json}
    (hfound : Table.find? output "_loopTo" = some loopTo) (hend : asksForEnd output = false)
    (id : String) (s : State) : s.steer steps index id output =
      match (targetIndex? steps loopTo).filter (· < index) with
      | some target => jump steps id loopTo.toText target (loopCap output) s
      | none => (s, .onward) := by
  rw [steer, hend, if_neg Bool.false_ne_true, jumpAsked?, hfound, Option.bind_some]
  cases (targetIndex? steps loopTo).filter (· < index) with
  | none => rfl
  | some target => rfl

/-- Whatever else an output says and whatever the state is, a step at `index` that asks for this
target goes on as if it had not asked: no cap and no counter is looked at. -/
def PassedOver (steps : List Step) (index : Nat) (target : Json) : Prop :=
  ∀ (id : String) (output : Record) (s : State), Table.find? output "_loopTo" = some target →
    asksForEnd output = false → s.steer steps index id output = (s, .onward)

/-- A request is passed over in all states exactly if its target is no earlier step. -/
theorem passedOver_iff {steps : List Step} {index : Nat} {target : Json} :
    PassedOver steps index target ↔
      ∀ earlier, targetIndex? steps target = some earlier → ¬earlier < index := by
  constructor
  · intro hpassed earlier hearlier hlt
    -- A fresh counter is below the default cap, so this request is granted.
    have hout : Table.find? [("_loopTo", target)] "_loopTo" = some target := rfl
    have hend : asksForEnd [("_loopTo", target)] = false := rfl
    have hfresh : (({} : State).context.jumpCount target.toText).toNat <
        loopCap [("_loopTo", target)] := by
      show 0 < 10
      decide
    have hsteer : ({} : State).steer steps index "" _ = _ :=
      State.steer_of_loopTo hout hend "" {}
    rw [hpassed "" _ {} hout hend, hearlier, Option.filter_some, decide_eq_true hlt, if_pos rfl]
      at hsteer
    dsimp only at hsteer
    rw [State.jump, if_pos hfresh] at hsteer
    cases congrArg Prod.snd hsteer
  · intro hnone id output s hout hend
    have hfilter : (targetIndex? steps target).filter (· < index) = none := by
      simpa [Option.filter_eq_none_iff] using hnone
    rw [State.steer_of_loopTo hout hend, hfilter]

/-- **What the warnings about targets and ids say of runs.** In a document that is built, let a loop
have a target in its `config` that is no text with a placeholder. It is reported exactly if the
target denotes no step before the loop, and exactly if a request for it is passed over; if it is not
reported, every request for it is a jump, as far as its cap allows. And an id is reported as
repeated exactly if it denotes a step before the one that has it; the message names that step. -/
theorem lints_agree_with_jumps (hbuild : b.build d = .ok p) (hspec : d.pipeline[i]? = some spec) :
    (∀ target, spec.block = "loop" → spec.configField? "target" = some target →
      target.mayHoldPlaceholder = false →
      ((∃ finding ∈ Lint.loopTarget d, finding.stepIndex = some i) ↔
        ∀ earlier, targetIndex? p.steps target = some earlier → ¬earlier < i) ∧
      ((∃ finding ∈ Lint.loopTarget d, finding.stepIndex = some i) ↔
        PassedOver p.steps i target) ∧
      ((∀ finding ∈ Lint.loopTarget d, finding.stepIndex ≠ some i) →
        ∃ earlier < i, targetIndex? p.steps target = some earlier ∧
          ∀ (id : String) (output : Record) (s : State),
            Table.find? output "_loopTo" = some target → asksForEnd output = false →
            s.steer p.steps i id output =
              s.jump p.steps id target.toText earlier (loopCap output))) ∧
    ∃ step, p.steps[i]? = some step ∧
      ((∃ finding ∈ Lint.duplicateId d, finding.stepIndex = some i) ↔
        ∃ first < i, targetIndex? p.steps (.str step.id) = some first) ∧
      ∀ finding ∈ Lint.duplicateId d, finding.stepIndex = some i →
        ∃ first < i, targetIndex? p.steps (.str step.id) = some first ∧
          finding.message = s!"Step id '{step.id}' is already used by step {first}; "
            ++ "loop targets resolve to the first one" := by
  refine ⟨fun target hloop htarget hplain => ?_, ?_⟩
  · have hreported : (∃ finding ∈ Lint.loopTarget d, finding.stepIndex = some i) ↔
        ∀ earlier, targetIndex? p.steps target = some earlier → ¬earlier < i := by
      rw [Lint.exists_loopTarget_iff hspec hloop htarget hplain, ← Bool.not_eq_true,
        Lint.isEarlier_iff hbuild]
      simp only [not_exists, not_and]
    refine ⟨hreported, hreported.trans passedOver_iff.symm, fun hnone => ?_⟩
    have hearlier : ¬∀ earlier, targetIndex? p.steps target = some earlier → ¬earlier < i := by
      rw [← hreported]
      rintro ⟨finding, hmem, hindex⟩
      exact hnone finding hmem hindex
    simp only [not_forall, not_not] at hearlier
    obtain ⟨earlier, hfound, hlt⟩ := hearlier
    refine ⟨earlier, hlt, hfound, fun id output s hout hend => ?_⟩
    rw [State.steer_of_loopTo hout hend, hfound, Option.filter_some, decide_eq_true hlt, if_pos rfl]
  · obtain ⟨step, hstep, hmade⟩ := Workbench.exists_step_of_build hbuild hspec
    have hid : step.id = spec.effectiveId := (Workbench.makeStep_eq_ok hmade).2.1
    refine ⟨step, hstep, ?_⟩
    rw [hid]
    refine ⟨⟨?_, ?_⟩, ?_⟩
    · rintro ⟨finding, hfinding⟩
      obtain ⟨first, ⟨hfirst, hlt⟩, -⟩ := (Lint.mem_duplicateId_iff hbuild hspec).mp hfinding
      exact ⟨first, hlt, hfirst⟩
    · rintro ⟨first, hlt, hfirst⟩
      exact ⟨_, (Lint.mem_duplicateId_iff hbuild hspec).mpr ⟨first, ⟨hfirst, hlt⟩, rfl⟩⟩
    · intro finding hmem hindex
      obtain ⟨first, ⟨hfirst, hlt⟩, rfl⟩ :=
        (Lint.mem_duplicateId_iff hbuild hspec).mp ⟨hmem, hindex⟩
      exact ⟨first, hlt, hfirst, rfl⟩

/-- Two steps of one id, a loop that targets itself by its number, and one back to the first of
them. -/
def pausesAndLoops : Document where
  pipeline := [
    { block := "delay" }, { block := "terminate", id := some "delay" },
    { block := "loop", config := some (.obj [("target", .nat 2)]) },
    { block := "loop", config := some (.obj [("target", .str "delay")]) }]

def builtPausesAndLoops : Pipeline where
  steps := [
    { id := "delay", block := Blocks.delay }, { id := "delay", block := Blocks.terminate },
    { id := "loop", block := Blocks.loop, config := some [("target", .nat 2)] },
    { id := "loop", block := Blocks.loop, config := some [("target", .str "delay")] }]

/-- The first loop is reported and a request for its target is passed over; the second one goes back
to the first step, of which the message about the second step tells. -/
theorem pausesAndLoops_lints :
    plainWorkbench.build pausesAndLoops = .ok builtPausesAndLoops ∧
    (∃ finding ∈ Lint.loopTarget pausesAndLoops, finding.stepIndex = some 2) ∧
    PassedOver builtPausesAndLoops.steps 2 (.nat 2) ∧
    ¬PassedOver builtPausesAndLoops.steps 3 (.str "delay") ∧
    ∃ finding ∈ Lint.duplicateId pausesAndLoops, finding.stepIndex = some 1 ∧
      finding.message = "Step id 'delay' is already used by step 0; "
        ++ "loop targets resolve to the first one" := by
  have hbuild : plainWorkbench.build pausesAndLoops = .ok builtPausesAndLoops := rfl
  -- The loop targets itself, and that is not before it.
  obtain ⟨hself, -⟩ := lints_agree_with_jumps (i := 2) hbuild rfl
  obtain ⟨hreported, hpassed, -⟩ := hself (.nat 2) rfl rfl rfl
  have hwarned : ∃ finding ∈ Lint.loopTarget pausesAndLoops, finding.stepIndex = some 2 := by
    apply hreported.mpr
    intro earlier hearlier
    obtain rfl : 2 = earlier := Option.some.inj hearlier
    decide
  -- The other target is the first step.
  obtain ⟨hback, -⟩ := lints_agree_with_jumps (i := 3) hbuild rfl
  obtain ⟨hsilent, hgranted, -⟩ := hback (.str "delay") rfl rfl rfl
  have hmade : ¬PassedOver builtPausesAndLoops.steps 3 (.str "delay") := by
    intro hover
    exact hsilent.mp (hgranted.mpr hover) 0 rfl (by decide)
  -- The second step has the id that the first one takes from its block.
  obtain ⟨-, step, hstep, hrepeated, hmessage⟩ := lints_agree_with_jumps (i := 1) hbuild rfl
  obtain rfl : { id := "delay", block := Blocks.terminate } = step := Option.some.inj hstep
  obtain ⟨finding, hmem, hindex⟩ := hrepeated.mpr ⟨0, by decide, rfl⟩
  obtain ⟨first, hlt, -, htext⟩ := hmessage finding hmem hindex
  obtain rfl : first = 0 := by omega
  exact ⟨hbuild, hwarned, hpassed.mp hwarned, hmade, finding, hmem, hindex, htext⟩

end StepPipeline
