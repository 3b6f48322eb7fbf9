import StepPipeline.Blocks.Scripted
import StepPipeline.Proofs.Run.Reports
import StepPipeline.Proofs.Run.Termination

/-!
# The events of a run

Whoever listens to a run hears of each execution of a step in one piece, an *episode*: that the step
was started, how it went, and, behind a success, at most one word on what it asked for, the sequel.
`Episode.Sound` says what an episode looks like, `Episode.Precedes` which two may follow each other:
where the cursor goes can be told from the sequel alone.

A visit publishes one episode (`Visit.exists_episode`), a run a chain of them
(`Machine.exists_episodes`), and a call puts the start and the end around it. Main statement:
`events_of_call`.
-/

namespace StepPipeline

/-- What is heard of one execution of a step. -/
structure Episode where
  /-- The position of the step. -/
  index : Nat
  step : Step
  /-- The line of the report about it. -/
  result : StepResult
  /-- Whether a failure was reported by an output. -/
  soft : Bool
  sequel : Option Event

namespace Episode

def verdict (e : Episode) : Event :=
  match e.result.error with
  | none => .stepCompleted e.result.id 0
  | some error => .stepFailed e.result.id error e.soft

def events (e : Episode) : List Event :=
  .stepStarted e.result.id e.step.block.type e.index :: e.verdict :: e.sequel.toList

/-- What a step can be heard to ask for. -/
inductive IsSequel (id : String) : Event → Prop where
  | loopBack (target : String) (iteration : Nat) : IsSequel id (.loopBack id target iteration)
  | loopLimitReached (target : String) (cap : Nat) : IsSequel id (.loopLimitReached id target cap)
  | terminated : IsSequel id (.terminated id)

/-- An episode is about the step at its position, and only a success has a sequel. -/
structure Sound (steps : List Step) (e : Episode) : Prop where
  step : steps[e.index]? = some e.step
  id : e.result.id = e.step.id
  success : e.result.success = e.result.error.isNone
  sequel : ∀ event, e.sequel = some event → e.result.success = true ∧ IsSequel e.result.id event

/-- The next episode is about the next step, or about an earlier one that the sequel names. Behind
the end there is none. -/
def Precedes (e next : Episode) : Prop :=
  match e.sequel with
  | some (.loopBack _ target _) => next.index < e.index ∧ next.step.id = target
  | some (.terminated _) => False
  | _ => next.index = e.index + 1

/-- An episode of a success is one that tells of no failure. -/
theorem Sound.success_iff {steps : List Step} {e : Episode} (h : e.Sound steps) :
    e.result.success = true ↔ ∀ id error soft, .stepFailed id error soft ∉ e.events := by
  rw [h.success]
  cases herror : e.result.error with
  | none =>
      -- What could tell of a failure is the verdict or the sequel, and neither does.
      refine iff_of_true rfl fun id error soft hmem => ?_
      simp only [events, verdict, herror, List.mem_cons, reduceCtorEq, false_or,
        Option.mem_toList] at hmem
      cases (h.sequel _ hmem).2
  | some error =>
      refine iff_of_false (by simp) fun hnone => hnone e.result.id error e.soft ?_
      simp [events, verdict, herror]

end Episode

/-! ## One visit -/

/-- Whether a sequel tells where the cursor goes from a position. -/
def Motion.TellsOf (steps : List Step) (index : Nat) (motion : Motion) : Option Event → Prop
  | some (.loopBack _ name _) =>
    ∃ target, motion = .back target ∧ target < index ∧ (steps[target]?).map Step.id = some name
  | some (.terminated _) => motion = .stop
  | _ => motion = .onward ∨ motion = .stop

/-- Steering publishes at most one event, and that tells where the cursor goes. -/
theorem State.exists_sequel {steps : List Step} {index : Nat} (hindex : index < steps.length)
    (id : String) (output : Record) (s : State) :
    ∃ sequel : Option Event,
      (s.steer steps index id output).1.events = s.events ++ sequel.toList ∧
      (∀ event, sequel = some event → Episode.IsSequel id event) ∧
      (s.steer steps index id output).2.TellsOf steps index sequel := by
  unfold steer
  split
  · exact ⟨some (.terminated id), rfl, by rintro _ ⟨⟩; exact .terminated, rfl⟩
  · split
    · next key target hasked =>
      unfold jump
      split
      · have hlt : target < index := (jumpAsked?_eq_some hasked hindex).2
        -- The event gives the id of the target, so there has to be a step.
        obtain ⟨step, hstep⟩ : ∃ step, steps[target]? = some step :=
          ⟨_, List.getElem?_eq_getElem (hlt.trans hindex)⟩
        refine ⟨some _, rfl, by rintro _ ⟨⟩; exact .loopBack _ _, target, rfl, hlt, ?_⟩
        rw [hstep]
        rfl
      · exact ⟨some _, rfl, by rintro _ ⟨⟩; exact .loopLimitReached _ _, .inl rfl⟩
    · exact ⟨none, (List.append_nil _).symm, by simp, .inl rfl⟩

namespace Visit

variable {steps : List Step} {v : Visit}

/-- The call of a block only publishes that the step was started. -/
theorem events_called (v : Visit) : v.called.1.events =
    v.before.events ++ [.stepStarted v.step.id v.step.block.type v.index] := by
  unfold called State.call
  dsimp only
  split <;> rfl

def episode (v : Visit) (soft : Bool) (sequel : Option Event) : Episode :=
  ⟨v.index, v.step, v.result, soft, sequel⟩

/-- The only thing to be shown of an episode is that nothing but a success has a sequel. -/
theorem sound_episode (hstep : steps[v.index]? = some v.step) {sequel : Option Event}
    (h : ∀ event, sequel = some event → v.error? = none ∧ Episode.IsSequel v.step.id event)
    (soft : Bool) : (v.episode soft sequel).Sound steps := by
  refine ⟨hstep, rfl, rfl, fun event hevent => ?_⟩
  obtain ⟨herror, hkind⟩ := h event hevent
  refine ⟨?_, hkind⟩
  show v.error?.isNone = true
  rw [herror]
  rfl

/-- In an episode without an error the step is heard to be completed. -/
theorem events_episode_of_success (h : v.error? = none) (soft : Bool) (sequel : Option Event) :
    (v.episode soft sequel).events = [.stepStarted v.step.id v.step.block.type v.index,
      .stepCompleted v.step.id 0] ++ sequel.toList := by
  simp only [Episode.events, Episode.verdict, episode, result, h]
  rfl

theorem events_episode_of_failure {message : String} (h : v.error? = some message) (soft : Bool) :
    (v.episode soft none).events = [.stepStarted v.step.id v.step.block.type v.index,
      .stepFailed v.step.id message soft] := by
  simp only [Episode.events, Episode.verdict, episode, result, h]
  rfl

/-- **A visit publishes one episode**, and its sequel tells where the cursor goes. -/
theorem exists_episode (hstep : steps[v.index]? = some v.step) :
    ∃ soft sequel, (v.episode soft sequel).Sound steps ∧
      (v.after steps).events = v.before.events ++ (v.episode soft sequel).events ∧
      (v.motion steps).TellsOf steps v.index sequel := by
  unfold after motion
  cases h : v.outcome with
  | success output =>
      have herror : v.error? = none := by rw [error?, h]
      have hindex : v.index < steps.length := (List.getElem?_eq_some_iff.mp hstep).1
      obtain ⟨sequel, hevents, hkind, htells⟩ := State.exists_sequel hindex v.step.id output
        ((v.called.1.store v.step output).succeed v.step.id)
      refine ⟨false, sequel, ?_, ?_, ?_⟩
      · exact sound_episode hstep (fun event hevent => ⟨herror, hkind event hevent⟩) false
      · rw [taken_of_success h, hevents, events_episode_of_success herror]
        show v.called.1.events ++ [.stepCompleted v.step.id 0] ++ sequel.toList = _
        rw [events_called]
        simp
      · rw [taken_of_success h]
        exact htells
  | softError output message =>
      refine ⟨true, none, sound_episode hstep (by simp) true, ?_, ?_⟩
      · rw [taken_of_softError h, events_episode_of_failure (by rw [error?, h])]
        show v.called.1.events ++ [.stepFailed v.step.id message true] = _
        rw [events_called]
        simp
      · rw [taken_of_softError h]
        exact .inr rfl
  | fault f =>
      refine ⟨false, none, sound_episode hstep (by simp) false, ?_, ?_⟩
      · rw [taken_of_fault h, events_episode_of_failure (by rw [error?, h])]
        show v.called.1.events ++ [.stepFailed v.step.id f.message false] = _
        rw [events_called]
        simp
      · rw [taken_of_fault h]
        show Motion.TellsOf steps v.index (if _ then Motion.onward else .stop) none
        split
        · exact .inl rfl
        · exact .inr rfl

end Visit

/-! ## One call -/

/-- Where a sequel tells that the cursor goes, the next episode is about the step there. -/
theorem Episode.Sound.precedes {steps : List Step} {e next : Episode} {motion : Motion}
    (hnext : next.Sound steps) (htells : motion.TellsOf steps e.index e.sequel)
    (hcursor : next.index = motion.cursor steps.length e.index) : e.Precedes next := by
  -- Behind a stop there is no step.
  have hstop : motion ≠ .stop := by
    rintro rfl
    have hlt := (List.getElem?_eq_some_iff.mp hnext.step).1
    rw [hcursor] at hlt
    exact absurd hlt (Nat.lt_irrefl _)
  unfold Episode.Precedes
  unfold Motion.TellsOf at htells
  split at htells
  · obtain ⟨target, rfl, hlt, hname⟩ := htells
    obtain rfl : next.index = target := hcursor
    rw [hnext.step] at hname
    exact ⟨hlt, Option.some.inj hname⟩
  · exact absurd htells hstop
  · obtain rfl := htells.resolve_right hstop
    exact hcursor

/-- What is heard from a position on: sound episodes, the first one about the step there, of which
each may follow the one before. -/
structure Episode.Trace (steps : List Step) (cursor : Nat) (episodes : List Episode) : Prop where
  sound : ∀ e ∈ episodes, e.Sound steps
  start : ∀ e ∈ episodes.head?, e.index = cursor
  chain : episodes.IsChain Episode.Precedes

/-- The seam between a visit and the rest of the run: the first episode of the rest, if there is
one, may follow that of the visit. -/
theorem Episode.Trace.cons {steps : List Step} {e : Episode} {rest : List Episode}
    {motion : Motion} (he : e.Sound steps) (htells : motion.TellsOf steps e.index e.sequel)
    (hrest : Trace steps (motion.cursor steps.length e.index) rest) :
    Trace steps e.index (e :: rest) := by
  refine ⟨List.forall_mem_cons.mpr ⟨he, hrest.sound⟩, by rintro _ ⟨⟩; rfl, ?_⟩
  -- Only the first link of the chain is new.
  cases rest with
  | nil => exact .singleton e
  | cons next rest =>
      have hnext : next.Sound steps := hrest.sound next List.mem_cons_self
      exact List.isChain_cons_cons.mpr
        ⟨hnext.precedes htells (hrest.start next rfl), hrest.chain⟩

/-- A run publishes a chain of episodes, one for each line that it adds to the report. -/
theorem Machine.exists_episodes (steps : List Step) (moves : Nat) (m : Machine) :
    ∃ episodes : List Episode, Episode.Trace steps m.cursor episodes ∧
      episodes.map Episode.result = (visits steps moves m).map Visit.result ∧
      (run steps moves m).state.events = m.state.events ++ episodes.flatMap Episode.events := by
  induction moves generalizing m with
  | zero => exact ⟨[], ⟨by simp, by simp, .nil⟩, rfl, (List.append_nil _).symm⟩
  | succ moves ih =>
      cases hnext : m.next? steps with
      | none =>
          rw [run_of_finished (finished_iff.mpr hnext), visits_succ_of_none hnext]
          exact ⟨[], ⟨by simp, by simp, .nil⟩, rfl, (List.append_nil _).symm⟩
      | some v =>
          obtain ⟨hstep, hbefore, hindex⟩ := next?_eq_some hnext
          obtain ⟨soft, sequel, hsound, hevents, htells⟩ := Visit.exists_episode hstep
          -- The rest is traced from the cursor that the visit leaves.
          obtain ⟨rest, htrace, hresults, hrest⟩ := ih (m.advance steps)
          rw [run_succ, hrest, visits_succ_of_some hnext]
          rw [advance_of_next? hnext] at htrace hresults ⊢
          refine ⟨v.episode soft sequel :: rest, ?_, ?_, ?_⟩
          · rw [← hindex]
            exact .cons hsound htells htrace
          · rw [List.map_cons, List.map_cons, hresults]
            rfl
          · show (v.after steps).events ++ _ = _
            rw [hevents, hbefore, List.flatMap_cons, List.append_assoc]

/-- **The events of a call** trace it exactly. Behind those that were not collected yet they are the
start with the number of steps, the episodes of the results of the call, one by one, and the end,
which says whether no step failed. The first episode is about the first step; any other is about the
step behind the one before, or, if that one told of a jump, about an earlier step of the id that it
gave; and none follows an episode that told of the end. -/
theorem events_of_call (p : Pipeline) (moves : Nat) (input initial : Record) :
    let called := p.runFor moves input initial
    ∃ episodes : List Episode,
      episodes.map Episode.result = called.1.state.summary.results ∧
      called.1.state.events = p.state.events ++ [.pipelineStarted nilRun p.steps.length] ++
        episodes.flatMap Episode.events ++ [.pipelineCompleted nilRun called.2.success 0] ∧
      (∀ e ∈ episodes, e.Sound p.steps) ∧ (∀ e ∈ episodes.head?, e.index = 0) ∧
      episodes.IsChain Episode.Precedes ∧
      (called.2.success = true ↔
        ∀ id error soft, .stepFailed id error soft ∉ episodes.flatMap Episode.events) := by
  intro called
  obtain ⟨episodes, htrace, hresults, hevents⟩ :=
    Machine.exists_episodes p.steps moves (p.machine input initial)
  have hreport : episodes.map Episode.result = called.1.state.summary.results :=
    hresults.trans Pipeline.results_runFor.symm
  refine ⟨episodes, hreport, ?_, htrace.sound, htrace.start, htrace.chain, ?_⟩
  · show (Machine.run p.steps moves (p.machine input initial)).state.events ++ _ = _
    rw [hevents]
    rfl
  · -- Success is read off the results, and these are the results of the episodes.
    have hagrees : called.1.state.summary.Agrees := Pipeline.agrees_runFor
    show (!called.1.state.summary.hadError) = true ↔ _
    rw [hagrees.hadError, ← hreport, Bool.not_eq_true', List.any_eq_false]
    simp only [List.mem_map, forall_exists_index, and_imp, forall_apply_eq_imp_iff₂,
      Bool.not_eq_true', Bool.not_eq_false, List.mem_flatMap, not_exists, not_and]
    constructor
    · intro hsuccess id error soft e he
      exact (htrace.sound e he).success_iff.mp (hsuccess e he) id error soft
    · intro hnone e he
      exact (htrace.sound e he).success_iff.mpr fun id error soft => hnone id error soft e he

def pauseTwiceAndLoop : Pipeline where
  steps := [
    { id := "first", block := Blocks.delay },
    { id := "again", block := Blocks.delay },
    { id := "loop", input := some (.record []), block := Blocks.fixed [("output", .obj [
        ("_loopTo", .nat 1), ("_maxLoops", .nat 1)])] }]

/-- A listener hears of the jump back and of its refusal the second time. -/
theorem pauseTwiceAndLoop_events :
    ∃ episodes : List Episode,
      episodes.map Episode.result = [⟨"first", true, none⟩, ⟨"again", true, none⟩,
        ⟨"loop", true, none⟩, ⟨"again", true, none⟩, ⟨"loop", true, none⟩] ∧
      (pauseTwiceAndLoop.runFor 5 [] []).1.state.events =
        [.pipelineStarted nilRun 3] ++ episodes.flatMap Episode.events ++
          [.pipelineCompleted nilRun true 0] ∧
      episodes.IsChain Episode.Precedes := by
  obtain ⟨episodes, hresults, hevents, -, -, hchain, -⟩ :=
    events_of_call pauseTwiceAndLoop 5 [] []
  have hreport : (pauseTwiceAndLoop.runFor 5 [] []).1.state.summary.results =
      [⟨"first", true, none⟩, ⟨"again", true, none⟩, ⟨"loop", true, none⟩,
        ⟨"again", true, none⟩, ⟨"loop", true, none⟩] := by
    decide +kernel
  have hsuccess : (pauseTwiceAndLoop.runFor 5 [] []).2.success = true := by
    decide +kernel
  rw [hsuccess] at hevents
  exact ⟨episodes, hresults.trans hreport, hevents, hchain⟩

end StepPipeline
