import StepPipeline.Blocks.Scripted
import StepPipeline.Proofs.Run.Termination

/-!
# What ends a run

A step that is taken either ends the run or lets it go on, and its outcome alone decides which:

* `Visit.Halts`: a reported error, a fault that the context does not excuse, and a success that asks
  for the end;
* `Visit.GoesOn`: any other success, and a fault that the context excuses.

The flag that excuses a fault is read from the context as the block left it, so a block can raise or
drop it on the way. Main statement: `halting_discipline`.
-/

namespace StepPipeline

/-- The flag that excuses faults, in the context as the block of the step left it. -/
def Visit.isExcused (v : Visit) : Bool := v.called.1.context.isOn continueOnError

/-- The three ways in which a visit is the last one of its run. -/
inductive Visit.Halts (v : Visit) : Prop where
  | reported {output : Record} {message : String} (h : v.outcome = .softError output message)
  | fault {f : Fault} (h : v.outcome = .fault f) (hexcused : v.isExcused = false)
  | ending {output : Record} (h : v.outcome = .success output) (hasks : asksForEnd output = true)

/-- The ways in which a run goes on behind a visit. -/
inductive Visit.GoesOn (v : Visit) : Prop where
  | success {output : Record} (h : v.outcome = .success output)
      (hasks : asksForEnd output = false)
  | fault {f : Fault} (h : v.outcome = .fault f) (hexcused : v.isExcused = true)

/-! ## One step -/

namespace State

variable (steps : List Step) (index : Nat) (id : String) {output : Record} (s : State)

/-- A request for the end goes before a request for a jump. -/
theorem steer_of_asksForEnd (h : asksForEnd output = true) :
    (s.steer steps index id output).2 = .stop := by
  unfold steer
  rw [if_pos h]

/-- A request for a jump does not end the run, not even if the cap refuses it. -/
theorem steer_ne_stop (h : asksForEnd output = false) :
    (s.steer steps index id output).2 ≠ .stop := by
  unfold steer
  rw [h, if_neg Bool.false_ne_true]
  split
  · unfold jump
    split <;> simp
  · simp

end State

namespace Visit

variable {v : Visit}

/-- There is no third way. -/
theorem goesOn_or_halts (v : Visit) : v.GoesOn ∨ v.Halts := by
  cases h : v.outcome with
  | success output =>
      cases hasks : asksForEnd output with
      | false => exact .inl (.success h hasks)
      | true => exact .inr (.ending h hasks)
  | softError output message => exact .inr (.reported h)
  | fault f =>
      cases hexcused : v.isExcused with
      | false => exact .inr (.fault h hexcused)
      | true => exact .inl (.fault h hexcused)

/-- Each of the three outcomes stops the cursor, whatever the output asks for besides. -/
theorem Halts.motion_eq (h : v.Halts) (steps : List Step) : v.motion steps = .stop := by
  cases h with
  | reported h => rw [motion, taken_of_softError h]
  | fault h hexcused =>
      rw [motion, taken_of_fault h]
      show (if v.isExcused then Motion.onward else .stop) = .stop
      rw [hexcused]
      rfl
  | ending h hasks =>
      rw [motion, taken_of_success h]
      exact State.steer_of_asksForEnd steps v.index v.step.id _ hasks

/-- The other outcomes never stop it. -/
theorem GoesOn.motion_ne (h : v.GoesOn) (steps : List Step) : v.motion steps ≠ .stop := by
  cases h with
  | success h hasks =>
      rw [motion, taken_of_success h]
      exact State.steer_ne_stop steps v.index v.step.id _ hasks
  | fault h hexcused =>
      rw [motion, taken_of_fault h]
      show (if v.isExcused then Motion.onward else .stop) ≠ .stop
      rw [hexcused]
      simp

/-- A step that misses inputs faults, and then the context is the one that it found. -/
theorem fault_of_missing (h : v.step.block.inputs.missing v.inputs ≠ []) :
    (∃ f, v.outcome = .fault f) ∧ v.isExcused = v.before.context.isOn continueOnError := by
  obtain ⟨houtcome, hcontext, -⟩ := v.called_of_missing h
  refine ⟨⟨_, houtcome⟩, ?_⟩
  rw [isExcused, hcontext]

/-- Behind a step that goes on there is a further step, unless it was the final one of the list. -/
theorem GoesOn.cursor_lt (h : v.GoesOn) {steps : List Step} (hindex : v.index < steps.length)
    (hfinal : v.index + 1 ≠ steps.length) :
    (v.motion steps).cursor steps.length v.index < steps.length := by
  cases hmotion : v.motion steps with
  | onward =>
      show v.index + 1 < steps.length
      omega
  | back target => exact (v.lt_of_motion_back hindex hmotion).trans hindex
  | stop => exact absurd hmotion (h.motion_ne steps)

end Visit

/-! ## The run -/

namespace Machine

variable {steps : List Step} {moves k : Nat} {m : Machine} {v : Visit}

/-- A step that ends the run is the last one taken. -/
theorem length_visits_of_halts (h : (visits steps moves m)[k]? = some v) (hhalts : v.Halts) :
    (visits steps moves m).length = k + 1 := by
  apply visits_end h
  rw [hhalts.motion_eq steps]
  exact Nat.le_refl _

/-- The last step of a run that is over ends it, or is the final one of the list. -/
theorem halts_of_last (hover : (run steps moves m).finished steps = true)
    (h : (visits steps moves m)[k]? = some v) (hlast : (visits steps moves m).length = k + 1)
    (hfinal : v.index + 1 ≠ steps.length) : v.Halts := by
  rcases v.goesOn_or_halts with hgoes | hhalts
  · -- A step that goes on before the final one would have been followed by another.
    have hle := le_cursor_of_visits_end hover h hlast
    have hstep := (next?_eq_some (getElem?_visits_eq_some.mp h).2).1
    have hlt := hgoes.cursor_lt (List.getElem?_eq_some_iff.mp hstep).1 hfinal
    omega
  · exact hhalts

end Machine

/-- **What ends a run.** Every step that a call takes but the last goes on: it succeeded without
asking for the end, or it faulted and the flag was up when its block was done. A step that reports
an error, one that faults with the flag down and one that asks for the end are the last ones taken,
and none of them jumps, whatever else it asks for. A call that comes to its end at any step but the
final one of the list was ended by such a step. Missing inputs are a fault like any other. -/
theorem halting_discipline (p : Pipeline) (moves : Nat) (input initial : Record) {k : Nat}
    {v : Visit} (hvisit : (p.visits moves input initial)[k]? = some v) :
    let count := (p.visits moves input initial).length
    let ended := Machine.run p.steps moves (p.machine input initial)
    (k + 1 < count → v.GoesOn) ∧
    (v.Halts → count = k + 1 ∧ ∀ target, v.motion p.steps ≠ .back target) ∧
    (ended.finished p.steps = true → count = k + 1 → v.index + 1 ≠ p.steps.length → v.Halts) ∧
    (v.step.block.inputs.missing v.inputs ≠ [] →
      (∃ f, v.outcome = .fault f) ∧ v.isExcused = v.before.context.isOn continueOnError) := by
  intro count ended
  refine ⟨?_, ?_, ?_, ?_⟩
  · intro hmore
    rcases v.goesOn_or_halts with hgoes | hhalts
    · exact hgoes
    · have hlast : count = k + 1 := Machine.length_visits_of_halts hvisit hhalts
      omega
  · intro hhalts
    refine ⟨Machine.length_visits_of_halts hvisit hhalts, fun target => ?_⟩
    rw [hhalts.motion_eq p.steps]
    simp
  · intro hover hlast hfinal
    exact Machine.halts_of_last hover hvisit hlast hfinal
  · exact Visit.fault_of_missing

/-- A step that misses its input, one that asks for the end and for a jump, and a pause. -/
def faultThenEnd : Pipeline where
  steps := [
    { id := "parse", block := Blocks.jsonParser, input := some (.record []) },
    { id := "end", input := some (.record []), block := Blocks.fixed [("output", .obj [
        ("_loopTo", .nat 0), ("_terminate", .bool true)])] },
    { id := "pause", block := Blocks.delay }]

/-- With the flag up the fault is passed over, and the second step ends the run for good. -/
theorem faultThenEnd_halts :
    ∃ first second, (faultThenEnd.visits 3 [] [("continueOnError", .bool true)])[0]? = some first ∧
      (faultThenEnd.visits 3 [] [("continueOnError", .bool true)])[1]? = some second ∧
      first.GoesOn ∧ second.Halts ∧
      (faultThenEnd.visits 3 [] [("continueOnError", .bool true)]).length = 2 := by
  refine ⟨_, _, rfl, rfl, ?_⟩
  obtain ⟨hgoes, -⟩ :=
    halting_discipline faultThenEnd 3 [] [("continueOnError", .bool true)] (k := 0) rfl
  obtain ⟨-, -, hhalts, -⟩ :=
    halting_discipline faultThenEnd 3 [] [("continueOnError", .bool true)] (k := 1) rfl
  exact ⟨hgoes (by decide), hhalts rfl rfl (by decide), rfl⟩

end StepPipeline
