import StepPipeline.Run.Pipeline

/-!
# What taking a step does

A visit is one execution of a step: the state before it, the cursor, and the step. Everything a
step can do is said here once, so that no later proof opens `State.takeStep`:

* `taken_of_fault`, `taken_of_softError`, `taken_of_success`: the state and the motion after each
  outcome;
* `result` and `summary_after`, `bus_after`: what the step leaves in the reports;
* `context_after`: the context changes by what the block writes and, when the cursor jumps back,
  by one count of one counter.
-/

namespace StepPipeline

/-- Storing an output writes slots and nothing else. -/
theorem Step.store_frame (step : Step) (bus : DataBus) (output : Record) :
    (step.store bus output).steps = bus.steps ∧
      (step.store bus output).lastError = bus.lastError := by
  unfold Step.store
  split
  · exact ⟨rfl, rfl⟩
  · split
    · next slots hout =>
      -- Induction on the mapping; each field that the output has is one write of a slot.
      clear hout
      induction slots generalizing bus with
      | nil => exact ⟨rfl, rfl⟩
      | cons e rest ih =>
          rw [List.foldl_cons]
          split
          · exact ih _
          · exact ih _
    · exact ⟨rfl, rfl⟩
    · exact ⟨rfl, rfl⟩

namespace State

variable {s : State} {index : Nat} {step : Step}

theorem call_of_complete (h : step.block.inputs.missing (step.gather s.scope) = []) :
    let answer := step.block.process (s.callsOf index) (step.gather s.scope) s.context
    s.call index step =
      ({ s.countCall index with context := answer.context }, .ofResult answer.result) := by
  simp only [call, h]

theorem call_of_missing (h : step.block.inputs.missing (step.gather s.scope) ≠ []) :
    s.call index step =
      (s, .fault (.missingInputs step.id (step.block.inputs.missing (step.gather s.scope)))) := by
  simp only [call]

/-- Counting a call changes no other count, although the list of counts may have to grow for it. -/
theorem callsOf_countCall (s : State) (index i : Nat) :
    (s.countCall index).callsOf i = s.callsOf i + if i = index then 1 else 0 := by
  -- Zeros at the end of the list of counts are as good as no entries.
  have hpadded : ∀ i : Nat, (s.calls ++ List.replicate (index + 1 - s.calls.length) 0)[i]?.getD 0 =
      s.calls[i]?.getD 0 := by
    intro i
    rw [List.getElem?_append]
    split
    · rfl
    · rw [List.getElem?_eq_none (by omega : s.calls.length ≤ i), List.getElem?_replicate]
      split <;> rfl
  unfold countCall callsOf
  simp only [List.getD_eq_getElem?_getD, List.getElem?_modify]
  rw [← hpadded i]
  by_cases hi : i = index
  · subst hi
    have hlt : i < (s.calls ++ List.replicate (i + 1 - s.calls.length) 0).length := by
      simp only [List.length_append, List.length_replicate]
      omega
    rw [List.getElem?_eq_getElem hlt]
    simp
  · simp [hi, Ne.symm hi]

end State

/-- One execution of a step. -/
structure Visit where
  before : State
  index : Nat
  step : Step

namespace Visit

variable (steps : List Step) (v : Visit)

def inputs : Record := v.step.gather v.before.scope

def called : State × Outcome :=
  (v.before.emit (.stepStarted v.step.id v.step.block.type v.index)).call v.index v.step

def outcome : Outcome := v.called.2

def taken : State × Motion := v.before.takeStep steps v.index v.step

def after : State := (v.taken steps).1

def motion : Motion := (v.taken steps).2

/-- The error that an outcome counts as; none for a success. -/
def error? : Option String :=
  match v.outcome with
  | .success _ => none
  | .softError _ message => some message
  | .fault f => some f.message

def result : StepResult := ⟨v.step.id, v.error?.isNone, v.error?⟩

/-! ## The call of the block -/

/-- The answer of the block to its inputs, if it is called. -/
def answer : Answer :=
  v.step.block.process (v.before.callsOf v.index) v.inputs v.before.context

/-- A block whose required inputs are there is called once. -/
theorem called_of_complete (h : v.step.block.inputs.missing v.inputs = []) :
    v.outcome = .ofResult v.answer.result ∧ v.called.1.context = v.answer.context ∧
      v.called.1.bus = v.before.bus ∧ v.called.1.summary = v.before.summary := by
  unfold outcome called
  rw [State.call_of_complete (s := v.before.emit _) h]
  exact ⟨rfl, rfl, rfl, rfl⟩

theorem calls_called_of_complete (h : v.step.block.inputs.missing v.inputs = []) :
    v.called.1.calls = (v.before.countCall v.index).calls := by
  unfold called
  rw [State.call_of_complete (s := v.before.emit _) h]
  rfl

/-- A block that misses inputs is not called. -/
theorem called_of_missing (h : v.step.block.inputs.missing v.inputs ≠ []) :
    v.outcome = .fault (.missingInputs v.step.id (v.step.block.inputs.missing v.inputs)) ∧
      v.called.1.context = v.before.context ∧ v.called.1.bus = v.before.bus ∧
      v.called.1.summary = v.before.summary := by
  unfold outcome called
  rw [State.call_of_missing (s := v.before.emit _) h]
  exact ⟨rfl, rfl, rfl, rfl⟩

/-- A success is the answer of the block, and reports no error. -/
theorem answer_of_success {output : Record} (h : v.outcome = .success output) :
    v.answer.result = .ok output ∧ reportedError? output = none := by
  by_cases hmissing : v.step.block.inputs.missing v.inputs = []
  · rw [(v.called_of_complete hmissing).1] at h
    unfold Outcome.ofResult at h
    split at h
    · cases h
    · next found hresult =>
      split at h
      · cases h
      · next herror =>
        cases h
        exact ⟨hresult, herror⟩
  · rw [(v.called_of_missing hmissing).1] at h
    cases h

/-- A fault is the answer of the block, unless the block misses inputs. -/
theorem answer_of_fault {f : Fault} (h : v.outcome = .fault f) :
    (v.step.block.inputs.missing v.inputs ≠ [] ∧
      f = .missingInputs v.step.id (v.step.block.inputs.missing v.inputs)) ∨
    (v.step.block.inputs.missing v.inputs = [] ∧ v.answer.result = .error f) := by
  by_cases hmissing : v.step.block.inputs.missing v.inputs = []
  · rw [(v.called_of_complete hmissing).1] at h
    unfold Outcome.ofResult at h
    split at h
    · next g hresult =>
      obtain rfl := Outcome.fault.inj h
      exact .inr ⟨hmissing, hresult⟩
    · split at h <;> cases h
  · rw [(v.called_of_missing hmissing).1] at h
    exact .inl ⟨hmissing, (Outcome.fault.inj h).symm⟩

/-- The call leaves the data bus and the summary alone. -/
theorem called_frame :
    v.called.1.bus = v.before.bus ∧ v.called.1.summary = v.before.summary := by
  -- Both kinds of call hand these two parts on.
  by_cases h : v.step.block.inputs.missing v.inputs = []
  · exact (v.called_of_complete h).2.2
  · exact (v.called_of_missing h).2.2

/-- Neither does storing the output touch what the bus knows about the steps. -/
theorem stored_frame (output : Record) :
    (v.step.store v.called.1.bus output).steps = v.before.bus.steps ∧
      (v.step.store v.called.1.bus output).lastError = v.before.bus.lastError := by
  rw [← v.called_frame.1]
  exact v.step.store_frame v.called.1.bus output

/-- The call leaves the context to the block. -/
theorem called_context :
    v.called.1.context = v.before.context ∨ v.called.1.context = v.answer.context := by
  by_cases h : v.step.block.inputs.missing v.inputs = []
  · exact .inr (v.called_of_complete h).2.1
  · exact .inl (v.called_of_missing h).2.1

end Visit

/-! ## Steering -/

namespace State

variable (steps : List Step) (index : Nat) (id : String) (output : Record) (s : State)

/-- Steering leaves the data bus and the summary alone. -/
theorem steer_frame : (s.steer steps index id output).1.bus = s.bus ∧
    (s.steer steps index id output).1.summary = s.summary := by
  unfold steer
  split
  · exact ⟨rfl, rfl⟩
  · split
    · unfold jump
      split <;> exact ⟨rfl, rfl⟩
    · exact ⟨rfl, rfl⟩

/-- Steering calls no block. -/
theorem calls_steer : (s.steer steps index id output).1.calls = s.calls := by
  unfold steer
  split
  · rfl
  · split
    · unfold jump
      split <;> rfl
    · rfl

/-- Either the cursor does not jump and the context stays, or it jumps back to the target that the
output asks for, whose counter was below the cap and goes up by one. -/
theorem steer_context :
    ((s.steer steps index id output).1.context = s.context ∧
      ∀ target, (s.steer steps index id output).2 ≠ .back target) ∨
    ∃ key target, asksForEnd output = false ∧ jumpAsked? steps index output = some (key, target) ∧
      (s.context.jumpCount key).toNat < loopCap output ∧
      (s.steer steps index id output).1.context = s.context.countJump key ∧
      (s.steer steps index id output).2 = .back target := by
  unfold steer
  split
  · exact .inl ⟨rfl, by simp⟩
  · next hend =>
    split
    · next key target hasked =>
      unfold jump
      split
      · next hlt => exact .inr ⟨key, target, by simpa using hend, hasked, hlt, rfl, rfl⟩
      · exact .inl ⟨rfl, by simp⟩
    · exact .inl ⟨rfl, by simp⟩

end State

/-! ## The outcomes -/

namespace Visit

variable {steps : List Step} {v : Visit}

/-- After a fault nothing is stored, and only the flag that excuses faults lets the run go on. -/
theorem taken_of_fault {f : Fault} (h : v.outcome = .fault f) :
    v.taken steps = (v.called.1.fail v.step.id f.message false,
      if v.called.1.context.isOn continueOnError then .onward else .stop) := by
  show v.called.1.settle steps v.index v.step v.outcome = _
  rw [h]
  rfl

/-- An output that reports an error is stored all the same, and ends the run. -/
theorem taken_of_softError {output : Record} {message : String}
    (h : v.outcome = .softError output message) :
    v.taken steps = ((v.called.1.store v.step output).fail v.step.id message true, .stop) := by
  show v.called.1.settle steps v.index v.step v.outcome = _
  rw [h]
  rfl

/-- Only a success is asked where to go on. -/
theorem taken_of_success {output : Record} (h : v.outcome = .success output) :
    v.taken steps = ((v.called.1.store v.step output).succeed v.step.id).steer steps v.index
      v.step.id output := by
  show v.called.1.settle steps v.index v.step v.outcome = _
  rw [h]
  rfl

variable (steps v)

/-- The summary gets one more line, and its counts follow. -/
theorem summary_after : (v.after steps).summary =
    match v.error? with
    | none => v.before.summary.addSuccess v.step.id
    | some message => v.before.summary.addFailure v.step.id message := by
  unfold after error?
  cases h : v.outcome with
  | success output =>
      rw [taken_of_success h, (State.steer_frame ..).2]
      exact congrArg (Summary.addSuccess · v.step.id) v.called_frame.2
  | softError output message =>
      rw [taken_of_softError h]
      exact congrArg (Summary.addFailure · v.step.id message) v.called_frame.2
  | fault f =>
      rw [taken_of_fault h]
      exact congrArg (Summary.addFailure · v.step.id f.message) v.called_frame.2

/-- What the bus knows about the steps: how this one went, and the error if it failed. -/
theorem bus_after :
    (v.after steps).bus.steps = Table.insert v.before.bus.steps v.step.id
      ⟨v.error?.isNone, v.error?, 0⟩ ∧
    (v.after steps).bus.lastError = (v.error? <|> v.before.bus.lastError) := by
  unfold after error?
  cases h : v.outcome with
  | success output =>
      rw [taken_of_success h, (State.steer_frame ..).1]
      obtain ⟨hsteps, herror⟩ := v.stored_frame output
      refine ⟨?_, herror⟩
      show Table.insert (v.step.store v.called.1.bus output).steps v.step.id (.ofSuccess 0) = _
      rw [hsteps]
      rfl
  | softError output message =>
      rw [taken_of_softError h]
      refine ⟨?_, rfl⟩
      show Table.insert (v.step.store v.called.1.bus output).steps v.step.id
        (.ofFailure 0 message) = _
      rw [(v.stored_frame output).1]
      rfl
  | fault f =>
      rw [taken_of_fault h]
      refine ⟨?_, rfl⟩
      show Table.insert v.called.1.bus.steps v.step.id (.ofFailure 0 f.message) = _
      rw [v.called_frame.1]
      rfl

/-- Blocks are called by the call alone. -/
theorem calls_after : (v.after steps).calls = v.called.1.calls := by
  unfold after
  cases h : v.outcome with
  | success output =>
      rw [taken_of_success h, State.calls_steer]
      rfl
  | softError output message =>
      rw [taken_of_softError h]
      rfl
  | fault f =>
      rw [taken_of_fault h]
      rfl

/-- The context after the step is the one that the block leaves, unless the cursor jumps back: then
one counter, which was below the cap, goes up by one. -/
theorem context_after :
    ((v.after steps).context = v.called.1.context ∧ ∀ target, v.motion steps ≠ .back target) ∨
    ∃ output key target, v.outcome = .success output ∧ asksForEnd output = false ∧
      jumpAsked? steps v.index output = some (key, target) ∧
      (v.called.1.context.jumpCount key).toNat < loopCap output ∧
      (v.after steps).context = v.called.1.context.countJump key ∧
      v.motion steps = .back target := by
  unfold after motion
  cases h : v.outcome with
  | success output =>
      rw [taken_of_success h]
      -- Storing and reporting leave the context alone, so what steering says of it carries over.
      rcases State.steer_context steps v.index v.step.id output
        ((v.called.1.store v.step output).succeed v.step.id) with hstay | ⟨key, target, hjump⟩
      · exact .inl hstay
      · exact .inr ⟨output, key, target, rfl, hjump⟩
  | softError output message =>
      rw [taken_of_softError h]
      exact .inl ⟨rfl, by simp⟩
  | fault f =>
      rw [taken_of_fault h]
      refine .inl ⟨rfl, ?_⟩
      intro target
      dsimp only
      split <;> simp

end Visit
end StepPipeline
