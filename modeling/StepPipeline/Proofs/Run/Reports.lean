import StepPipeline.Blocks.Parsing
import StepPipeline.Proofs.Document.Building
import StepPipeline.Proofs.Run.Visits
import StepPipeline.Suite.Running

/-!
# The reports of a run agree

How a step went is told four times: by the counts of the summary, by its results, by the data bus
for each id, and by the latest error. The results are the one that all others are read off:

* `Summary.Agrees`: the counts are those of the results;
* `DataBus.Remembers`: of a list of results, the bus holds the last one of each id, and the error of
  the last failure.

A visit adds its result to all four (`agrees_after`, `remembers_after`), so both go through a run
and, since the bus is kept, through any number of calls. Main statement: `reports_agree`.
-/

namespace StepPipeline

/-! ## The summary -/

/-- The counts of a summary are those of its results, and a result has an error if it failed. -/
structure Summary.Agrees (s : Summary) : Prop where
  executed : s.executed = s.results.length
  succeeded : s.succeeded = s.results.countP StepResult.success
  failed : s.failed = s.results.countP fun r => !r.success
  hadError : s.hadError = s.results.any fun r => !r.success
  error : ∀ r ∈ s.results, r.error.isSome = !r.success

namespace Summary

variable {s : Summary}

theorem agrees_fresh (total : Nat) : ({ total := total } : Summary).Agrees :=
  ⟨rfl, rfl, rfl, rfl, by simp⟩

/-- A summary goes on to agree when it gets one more result and counts it. -/
theorem Agrees.append (h : s.Agrees) {s' : Summary} (r : StepResult)
    (herror : r.error.isSome = !r.success) (hresults : s'.results = s.results ++ [r])
    (hexecuted : s'.executed = s.executed + 1)
    (hsucceeded : s'.succeeded = s.succeeded + if r.success then 1 else 0)
    (hfailed : s'.failed = s.failed + if r.success then 0 else 1)
    (hhadError : s'.hadError = (s.hadError || !r.success)) : s'.Agrees := by
  constructor
  · rw [hexecuted, hresults, List.length_append, h.executed]
    rfl
  · rw [hsucceeded, hresults, List.countP_append, h.succeeded, List.countP_singleton]
  · rw [hfailed, hresults, List.countP_append, h.failed, List.countP_singleton]
    cases r.success <;> rfl
  · rw [hhadError, hresults, List.any_append, h.hadError]
    simp
  · rw [hresults]
    intro q hq
    rcases List.mem_append.mp hq with hq | hq
    · exact h.error q hq
    · obtain rfl := List.mem_singleton.mp hq
      exact herror

theorem Agrees.addSuccess (h : s.Agrees) (id : String) : (s.addSuccess id).Agrees :=
  h.append ⟨id, true, none⟩ rfl rfl rfl rfl rfl (Bool.or_false _).symm

theorem Agrees.addFailure (h : s.Agrees) (id error : String) : (s.addFailure id error).Agrees :=
  h.append ⟨id, false, some error⟩ rfl rfl rfl rfl rfl (Bool.or_true _).symm

/-- Every result is a success or a failure. -/
theorem Agrees.executed_eq (h : s.Agrees) : s.executed = s.succeeded + s.failed := by
  rw [h.executed, h.succeeded, h.failed, List.length_eq_countP_add_countP StepResult.success]
  simp

/-- The two ways to ask a summary for success. -/
theorem Agrees.failed_eq_zero_iff (h : s.Agrees) : s.failed = 0 ↔ s.hadError = false := by
  rw [h.failed, h.hadError, List.countP_eq_zero, List.any_eq_false]

end Summary

/-! ## The data bus -/

def lastResult? (history : List StepResult) (id : String) : Option StepResult :=
  history.reverse.find? fun r => r.id == id

def lastFailure? (history : List StepResult) : Option StepResult :=
  history.reverse.find? fun r => !r.success

/-- The bus holds how the last execution of every step went, and the latest error. -/
structure DataBus.Remembers (b : DataBus) (history : List StepResult) : Prop where
  lastRun : ∀ id, (b.lastRun? id).map (fun m => (m.success, m.error)) =
    (lastResult? history id).map fun r => (r.success, r.error)
  lastError : b.lastError = (lastFailure? history).bind StepResult.error

/-- A bus that no step has reported to remembers the empty list of results. -/
theorem remembers_nil {b : DataBus} (hsteps : b.steps = []) (herror : b.lastError = none) :
    b.Remembers [] := by
  refine ⟨fun id => ?_, herror⟩
  rw [DataBus.lastRun?, hsteps]
  rfl

theorem lastResult?_append (history : List StepResult) (r : StepResult) (id : String) :
    lastResult? (history ++ [r]) id = if id = r.id then some r else lastResult? history id := by
  unfold lastResult?
  rw [List.reverse_append, List.reverse_singleton, List.singleton_append, List.find?_cons]
  -- The list is searched from its end, where the new result stands.
  by_cases h : r.id = id
  · rw [if_pos h.symm, beq_iff_eq.mpr h]
  · rw [if_neg (Ne.symm h), beq_eq_false_iff_ne.mpr h]

/-- A success does not make an earlier failure be forgotten. -/
theorem lastFailure?_append (history : List StepResult) (r : StepResult) :
    lastFailure? (history ++ [r]) = if r.success then lastFailure? history else some r := by
  unfold lastFailure?
  rw [List.reverse_append, List.reverse_singleton, List.singleton_append, List.find?_cons]
  cases r.success <;> rfl

/-! ## One visit -/

namespace Visit

variable (steps : List Step) (v : Visit)

/-- Whatever the outcome, a visit adds one line to the report. -/
theorem results_after :
    (v.after steps).summary.results = v.before.summary.results ++ [v.result] := by
  rw [summary_after, result]
  cases v.error? <;> rfl

/-- A visit keeps the summary in agreement, since it counts what it reports. -/
theorem agrees_after (h : v.before.summary.Agrees) : (v.after steps).summary.Agrees := by
  rw [summary_after]
  cases v.error? with
  | none => exact h.addSuccess _
  | some message => exact h.addFailure _ _

/-- What the bus is told of a visit is its result, so one more result is remembered. -/
theorem remembers_after {history : List StepResult} (h : v.before.bus.Remembers history) :
    (v.after steps).bus.Remembers (history ++ [v.result]) := by
  obtain ⟨hsteps, herror⟩ := v.bus_after steps
  constructor
  · intro id
    rw [DataBus.lastRun?, hsteps, Table.find?_insert, lastResult?_append,
      show v.result.id = v.step.id from rfl]
    split
    · rfl
    · exact h.lastRun id
  · rw [herror, lastFailure?_append, h.lastError, result]
    cases v.error? <;> rfl

end Visit

/-! ## One call -/

namespace Pipeline

variable {p : Pipeline} {moves : Nat} {input initial : Record}

/-- A call reports one result for each visit. -/
theorem results_runFor : (p.runFor moves input initial).1.state.summary.results =
    (p.visits moves input initial).map Visit.result := by
  have h : ∀ m : Machine, (Machine.run p.steps moves m).state.summary.results =
      m.state.summary.results ++ (Machine.visits p.steps moves m).map Visit.result := by
    -- Stated for every machine, since each visit leaves another one to the rest of the run.
    induction moves with
    | zero => simp
    | succ moves ih =>
        intro m
        cases hnext : m.next? p.steps with
        | none =>
            rw [Machine.run_of_finished (Machine.finished_iff.mpr hnext),
              Machine.visits_succ_of_none hnext]
            simp
        | some v =>
            rw [Machine.run_succ, ih, Machine.visits_succ_of_some hnext,
              Machine.advance_of_next? hnext]
            rw [v.results_after, (Machine.next?_eq_some hnext).2.1]
            simp
  exact h (p.machine input initial)

/-- A call begins with a fresh summary, so no earlier one matters. -/
theorem agrees_runFor : (p.runFor moves input initial).1.state.summary.Agrees := by
  refine Machine.run_invariant (P := fun m => m.state.summary.Agrees) ?_ ?_ moves
  · exact Summary.agrees_fresh p.steps.length
  · intro m v hnext h
    rw [Machine.advance_of_next? hnext]
    exact v.agrees_after p.steps ((Machine.next?_eq_some hnext).2.1 ▸ h)

/-- What the bus remembers is kept from call to call. -/
theorem remembers_runFor {past : List StepResult} (h : p.state.bus.Remembers past) :
    (p.runFor moves input initial).1.state.bus.Remembers
      (past ++ (p.runFor moves input initial).1.state.summary.results) := by
  refine Machine.run_invariant
    (P := fun m => m.state.bus.Remembers (past ++ m.state.summary.results)) ?_ ?_ moves
  · -- A call begins without results and writes a slot, which is no memory.
    show (p.start input initial).bus.Remembers (past ++ [])
    rw [List.append_nil]
    exact ⟨h.lastRun, h.lastError⟩
  · intro m v hnext hm
    obtain ⟨-, hbefore, -⟩ := Machine.next?_eq_some hnext
    rw [Machine.advance_of_next? hnext]
    show (v.after p.steps).bus.Remembers (past ++ (v.after p.steps).summary.results)
    rw [v.results_after, ← List.append_assoc]
    exact v.remembers_after p.steps (hbefore ▸ hm)

/-- Induction on the calls; what one remembers is what the next one begins with. -/
theorem remembers_callAll {past : List StepResult} (h : p.state.bus.Remembers past)
    (calls : List Call) :
    (p.callAll calls).state.bus.Remembers (past ++ p.history calls) := by
  induction calls generalizing p past with
  | nil =>
      rw [history, List.append_nil]
      exact h
  | cons c rest ih =>
      rw [history, ← List.append_assoc]
      exact ih (remembers_runFor h)

end Pipeline

/-! ## All reports -/

/-- A failure among the results is an error of the last failure, and the other way round. -/
theorem Summary.Agrees.isSome_lastFailure? {s : Summary} (h : s.Agrees) :
    ((lastFailure? s.results).bind StepResult.error).isSome = s.hadError := by
  rw [h.hadError, ← List.any_reverse, ← List.isSome_find?, lastFailure?]
  cases hfound : s.results.reverse.find? fun r => !r.success with
  | none => rfl
  | some r =>
      have hmem : r ∈ s.results := List.mem_reverse.mp (List.mem_of_find?_eq_some hfound)
      have hfailed : (!r.success) = true :=
        List.find?_some (p := fun r : StepResult => !r.success) hfound
      rw [Option.bind_some, h.error r hmem, hfailed]
      rfl

/-- A call on a bus that remembers nothing reports an error exactly if it does not succeed. -/
theorem Pipeline.isSome_error_runFor {p : Pipeline} (h : p.state.bus.Remembers []) (moves : Nat)
    (input initial : Record) :
    (p.runFor moves input initial).2.error.isSome =
      !(p.runFor moves input initial).2.success := by
  show (p.runFor moves input initial).1.state.bus.lastError.isSome =
    !!(p.runFor moves input initial).1.state.summary.hadError
  rw [(Pipeline.remembers_runFor h).lastError, List.nil_append,
    Pipeline.agrees_runFor.isSome_lastFailure?, Bool.not_not]

/-- The same for a run that is not cut off. -/
theorem Pipeline.isSome_error_run {p : Pipeline} (h : p.state.bus.Remembers [])
    (input initial : Record) :
    (p.run input initial).2.error.isSome = !(p.run input initial).2.success := by
  rw [Pipeline.run]
  exact p.isSome_error_runFor h _ input initial

theorem Part.isSome_error_ofRun {name : String} {done : Pipeline × RunResult}
    (h : done.2.error.isSome = !done.2.success) :
    (Part.ofRun name done).report.error.isSome = !(Part.ofRun name done).report.success :=
  h

namespace Workbench

variable (b : Workbench) (name : String) (steps : List StepDescription) (input context : Record)

/-- A part whose pipeline is built reports what its run does. -/
theorem runPart_of_build {p : Pipeline}
    (h : b.build (partDocument name steps context) = .ok p) :
    b.runPart name steps input context = .ofRun name (p.run input []) := by
  unfold runPart
  rw [h]

/-- A part of a suite reports an error exactly if it does not succeed. -/
theorem isSome_error_runPart : (b.runPart name steps input context).report.error.isSome =
    !(b.runPart name steps input context).report.success := by
  cases hbuild : b.build (partDocument name steps context) with
  | error f =>
      unfold runPart
      rw [hbuild]
      rfl
  | ok p =>
      rw [b.runPart_of_build name steps input context hbuild]
      refine Part.isSome_error_ofRun (p.isSome_error_run ?_ input [])
      -- A pipeline that was just built has an empty bus.
      rw [(build_eq_ok hbuild).2.2]
      exact remembers_nil rfl rfl

/-- A setup that fails has a reason of its own. -/
theorem setupError?_runSetup (suite : Suite) :
    setupError? (b.runSetup suite) = (b.runSetup suite).bind fun part => part.report.error := by
  unfold runSetup
  split
  · rfl
  · have hpart := b.isSome_error_runPart "setup" suite.setup [] suite.context
    generalize b.runPart "setup" suite.setup [] suite.context = part at hpart
    show (if part.report.success then none else some (part.report.error.getD _)) =
      part.report.error
    cases hsuccess : part.report.success with
    | true =>
        rw [hsuccess] at hpart
        exact (Option.isNone_iff_eq_none.mp (by simpa using hpart)).symm
    | false =>
        rw [hsuccess] at hpart
        obtain ⟨error, herror⟩ := Option.isSome_iff_exists.mp hpart
        rw [herror]
        rfl

end Workbench

/-- **The reports of a run agree.** However often a pipeline is called that begins with an empty
bus, after each call the counts and the success are those of the call's own results, one for each
step that was taken; of all results so far the bus holds the last one of each id, and the error is
the one of the last failure. So after one call there is an error exactly without success, and a
setup that fails always has a reason of its own. -/
theorem reports_agree (p : Pipeline) (hbus : p.state.bus = {}) (earlier : List Call) (c : Call) :
    let before := p.callAll earlier
    let summary := (before.call c).1.state.summary
    let result := (before.call c).2
    let history := p.history (earlier ++ [c])
    summary.results = (before.visits c.moves c.input c.initial).map Visit.result ∧
    summary.executed = summary.results.length ∧
    summary.executed = summary.succeeded + summary.failed ∧
    summary.succeeded = summary.results.countP StepResult.success ∧
    (summary.failed = summary.results.countP fun r => !r.success) ∧
    (∀ r ∈ summary.results, r.error.isSome = !r.success) ∧
    (result.success = !summary.hadError) ∧
    (result.success = true ↔ summary.failed = 0) ∧
    (∀ id, ((before.call c).1.state.bus.lastRun? id).map (fun m => (m.success, m.error)) =
      (lastResult? history id).map fun r => (r.success, r.error)) ∧
    result.error = (lastFailure? history).bind StepResult.error ∧
    (earlier = [] → result.error.isSome = !result.success) ∧
    ∀ (b : Workbench) (suite : Suite),
      Workbench.setupError? (b.runSetup suite) = (b.runSetup suite).bind fun part =>
        part.report.error := by
  intro before summary result history
  have hagrees : summary.Agrees := Pipeline.agrees_runFor
  have hempty : p.state.bus.Remembers [] := by
    rw [hbus]
    exact remembers_nil rfl rfl
  have hremembers : (before.call c).1.state.bus.Remembers history := by
    -- The results of the last call come behind those of the earlier ones.
    have hhistory : history = p.history earlier ++ summary.results := by
      show p.history (earlier ++ [c]) = _
      rw [Pipeline.history_append, Pipeline.history, Pipeline.history, List.append_nil]
    rw [hhistory]
    exact Pipeline.remembers_runFor (Pipeline.remembers_callAll hempty earlier)
  refine ⟨Pipeline.results_runFor, hagrees.executed, hagrees.executed_eq, hagrees.succeeded,
    hagrees.failed, hagrees.error, rfl, ?_, hremembers.lastRun, hremembers.lastError, ?_, ?_⟩
  · rw [hagrees.failed_eq_zero_iff]
    show (!summary.hadError) = true ↔ _
    rw [Bool.not_eq_true']
  · rintro rfl
    exact p.isSome_error_runFor hempty c.moves c.input c.initial
  · exact fun b suite => b.setupError?_runSetup suite

def parseBody : Pipeline where
  steps := [{ id := "parse", block := Blocks.jsonParser, input := some (.source "input" none) }]

/-- Called without a body and then with one, it succeeds and still holds the earlier error. -/
theorem parseBody_reports_agree :
    parseBody.state.bus = {} ∧
    ((parseBody.callAll [⟨1, [], []⟩]).call ⟨1, [("body", .bool true)], []⟩).2.success = true ∧
    ((parseBody.callAll [⟨1, [], []⟩]).call ⟨1, [("body", .bool true)], []⟩).2.error =
      some (Fault.missingInputs "parse" ["body"]).message := by
  obtain ⟨-, -, -, -, -, -, hsuccess, -, -, herror, -⟩ :=
    reports_agree parseBody rfl [⟨1, [], []⟩] ⟨1, [("body", .bool true)], []⟩
  exact ⟨rfl, hsuccess.trans rfl, herror.trans rfl⟩

end StepPipeline
