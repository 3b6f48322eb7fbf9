import StepPipeline.Blocks.Assertion
import StepPipeline.Proofs.Run.Reports
import StepPipeline.Proofs.Store.Names

/-!
# Failed assertions

An `assert` decides all its conditions and, if some do not hold, reports an error. A reported error
ends the run, so a failed assertion is the last step, and the run fails. The exception is a custom
message that is the empty text: an empty error counts as none, the step is a success although its
output says that it did not pass, and the run goes on. Main statement: `failed_assertion`.
-/

namespace StepPipeline

/-! ## The block -/

namespace Condition

/-- Whether a condition is decided, and does not hold. -/
def isRefuted (data : Json) (c : Condition) : Bool := c.holds data matches .ok false

variable {data : Json} {c : Condition}

/-- An undecided condition is not refuted: its fault is the answer of the block. -/
theorem isRefuted_iff : c.isRefuted data = true ↔ c.holds data = .ok false := by
  unfold isRefuted
  split
  · next h => simp [h]
  · next h => simpa using h

end Condition

namespace Blocks

variable {data : Json}

/-- If all conditions are decided, those that do not hold are listed in order. -/
theorem failing_of_decided {cs : List Condition}
    (h : ∀ c ∈ cs, ∃ holds, c.holds data = .ok holds) :
    failing data cs = .ok (cs.filter (Condition.isRefuted data)) := by
  -- Induction on the conditions, as the block goes through them.
  induction cs with
  | nil => rfl
  | cons c rest ih =>
      obtain ⟨hc, hrest⟩ := List.forall_mem_cons.mp h
      obtain ⟨holds, hholds⟩ := hc
      have hrefuted : c.isRefuted data = !holds := by
        rw [Condition.isRefuted, hholds]
        cases holds <;> rfl
      rw [failing, hholds, ih hrest, List.filter_cons, hrefuted]
      cases holds <;> rfl

/-- An assertion whose conditions were decided gives its verdict. -/
theorem process_assertion {inputs : Record} {raw : Json} {cs failed : List Condition}
    (hdata : Table.find? inputs "data" = some data)
    (hraw : Table.find? inputs "conditions" = some raw) (hread : Condition.readAll raw = .ok cs)
    (hfailing : failing data cs = .ok failed) (calls : Nat) (context : Context) :
    (assertion.process calls inputs context).result =
      .ok (verdict inputs data failed cs.length) := by
  simp only [assertion, Block.reading, Block.required, hdata, hraw]
  show (Condition.readAll raw >>= fun cs =>
    failing data cs >>= fun failed => pure (verdict inputs data failed cs.length)) = _
  rw [hread]
  show (failing data cs >>= fun failed => pure (verdict inputs data failed cs.length)) = _
  rw [hfailing]
  rfl

/-- Needed to know that the engine calls the block. -/
theorem missing_assertion {inputs : Record} {raw : Json}
    (hdata : Table.find? inputs "data" = some data)
    (hraw : Table.find? inputs "conditions" = some raw) :
    assertion.inputs.missing inputs = [] := by
  simp [assertion, Block.reading, InputNames.missing, Table.contains, hdata, hraw]

variable {inputs : Record} {failed : List Condition} {total : Nat}

/-- The verdict on a failed assertion reports an error, unless the error is the empty text. -/
theorem reportedError?_verdict (h : failed ≠ []) :
    reportedError? (verdict inputs data failed total) =
      if assertionError inputs failed.length total = "" then none
      else some (assertionError inputs failed.length total) := by
  have hempty : failed.isEmpty = false := by simpa using h
  unfold reportedError? verdict
  rw [hempty]
  show (((some (Json.str _)).filter Json.truthy).map Json.toText) = _
  split
  · next hmessage => simp [Option.filter, Json.truthy, hmessage]
  · next hmessage => simp [Option.filter, Json.truthy, hmessage, Json.toText]

/-- A verdict does not steer the run. -/
theorem steer_verdict (steps : List Step) (index : Nat) (id : String) (s : State) :
    s.steer steps index id (verdict inputs data failed total) = (s, .onward) := by
  -- The fields of a verdict are fixed, and neither name is among them.
  have hend : asksForEnd (verdict inputs data failed total) = false := by
    unfold verdict asksForEnd
    cases failed.isEmpty <;> rfl
  have hjump : jumpAsked? steps index (verdict inputs data failed total) = none := by
    unfold verdict jumpAsked?
    cases failed.isEmpty <;> rfl
  unfold State.steer
  rw [hend, hjump]
  rfl

/-- The error of a failed assertion is empty only if that is the custom message. -/
theorem assertionError_eq_empty_iff {count : Nat} : assertionError inputs count total = "" ↔
    Table.find? inputs "message" = some (.str "") := by
  unfold assertionError
  split
  · next message h => simp [h]
  · next h =>
    -- Without a custom message the text at least says how many conditions failed.
    refine iff_of_false ?_ (h "")
    simp [String.append_eq_empty_iff]

end Blocks

/-! ## The visit -/

/-- An executed assertion of which all conditions are decided, and not all hold. -/
structure Visit.Refutes (v : Visit) (data : Json) (cs : List Condition) : Prop where
  block : v.step.block = Blocks.assertion
  receivesData : Table.find? v.inputs "data" = some data
  receivesConditions : ∃ raw, Table.find? v.inputs "conditions" = some raw ∧
    Condition.readAll raw = .ok cs
  decided : ∀ c ∈ cs, ∃ holds, c.holds data = .ok holds
  refuted : ∃ c ∈ cs, c.holds data = .ok false

namespace Visit

variable {v : Visit} {data : Json} {cs : List Condition}

def refutedConditions (data : Json) (cs : List Condition) : List Condition :=
  cs.filter (Condition.isRefuted data)

def refutation (v : Visit) (data : Json) (cs : List Condition) : String :=
  Blocks.assertionError v.inputs (refutedConditions data cs).length cs.length

/-- What the verdict is about: at least one condition is listed. -/
theorem Refutes.refutedConditions_ne_nil (h : v.Refutes data cs) :
    refutedConditions data cs ≠ [] := by
  obtain ⟨c, hc, hfalse⟩ := h.refuted
  exact List.ne_nil_of_mem (List.mem_filter.mpr ⟨hc, Condition.isRefuted_iff.mpr hfalse⟩)

def verdict (v : Visit) (data : Json) (cs : List Condition) : Record :=
  Blocks.verdict v.inputs data (refutedConditions data cs) cs.length

/-- The outcome is the verdict, as the engine counts it. -/
theorem Refutes.outcome_eq (h : v.Refutes data cs) :
    v.outcome = .ofResult (.ok (v.verdict data cs)) := by
  obtain ⟨hblock, hdata, ⟨raw, hraw, hread⟩, hdecided, -⟩ := h
  have hmissing : v.step.block.inputs.missing v.inputs = [] := by
    rw [hblock]
    exact Blocks.missing_assertion hdata hraw
  rw [(v.called_of_complete hmissing).1, answer, hblock]
  apply congrArg Outcome.ofResult
  exact Blocks.process_assertion hdata hraw hread (Blocks.failing_of_decided hdecided) _ _

/-- An error is reported if it is not empty. -/
theorem Refutes.reportedError?_eq (h : v.Refutes data cs) :
    reportedError? (v.verdict data cs) =
      if v.refutation data cs = "" then none else some (v.refutation data cs) :=
  Blocks.reportedError?_verdict h.refutedConditions_ne_nil

/-- With an error to report, a failed assertion fails and stops the run. -/
theorem Refutes.fails (h : v.Refutes data cs)
    (hmessage : Table.find? v.inputs "message" ≠ some (.str "")) (steps : List Step) :
    v.result = ⟨v.step.id, false, some (v.refutation data cs)⟩ ∧ v.motion steps = .stop := by
  have hne : v.refutation data cs ≠ "" := mt Blocks.assertionError_eq_empty_iff.mp hmessage
  have hout : v.outcome = .softError (v.verdict data cs) (v.refutation data cs) := by
    rw [h.outcome_eq, Outcome.ofResult, h.reportedError?_eq, if_neg hne]
  constructor
  · rw [result, error?, hout]
    rfl
  · rw [motion, taken_of_softError hout]

/-- With the empty text for its error, a failed assertion is a success like any other. -/
theorem Refutes.passes (h : v.Refutes data cs)
    (hmessage : Table.find? v.inputs "message" = some (.str "")) (steps : List Step) :
    v.result = ⟨v.step.id, true, none⟩ ∧ v.motion steps = .onward := by
  have hempty : v.refutation data cs = "" := Blocks.assertionError_eq_empty_iff.mpr hmessage
  have hout : v.outcome = .success (v.verdict data cs) := by
    rw [h.outcome_eq, Outcome.ofResult, h.reportedError?_eq, if_pos hempty]
  constructor
  · rw [result, error?, hout]
    rfl
  · rw [motion, taken_of_success hout, verdict, Blocks.steer_verdict]

end Visit

/-! ## The run -/

/-- **A failed assertion fails the run, unless its message is empty.** Let the visit at position
`k` of a call be an assertion that gets data and conditions, all of them decided, and one of them
false. With any custom message but the empty text, and without one, the step is recorded as failed
with its error, no step is taken after it, and the call does not succeed. With the empty text the
step is recorded as a success, and the cursor moves on. -/
theorem failed_assertion (p : Pipeline) (moves : Nat) (input initial : Record) {k : Nat} {v : Visit}
    (hvisit : (p.visits moves input initial)[k]? = some v) {data : Json} {cs : List Condition}
    (hrefutes : v.Refutes data cs) :
    let called := p.runFor moves input initial
    let results := called.1.state.summary.results
    (Table.find? v.inputs "message" ≠ some (.str "") →
      results[k]? = some ⟨v.step.id, false, some (v.refutation data cs)⟩ ∧
      (p.visits moves input initial).length = k + 1 ∧ results.length = k + 1 ∧
      called.2.success = false) ∧
    (Table.find? v.inputs "message" = some (.str "") →
      results[k]? = some ⟨v.step.id, true, none⟩ ∧ v.motion p.steps = .onward) := by
  intro called results
  have hresults : results = (p.visits moves input initial).map Visit.result :=
    Pipeline.results_runFor
  have hresult : results[k]? = some v.result := by
    rw [hresults, List.getElem?_map, hvisit]
    rfl
  constructor
  · intro hmessage
    obtain ⟨hfailure, hstop⟩ := hrefutes.fails hmessage p.steps
    -- The cursor is behind the last step, so there is no further visit.
    have hlength : (p.visits moves input initial).length = k + 1 := by
      apply Machine.visits_end hvisit
      rw [hstop]
      exact Nat.le_refl _
    refine ⟨hfailure ▸ hresult, hlength, ?_, ?_⟩
    · rw [hresults, List.length_map, hlength]
    · show (!called.1.state.summary.hadError) = false
      have hagrees : called.1.state.summary.Agrees := Pipeline.agrees_runFor
      rw [hagrees.hadError, Bool.not_eq_false', List.any_eq_true]
      refine ⟨v.result, List.mem_of_getElem? hresult, ?_⟩
      rw [hfailure]
      rfl
  · intro hmessage
    obtain ⟨hsuccess, honward⟩ := hrefutes.passes hmessage p.steps
    exact ⟨hsuccess ▸ hresult, honward⟩

def failingConfig (message : String) : Record := [
  ("conditions", .arr [.arr [.str "ok", .str "isTrue"]]),
  ("data", .obj [("ok", .bool false)]),
  ("message", .str message)]

def failingCheck (message : String) : Step where
  id := "check"
  block := Blocks.assertion
  input := some (.record [])
  config := some (failingConfig message)

def checkThenPause (message : String) : Pipeline where
  steps := [failingCheck message, { id := "pause", block := Blocks.delay }]

def checkVisit (message : String) : Visit :=
  ⟨(checkThenPause message).start [] [], 0, failingCheck message⟩

theorem visits_checkThenPause (message : String) :
    ((checkThenPause message).visits 2 [] [])[0]? = some (checkVisit message) := rfl

theorem find?_inputs_checkVisit (message key : String) :
    Table.find? (checkVisit message).inputs key = Table.find? (failingConfig message) key := by
  have hnames : Table.NamesOnce (failingConfig message) := by
    simp [failingConfig, Table.NamesOnce, Table.keys]
  show Table.find? (Table.overlay [] (failingConfig message)) key = _
  rw [Table.find?_overlay _ hnames, Table.find?_nil, Option.or_none]

theorem refutes_checkVisit (message : String) :
    (checkVisit message).Refutes (.obj [("ok", .bool false)]) [⟨"ok", "isTrue", none⟩] := by
  constructor
  · rfl
  · rw [find?_inputs_checkVisit]
    rfl
  · refine ⟨.arr [.arr [.str "ok", .str "isTrue"]], ?_, rfl⟩
    rw [find?_inputs_checkVisit]
    rfl
  · intro c hc
    obtain rfl := List.mem_singleton.mp hc
    exact ⟨false, rfl⟩
  · exact ⟨_, List.mem_cons_self, rfl⟩

/-- With a message the call fails at once; with the empty one the assertion is a success. -/
theorem checkThenPause_fails_unless_empty :
    (((checkThenPause "broken").runFor 2 [] []).2.success = false ∧
      ((checkThenPause "broken").visits 2 [] []).length = 1) ∧
    ((checkThenPause "").runFor 2 [] []).1.state.summary.results[0]? =
      some ⟨"check", true, none⟩ := by
  constructor
  · obtain ⟨hfails, -⟩ := failed_assertion (checkThenPause "broken") 2 [] []
      (visits_checkThenPause "broken") (refutes_checkVisit "broken")
    have hmessage : Table.find? (checkVisit "broken").inputs "message" ≠ some (.str "") := by
      rw [find?_inputs_checkVisit]
      simp [failingConfig, Table.find?_cons]
    obtain ⟨-, hlength, -, hsuccess⟩ := hfails hmessage
    exact ⟨hsuccess, hlength⟩
  · obtain ⟨-, hpasses⟩ := failed_assertion (checkThenPause "") 2 [] []
      (visits_checkThenPause "") (refutes_checkVisit "")
    exact (hpasses (find?_inputs_checkVisit "" "message")).1

end StepPipeline
