import StepPipeline.Blocks.Standard
import StepPipeline.Proofs.Condition.Checking
import StepPipeline.Proofs.Run.Counters

/-!
# Missing inputs stop a block

The engine looks for the inputs that a block requires before it calls the block. If one is absent
the step fails with all that are, and the block is not called: what it would do makes no difference
(`Visit.Stopped`). Otherwise the block is called once, and what it would do with anything else makes
no difference (`Visit.CallsOnce`).

A standard block insists on its inputs once more, one after the other, and names its type where the
engine names the step. It insists on nothing that it does not declare
(`Block.InsistsOnDeclared`), so behind the look of the engine it finds everything.

Main statement: `missing_inputs_stop_blocks`.
-/

namespace StepPipeline

/-! ## Faults that name inputs -/

def Fault.NamesInputs (f : Fault) : Prop := ∃ who names, f = .missingInputs who names

namespace Condition

variable {data conditions : Json} {c : Condition} {cs : List Condition} {f : Fault}

/-- An operator is refused for its name or for its operand, never for an input. -/
theorem not_namesInputs_of_usableOperator (h : c.usableOperator = .error f) : ¬f.NamesInputs := by
  rintro ⟨who, names, rfl⟩
  rcases Except.bind_eq_error h with h | ⟨op, -, h⟩
  · unfold Operator.ofName at h
    split at h <;> cases h
  · split at h <;> cases h

/-- Nor is a condition that is evaluated: what may fail behind its check is the pattern. -/
theorem not_namesInputs_of_holds (h : c.holds data = .error f) : ¬f.NamesInputs := by
  rw [holds_eq] at h
  rcases Except.bind_eq_error h with h | ⟨op, -, h⟩
  · exact not_namesInputs_of_usableOperator h
  · obtain ⟨e, -, rfl⟩ := Pattern.ofOperand_eq_error (Operator.holds_eq_error h).2
    rintro ⟨who, names, heq⟩
    cases heq

/-- A value that lists no conditions is a fault of its own kind. -/
theorem not_namesInputs_of_readAll (h : readAll conditions = .error f) : ¬f.NamesInputs := by
  rintro ⟨who, names, rfl⟩
  unfold readAll at h
  split at h
  · obtain ⟨item, -, hitem⟩ := List.exists_mem_of_mapM_eq_error h
    unfold read at hitem
    split at hitem <;> cases hitem
  · cases h

theorem not_namesInputs_of_listHolds (h : listHolds data conditions = .error f) :
    ¬f.NamesInputs := by
  unfold listHolds at h
  split at h
  · obtain ⟨c, -, hc⟩ := allHold_eq_error h
    exact not_namesInputs_of_holds hc
  · next hread =>
    obtain rfl := Except.error.inj h
    exact not_namesInputs_of_readAll hread

end Condition

/-! ## Blocks insist on what they declare -/

namespace Block

/-- If a declared input is absent the block fails for the first that is, and otherwise it does not
fail for an absent input. -/
structure InsistsOnDeclared (b : Block) : Prop where
  missing : ∀ {inputs name others}, b.inputs.missing inputs = name :: others →
    ∀ calls context, (b.process calls inputs context).result = .error (.missingInputs b.type [name])
  complete : ∀ {inputs f}, b.inputs.missing inputs = [] →
    ∀ calls context, (b.process calls inputs context).result = .error f → ¬f.NamesInputs

variable {b : Block} {type name : String} {inputs : Record}

theorem required_of_some {v : Json} (h : Table.find? inputs name = some v) :
    required type inputs name = .ok v := by
  rw [required, h]

theorem required_of_none (h : Table.find? inputs name = none) :
    required type inputs name = .error (.missingInputs type [name]) := by
  rw [required, h]

/-- A block that declares nothing and fails for other reasons only. -/
theorem insistsOnDeclared_of_none (hinputs : b.inputs.required = [])
    (h : ∀ calls inputs context f, (b.process calls inputs context).result = .error f →
      ¬f.NamesInputs) : b.InsistsOnDeclared := by
  constructor
  · intro inputs name others hmissing
    rw [InputNames.missing, hinputs] at hmissing
    cases hmissing
  · intro inputs f _ calls context hresult
    exact h calls inputs context f hresult

/-- A block that declares one input and takes it first. -/
theorem insistsOnDeclared_of_one (hinputs : b.inputs.required = [name])
    {rest : Record → Context → Json → Except Fault Record}
    (hprocess : ∀ calls inputs context, (b.process calls inputs context).result =
      required b.type inputs name >>= rest inputs context)
    (h : ∀ inputs context v f, rest inputs context v = .error f → ¬f.NamesInputs) :
    b.InsistsOnDeclared := by
  constructor
  · intro inputs missing others hmissing calls context
    obtain ⟨hmem, hnone⟩ : missing ∈ b.inputs.required ∧ Table.find? inputs missing = none :=
      InputNames.mem_missing_iff.mp (hmissing ▸ List.mem_cons_self)
    rw [hinputs, List.mem_singleton] at hmem
    subst hmem
    rw [hprocess, required_of_none hnone]
    rfl
  · intro inputs f hmissing calls context hresult
    rw [hprocess] at hresult
    cases hfound : Table.find? inputs name with
    | some v =>
        rw [required_of_some hfound] at hresult
        exact h inputs context v f hresult
    | none =>
        have hmem : name ∈ b.inputs.missing inputs :=
          InputNames.mem_missing_iff.mpr ⟨hinputs ▸ List.mem_singleton_self name, hfound⟩
        rw [hmissing] at hmem
        cases hmem

end Block

namespace Blocks

open Block

/-- The two parsers take their body, and then answer whatever it is. -/
theorem insistsOnDeclared_jsonParser : jsonParser.InsistsOnDeclared := by
  apply insistsOnDeclared_of_one rfl (fun _ _ _ => rfl)
  intro inputs context v f h
  split at h <;> cases h

theorem insistsOnDeclared_streamParser : streamParser.InsistsOnDeclared := by
  apply insistsOnDeclared_of_one rfl (fun _ _ _ => rfl)
  intro inputs context v f h
  split at h <;> cases h

/-- A delay takes everything that it does not find for zero. -/
theorem insistsOnDeclared_delay : delay.InsistsOnDeclared := by
  apply insistsOnDeclared_of_none rfl
  intro calls inputs context f h
  cases h

/-- Neither data nor conditions are required here, so their absence is no fault. -/
theorem not_namesInputs_of_guardHolds {inputs : Record} {f : Fault}
    (h : guardHolds inputs = .error f) : ¬f.NamesInputs := by
  unfold guardHolds at h
  split at h
  · exact Condition.not_namesInputs_of_listHolds h
  · cases h

theorem insistsOnDeclared_terminate : terminate.InsistsOnDeclared := by
  apply insistsOnDeclared_of_none rfl
  intro calls inputs context f h
  rcases Except.bind_eq_error h with h | ⟨ends, -, h⟩
  · exact not_namesInputs_of_guardHolds h
  · split at h <;> cases h

theorem insistsOnDeclared_loop : loop.InsistsOnDeclared := by
  apply insistsOnDeclared_of_one rfl (fun _ _ _ => rfl)
  intro inputs context v f h
  rcases Except.bind_eq_error h with h | ⟨again, -, h⟩
  · exact not_namesInputs_of_guardHolds h
  · cases h

/-- Behind the address a request fails for the method or in the transport, which are faults of other
kinds. -/
theorem insistsOnDeclared_httpRequest (transport : Http.Transport) (timeout : Nat) :
    (httpRequest transport timeout).InsistsOnDeclared := by
  apply insistsOnDeclared_of_one rfl
  · intro calls inputs context
    show Http.readRequest timeout inputs >>= _ = _
    rw [Http.readRequest, bind_assoc]
    rfl
  · rintro inputs context v f h ⟨who, names, rfl⟩
    rcases Except.bind_eq_error h with h | ⟨request, -, h⟩
    · split at h
      · split at h <;> cases h
      · cases h
    · split at h <;> cases h

/-- An assertion takes its data first and then its conditions. -/
theorem result_assertion_eq (calls : Nat) (inputs : Record) (context : Context) :
    (assertion.process calls inputs context).result =
      required "assert" inputs "data" >>= fun data =>
        required "assert" inputs "conditions" >>= fun conditions =>
          Condition.readAll conditions >>= fun cs =>
            failing data cs >>= fun failed => .ok (verdict inputs data failed cs.length) :=
  rfl

/-- The engine lists the absent inputs in the order in which the block takes them. -/
theorem missing_assertion_eq (inputs : Record) : assertion.inputs.missing inputs =
    (if Table.contains inputs "data" then [] else ["data"]) ++
      if Table.contains inputs "conditions" then [] else ["conditions"] := by
  show List.filter _ ["data", "conditions"] = _
  cases hdata : Table.contains inputs "data" <;>
    cases hconditions : Table.contains inputs "conditions" <;>
      simp [hdata, hconditions]

/-- The only standard block with two required inputs; it reports the first that is absent. -/
theorem insistsOnDeclared_assertion : assertion.InsistsOnDeclared := by
  constructor
  · intro inputs name others hmissing calls context
    rw [missing_assertion_eq, Table.contains, Table.contains] at hmissing
    rw [result_assertion_eq]
    cases hdata : Table.find? inputs "data" with
    | none =>
        rw [hdata] at hmissing
        obtain rfl : "data" = name := (List.cons.inj hmissing).1
        rw [required_of_none hdata]
        rfl
    | some data =>
        cases hconditions : Table.find? inputs "conditions" with
        | none =>
            rw [hdata, hconditions] at hmissing
            obtain rfl : "conditions" = name := (List.cons.inj hmissing).1
            rw [required_of_some hdata, required_of_none hconditions]
            rfl
        | some conditions =>
            rw [hdata, hconditions] at hmissing
            cases hmissing
  · rintro inputs f hmissing calls context hresult
    rw [result_assertion_eq] at hresult
    -- What the engine found complete the block finds complete.
    have hfound : ∀ {name f}, name ∈ ["data", "conditions"] →
        required "assert" inputs name = .error f → False := by
      intro name f hname herror
      have hmem : name ∈ assertion.inputs.missing inputs :=
        InputNames.mem_missing_iff.mpr ⟨hname, (required_eq_error herror).1⟩
      rw [hmissing] at hmem
      cases hmem
    rcases Except.bind_eq_error hresult with h | ⟨data, -, h⟩
    · exact (hfound (by simp) h).elim
    rcases Except.bind_eq_error h with h | ⟨conditions, -, h⟩
    · exact (hfound (by simp) h).elim
    rcases Except.bind_eq_error h with h | ⟨cs, -, h⟩
    · exact Condition.not_namesInputs_of_readAll h
    rcases Except.bind_eq_error h with h | ⟨failed, -, h⟩
    · obtain ⟨c, -, hc⟩ := failing_eq_error h
      exact Condition.not_namesInputs_of_holds hc
    · cases h

end Blocks

/-- All standard blocks insist on what they declare, whatever carries their requests. -/
theorem insistsOnDeclared_of_create {transport : Http.Transport} {type : String} {config : Record}
    {block : Block} (h : (Registry.standardWith transport).create type config = .ok block) :
    block.InsistsOnDeclared := by
  refine Registry.forall_of_create ?_ h
  intro e he config block hmade
  simp only [Registry.standardWith, List.mem_cons, List.not_mem_nil, or_false] at he
  rcases he with rfl | rfl | rfl | rfl | rfl | rfl | rfl
  -- Only the maker of requests looks at the `config`, and both of its blocks have the same inputs.
  case inr.inr.inl =>
    simp only [Blocks.makeHttpRequest] at hmade
    split at hmade
    · obtain rfl := Except.ok.inj hmade
      exact Blocks.insistsOnDeclared_httpRequest transport _
    · split at hmade
      · obtain rfl := Except.ok.inj hmade
        exact Blocks.insistsOnDeclared_httpRequest transport _
      · cases hmade
  all_goals obtain rfl := Except.ok.inj hmade
  · exact Blocks.insistsOnDeclared_assertion
  · exact Blocks.insistsOnDeclared_delay
  · exact Blocks.insistsOnDeclared_jsonParser
  · exact Blocks.insistsOnDeclared_loop
  · exact Blocks.insistsOnDeclared_streamParser
  · exact Blocks.insistsOnDeclared_terminate

/-! ## One visit -/

namespace Visit

variable {steps : List Step} {v : Visit}

/-- The required inputs that are absent, in the order in which the block declares them. An input
that is `null` is there. -/
def absent (v : Visit) : List String :=
  v.step.block.inputs.required.filter fun name => (Table.find? v.inputs name).isNone

/-- The engine asks for the names, `absent` for the values that it finds. -/
theorem missing_eq_absent (v : Visit) : v.step.block.inputs.missing v.inputs = v.absent := by
  unfold InputNames.missing absent
  congr 1
  funext name
  rw [Table.contains, Option.not_isSome]

theorem mem_absent_iff {name : String} : name ∈ v.absent ↔
    name ∈ v.step.block.inputs.required ∧ Table.find? v.inputs name = none := by
  rw [← missing_eq_absent, InputNames.mem_missing_iff]

/-- The same step with a block that declares the same and does something else. -/
def withProcess (v : Visit) (process : Nat → Record → Context → Answer) : Visit :=
  { v with step := { v.step with block := { v.step.block with process } } }

/-- All that the rest of the step needs to know of the block is how the call turned out. -/
theorem taken_withProcess {process : Nat → Record → Context → Answer}
    (h : (v.withProcess process).called = v.called) (steps : List Step) :
    (v.withProcess process).taken steps = v.taken steps := by
  have houtcome : (v.withProcess process).outcome = v.outcome := congrArg Prod.snd h
  -- The outcome decides what is done, and it is the same.
  cases hv : v.outcome with
  | success output =>
      rw [taken_of_success hv, taken_of_success (houtcome.trans hv), h]
      rfl
  | softError output message =>
      rw [taken_of_softError hv, taken_of_softError (houtcome.trans hv), h]
      rfl
  | fault f =>
      rw [taken_of_fault hv, taken_of_fault (houtcome.trans hv), h]
      rfl

/-- The step fails for all inputs that are absent, its block is not called, and nothing changes but
the reports. -/
structure Stopped (steps : List Step) (v : Visit) : Prop where
  outcome : v.outcome = .fault (.missingInputs v.step.id v.absent)
  context : (v.after steps).context = v.before.context
  slots : (v.after steps).bus.slots = v.before.bus.slots
  calls : (v.after steps).calls = v.before.calls
  ignored : ∀ process, (v.withProcess process).taken steps = v.taken steps

/-- The block is called once, with the inputs that were gathered: it is one call more, its answer to
these inputs is the outcome, and its answer to anything else makes no difference. -/
structure CallsOnce (steps : List Step) (v : Visit) : Prop where
  outcome : v.outcome =
    .ofResult (v.step.block.process (v.before.callsOf v.index) v.inputs v.before.context).result
  calls : ∀ i, (v.after steps).callsOf i = v.before.callsOf i + if i = v.index then 1 else 0
  ignored : ∀ process, process (v.before.callsOf v.index) v.inputs v.before.context =
    v.step.block.process (v.before.callsOf v.index) v.inputs v.before.context →
      (v.withProcess process).taken steps = v.taken steps

/-- The call as a whole: what the block answers to exactly these inputs is all that is used of
it. -/
theorem called_eq_of_complete (h : v.step.block.inputs.missing v.inputs = []) : v.called =
    ({ (v.before.emit (.stepStarted v.step.id v.step.block.type v.index)).countCall v.index with
        context := v.answer.context }, .ofResult v.answer.result) :=
  State.call_of_complete (s := v.before.emit _) h

/-- The call does not look at what the block would do, hence neither does the rest of the step. -/
theorem stopped_of_absent (h : v.absent ≠ []) (steps : List Step) : v.Stopped steps := by
  have hmissing : v.step.block.inputs.missing v.inputs ≠ [] := by rwa [missing_eq_absent]
  obtain ⟨houtcome, hcontext, hbus, -⟩ := v.called_of_missing hmissing
  rw [missing_eq_absent] at houtcome
  have htaken : v.taken steps = _ := taken_of_fault houtcome
  constructor
  case outcome => exact houtcome
  case context =>
    rw [after, htaken]
    exact hcontext
  case slots =>
    rw [after, htaken, ← hbus]
    rfl
  case calls =>
    rw [calls_after]
    unfold called
    rw [State.call_of_missing (s := v.before.emit _) hmissing]
    rfl
  case ignored =>
    intro process
    apply taken_withProcess
    have hother : (v.withProcess process).step.block.inputs.missing v.inputs ≠ [] := hmissing
    unfold called
    rw [State.call_of_missing (s := v.before.emit _) hmissing]
    exact State.call_of_missing (s := v.before.emit _) hother

/-- Two blocks with the same answer to what was gathered cannot be told apart. -/
theorem callsOnce_of_complete (h : v.absent = []) (steps : List Step) : v.CallsOnce steps := by
  have hmissing : v.step.block.inputs.missing v.inputs = [] := by rwa [missing_eq_absent]
  constructor
  case outcome => exact (v.called_of_complete hmissing).1
  case calls =>
    intro i
    rw [State.callsOf, calls_after, v.calls_called_of_complete hmissing]
    exact State.callsOf_countCall v.before v.index i
  case ignored =>
    intro process hprocess
    apply taken_withProcess
    have hanswer : (v.withProcess process).answer = v.answer := hprocess
    rw [called_eq_of_complete (v := v.withProcess process) hmissing, hanswer,
      called_eq_of_complete hmissing]
    rfl

end Visit

/-! ## The run -/

/-- **Missing inputs stop a block before it runs.** If a required input is absent from what was
gathered, the step fails for exactly the absent inputs, and the block is not called; otherwise it is
called once. In a run of standard blocks a fault that names absent inputs is therefore always that
of the engine: it names the id of the step and all of them. -/
theorem missing_inputs_stop_blocks :
    (∀ (steps : List Step) (v : Visit),
      (∀ name, name ∈ v.absent ↔
        name ∈ v.step.block.inputs.required ∧ Table.find? v.inputs name = none) ∧
      (v.absent ≠ [] → v.Stopped steps) ∧ (v.absent = [] → v.CallsOnce steps)) ∧
    ∀ p : Pipeline,
      (∀ step ∈ p.steps, ∃ transport type config,
        (Registry.standardWith transport).create type config = .ok step.block) →
      ∀ (earlier : List Call) (moves : Nat) (input initial : Record),
        ∀ v ∈ (p.callAll earlier).visits moves input initial,
          (v.absent = [] → ∀ calls context who names,
            (v.step.block.process calls v.inputs context).result ≠
              .error (.missingInputs who names)) ∧
          ∀ who names, v.outcome = .fault (.missingInputs who names) →
            p.steps[v.index]? = some v.step ∧ who = v.step.id ∧ names = v.absent ∧ names ≠ [] := by
  refine ⟨fun steps v => ⟨fun _ => Visit.mem_absent_iff, fun h => Visit.stopped_of_absent h steps,
    fun h => Visit.callsOnce_of_complete h steps⟩, ?_⟩
  intro p hstandard earlier moves input initial v hv
  have hstep : p.steps[v.index]? = some v.step := by
    have hat := Pipeline.getElem?_steps_of_mem_visits hv
    rwa [Pipeline.steps_callAll] at hat
  obtain ⟨transport, type, config, hcreate⟩ := hstandard v.step (List.mem_of_getElem? hstep)
  have hinsists := insistsOnDeclared_of_create hcreate
  have hnever : v.absent = [] → ∀ calls context who names,
      (v.step.block.process calls v.inputs context).result ≠ .error (.missingInputs who names) := by
    intro h calls context who names hresult
    have hmissing : v.step.block.inputs.missing v.inputs = [] := by rwa [Visit.missing_eq_absent]
    exact hinsists.complete hmissing calls context hresult ⟨who, names, rfl⟩
  refine ⟨hnever, fun who names houtcome => ⟨hstep, ?_⟩⟩
  rcases v.answer_of_fault houtcome with ⟨hmissing, hfault⟩ | ⟨hmissing, hresult⟩
  · rw [Visit.missing_eq_absent] at hmissing hfault
    obtain ⟨rfl, rfl⟩ := Fault.missingInputs.inj hfault
    exact ⟨rfl, rfl, hmissing⟩
  · rw [Visit.missing_eq_absent] at hmissing
    exact absurd hresult (hnever hmissing _ _ who names)

def checkNothing : Pipeline where
  steps := [{ id := "check", input := some (.record []), block := Blocks.assertion }]

/-- The step fails for both, under its own id. -/
theorem checkNothing_stopped :
    (∀ step ∈ checkNothing.steps, ∃ transport type config,
      (Registry.standardWith transport).create type config = .ok step.block) ∧
    ∃ v ∈ (checkNothing.callAll []).visits 1 [] [],
      v.outcome = .fault (.missingInputs "check" ["data", "conditions"]) ∧
      checkNothing.steps[v.index]? = some v.step ∧ v.step.id = "check" ∧
      v.absent = ["data", "conditions"] := by
  have hstandard : ∀ step ∈ checkNothing.steps, ∃ transport type config,
      (Registry.standardWith transport).create type config = .ok step.block :=
    List.forall_mem_singleton.mpr ⟨Http.Transport.offline, "assert", [], rfl⟩
  obtain ⟨v, hvisits⟩ : ∃ v, (checkNothing.callAll []).visits 1 [] [] = [v] := ⟨_, rfl⟩
  have hv : v ∈ (checkNothing.callAll []).visits 1 [] [] := hvisits ▸ List.mem_singleton_self v
  have houtcome : v.outcome = .fault (.missingInputs "check" ["data", "conditions"]) := by
    obtain rfl := List.singleton_inj.mp hvisits
    rfl
  obtain ⟨hstep, hid, hnames, -⟩ :=
    (missing_inputs_stop_blocks.2 checkNothing hstandard [] 1 [] [] v hv).2 _ _ houtcome
  exact ⟨hstandard, v, hv, houtcome, hstep, hid.symm, hnames.symm⟩

end StepPipeline
