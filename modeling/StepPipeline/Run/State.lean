import StepPipeline.Blocks.Steering
import StepPipeline.Run.Event
import StepPipeline.Run.Step
import StepPipeline.Run.Summary

/-!
# Taking a step

Taking a step of a pipeline gathers the inputs of its block, calls it, stores its output and says
where the cursor goes: to the next step, back to an earlier one, or nowhere. Only an output
without an error can steer the run: a true `_terminate` ends it, and `_loopTo` jumps back as long
as the counter of its target is below the cap in `_maxLoops`. A fault and an output with an error
end it as well, unless the context lets the run go on after faults.
-/


namespace StepPipeline

/-- What a visit to a step came to, before it is asked whether the run goes on. -/
inductive Outcome where
  | success (output : Record)
  /-- The block answered, and its output reports an error. -/
  | softError (output : Record) (message : String)
  | fault (f : Fault)

/-- Where the run goes after a step. -/
inductive Motion where
  | onward
  | back (index : Nat)
  | stop
  deriving DecidableEq

/-- All that a pipeline keeps while it runs and between its runs. -/
structure State where
  bus : DataBus := {}
  context : Context := {}
  summary : Summary := {}
  /-- How often the block of each step was called. -/
  calls : List Nat := []
  /-- The events that were published and not collected yet. -/
  events : List Event := []
  deriving Inhabited

/-- The key that lets a run go on after a fault. -/
def continueOnError : String := "continueOnError"

/-- The error that an output reports. -/
def reportedError? (output : Record) : Option String :=
  ((Table.find? output "error").filter Json.truthy).map Json.toText

def Outcome.ofResult : Except Fault Record → Outcome
  | .error f => .fault f
  | .ok output =>
    match reportedError? output with
    | some message => .softError output message
    | none => .success output

/-- The step that a jump target denotes: a number is a position, a text the first step of that
id. -/
def targetIndex? (steps : List Step) : Json → Option Nat
  | .num n => n.toIndex?
  | .str id => steps.findIdx? fun step => step.id == id
  | _ => none

def asksForEnd (output : Record) : Bool := (Table.find? output "_terminate").any Json.truthy

/-- The jump that an output of the step at `index` asks for: the key of its counter and the
position of its target. Only an earlier step is a target. -/
def jumpAsked? (steps : List Step) (index : Nat) (output : Record) : Option (String × Nat) :=
  (Table.find? output "_loopTo").bind fun loopTo =>
    ((targetIndex? steps loopTo).filter (· < index)).map fun target => (loopTo.toText, target)

/-- How often the target of an output may be jumped to. -/
def loopCap (output : Record) : Nat :=
  ((Table.find? output "_maxLoops").bind Json.count?).getD Blocks.defaultCap

namespace State

def scope (s : State) : Scope := ⟨s.context.values, s.bus⟩

def emit (s : State) (e : Event) : State := { s with events := s.events ++ [e] }

def callsOf (s : State) (index : Nat) : Nat := s.calls.getD index 0

def countCall (s : State) (index : Nat) : State :=
  { s with
    calls := (s.calls ++ List.replicate (index + 1 - s.calls.length) 0).modify index (· + 1) }

/-- Call the block of a step, unless required inputs are missing. -/
def call (s : State) (index : Nat) (step : Step) : State × Outcome :=
  let inputs := step.gather s.scope
  match step.block.inputs.missing inputs with
  | [] =>
    let answer := step.block.process (s.callsOf index) inputs s.context
    ({ s.countCall index with context := answer.context }, .ofResult answer.result)
  | missing => (s, .fault (.missingInputs step.id missing))

def fail (s : State) (id message : String) (soft : Bool) : State :=
  { s with
    bus := (s.bus.noteError message).noteRun id (.ofFailure 0 message)
    summary := s.summary.addFailure id message
    events := s.events ++ [.stepFailed id message soft] }

def succeed (s : State) (id : String) : State :=
  { s with
    bus := s.bus.noteRun id (.ofSuccess 0)
    summary := s.summary.addSuccess id
    events := s.events ++ [.stepCompleted id 0] }

def store (s : State) (step : Step) (output : Record) : State :=
  { s with bus := step.store s.bus output }

/-- Jump back to `target`, or stay when it was jumped to often enough. -/
def jump (steps : List Step) (id key : String) (target cap : Nat) (s : State) : State × Motion :=
  if (s.context.jumpCount key).toNat < cap then
    let context := s.context.countJump key
    let name := (steps[target]?.map Step.id).getD ""
    ({ s with context := context }.emit (.loopBack id name (context.jumpCount key).toNat),
      .back target)
  else (s.emit (.loopLimitReached id key cap), .onward)

/-- Do as the output of a successful step asks. -/
def steer (steps : List Step) (index : Nat) (id : String) (output : Record) (s : State) :
    State × Motion :=
  if asksForEnd output then (s.emit (.terminated id), .stop)
  else
    match jumpAsked? steps index output with
    | some (key, target) => jump steps id key target (loopCap output) s
    | none => (s, .onward)

def settle (steps : List Step) (index : Nat) (step : Step) (s : State) : Outcome → State × Motion
  | .fault f =>
    (s.fail step.id f.message false, if s.context.isOn continueOnError then .onward else .stop)
  | .softError output message => ((s.store step output).fail step.id message true, .stop)
  | .success output => ((s.store step output).succeed step.id).steer steps index step.id output

def takeStep (steps : List Step) (index : Nat) (step : Step) (s : State) : State × Motion :=
  let called := (s.emit (.stepStarted step.id step.block.type index)).call index step
  called.1.settle steps index step called.2

end State
end StepPipeline
