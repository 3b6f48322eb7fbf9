import StepPipeline.Run.State

/-!
# Running pipelines

A run walks the steps of a pipeline with one cursor, from the first step until the cursor is
behind the last. `Machine.run` makes at most a given number of moves, and so does
`Pipeline.runFor`; `Pipeline.run` gives it `stepBudget`, which covers every run whose caps fit a
counter. The data bus, the context and the number of calls of each block outlive a run; only the
summary begins anew.
-/

namespace StepPipeline

/-- A run under way: the state and the position of the next step. Behind the last step the run is
over. -/
structure Machine where
  state : State
  cursor : Nat

/-- Where the cursor goes in a pipeline of `length` steps; a halted run is behind the last. -/
def Motion.cursor (length index : Nat) : Motion → Nat
  | onward => index + 1
  | back target => target
  | stop => length

namespace Machine

def finished (steps : List Step) (m : Machine) : Bool := steps.length ≤ m.cursor

/-- Execute the step at the cursor and move on; a run that is over stays as it is. -/
def advance (steps : List Step) (m : Machine) : Machine :=
  match steps[m.cursor]? with
  | none => m
  | some step =>
    let done := m.state.takeStep steps m.cursor step
    ⟨done.1, done.2.cursor steps.length m.cursor⟩

/-- Make at most the given number of moves. -/
def run (steps : List Step) : Nat → Machine → Machine
  | 0, m => m
  | moves + 1, m => if m.finished steps then m else run steps moves (m.advance steps)

end Machine

/-- A pipeline that was built, with the state that one run leaves for the next. -/
structure Pipeline where
  steps : List Step
  state : State := {}

/-- What a run returns; both records are flat. -/
structure RunResult where
  /-- The data bus, with how the steps went and the latest error. -/
  data : Record
  /-- The context, with counters and test. -/
  context : Record
  success : Bool
  error : Option String
  deriving Inhabited

def RunResult.toJson (r : RunResult) : Json := Json.object [
  ("context", some (.obj r.context)),
  ("data", some (.obj r.data)),
  ("error", r.error.map .str),
  ("success", some (.bool r.success))]

namespace Pipeline

/-- The number of moves that a run of `n` steps is given. There are at most `2 * n` names of targets
that can be jumped to, a counter takes less than `2 ^ 32` jumps, and at most `n` steps lie
between two jumps. -/
def stepBudget (n : Nat) : Nat := n * (1 + 2 * n * (UInt32.size - 1))

def start (p : Pipeline) (input initial : Record) : State :=
  { p.state with
    summary := { total := p.steps.length }
    bus := p.state.bus.set DataBus.inputSlot (.obj input)
    context := p.state.context.merge initial }.emit (.pipelineStarted nilRun p.steps.length)

def finish (s : State) : State :=
  s.emit (.pipelineCompleted nilRun (!s.summary.hadError) 0)

def result (s : State) : RunResult where
  data := s.bus.toRecord
  context := s.context.toRecord
  success := !s.summary.hadError
  error := s.bus.lastError

/-- Run a pipeline for at most the given number of moves: `input` goes to the slot of that name,
`initial` over the context. -/
def runFor (p : Pipeline) (moves : Nat) (input initial : Record) : Pipeline × RunResult :=
  let ended := Machine.run p.steps moves ⟨p.start input initial, 0⟩
  let state := finish ended.state
  ({ p with state := state }, result state)

def run (p : Pipeline) (input initial : Record) : Pipeline × RunResult :=
  p.runFor (stepBudget p.steps.length) input initial

def collectEvents (p : Pipeline) : Pipeline × List Event :=
  ({ p with state := { p.state with events := [] } }, p.state.events)

end Pipeline
end StepPipeline
