import StepPipeline.Block
import StepPipeline.Condition.Evaluation

/-!
# Blocks that steer a run

A `loop` asks for a jump back and a `terminate` for the end of the run, both by reserved fields of
their outputs; the engine acts on them. A `delay` only says how long it was told to wait.
-/

namespace StepPipeline.Blocks

/-- How often one target is jumped to unless the output says otherwise. -/
def defaultCap : Nat := 10

/-- Whether the `conditions` hold of the `data`; without conditions they do. -/
def guardHolds (inputs : Record) : Except Fault Bool :=
  match Table.find? inputs "conditions" with
  | some conditions =>
    Condition.listHolds (Json.ofOption (Table.find? inputs "data")) conditions
  | none => .ok true

/-- A number of milliseconds, zero unless given. -/
def millis (inputs : Record) (name : String) : Nat :=
  ((Table.find? inputs name).bind Json.count?).getD 0

def loopOutput (inputs : Record) (target : Json) (iteration : Nat) (again : Bool) : Record :=
  if again then
    let cap := ((Table.find? inputs "maxIterations").bind Json.count?).getD defaultCap
    [("_loopTo", target), ("_maxLoops", .nat cap), ("iteration", .nat iteration),
      ("looping", .bool true)]
  else [("iteration", .nat iteration), ("looping", .bool false)]

/-- Asks for a jump back to `target` while the conditions hold, and tells how often it was made. -/
def loop : Block :=
  .reading "loop" ⟨["target"], ["conditions", "data", "maxIterations", "delay"]⟩
    ⟨["looping", "iteration", "_loopTo", "_maxLoops"]⟩ fun inputs context => do
      let target ← Block.required "loop" inputs "target"
      let again ← guardHolds inputs
      return loopOutput inputs target (context.jumpCount target.toText).toNat again

def terminate : Block :=
  .reading "terminate" ⟨[], ["conditions", "data"]⟩ ⟨["terminated", "_terminate"]⟩
    fun inputs _ => do
      if ← guardHolds inputs then
        return [("_terminate", .bool true), ("terminated", .bool true)]
      else return [("terminated", .bool false)]

/-- Says how long it was told to wait. -/
def delay : Block :=
  .reading "delay" ⟨[], ["ms"]⟩ ⟨["delayed"]⟩ fun inputs _ =>
    .ok [("delayed", .nat (millis inputs "ms"))]

end StepPipeline.Blocks
