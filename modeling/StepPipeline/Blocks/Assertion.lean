import StepPipeline.Block
import StepPipeline.Condition.Evaluation

/-!
# The assertion block

An `assert` checks conditions against `data`. It lists those that do not hold and, when there are
any, reports an error; conditions that cannot be evaluated are a fault.
-/

namespace StepPipeline.Blocks

/-- What the output tells about a condition that does not hold. -/
def failure (data : Json) (c : Condition) : Json := .obj [
  ("actual", Json.ofOption (data.get? c.path)),
  ("expected", Json.ofOption c.value),
  ("operator", .str c.operator),
  ("path", .str c.path)]

def failing (data : Json) : List Condition → Except Fault (List Condition)
  | [] => .ok []
  | c :: rest => do
    let holds ← c.holds data
    let others ← failing data rest
    return if holds then others else c :: others

/-- The error that a failed assertion reports. -/
def assertionError (inputs : Record) (failed total : Nat) : String :=
  match Table.find? inputs "message" with
  | some (.str message) => message
  | _ => s!"Assertion failed: {failed} of {total} conditions did not hold"

/-- The output of an assertion of `total` conditions of which some do not hold. -/
def verdict (inputs : Record) (data : Json) (failed : List Condition) (total : Nat) : Record :=
  let error :=
    if failed.isEmpty then []
    else [("error", .str (assertionError inputs failed.length total))]
  error ++ [("failures", .arr (failed.map (failure data))), ("passed", .bool failed.isEmpty)]

def assertion : Block :=
  .reading "assert" ⟨["data", "conditions"], ["message"]⟩ ⟨["passed", "failures", "error"]⟩
    fun inputs _ => do
      let data ← Block.required "assert" inputs "data"
      let conditions ← Condition.readAll (← Block.required "assert" inputs "conditions")
      return verdict inputs data (← failing data conditions) conditions.length

end StepPipeline.Blocks
