import StepPipeline.Json.Description

/-!
# Events

What a run publishes while it goes on. An event is written as an object with its `type`, and read
from such an object or from an array of the type and the fields in their order.
-/

namespace StepPipeline

inductive Event where
  | pipelineStarted (run : String) (steps : Nat)
  | pipelineCompleted (run : String) (success : Bool) (duration : Nat)
  | stepStarted (step block : String) (index : Nat)
  | stepCompleted (step : String) (duration : Nat)
  /-- A failure is soft when the block reported it in its output. -/
  | stepFailed (step error : String) (soft : Bool)
  | loopBack (source target : String) (iteration : Nat)
  | loopLimitReached (step target : String) (cap : Nat)
  | terminated (step : String)
  deriving DecidableEq, Inhabited

namespace Event

def step? : Event → Option String
  | pipelineStarted _ _ => none
  | pipelineCompleted _ _ _ => none
  | stepStarted step _ _ => some step
  | stepCompleted step _ => some step
  | stepFailed step _ _ => some step
  | loopBack source _ _ => some source
  | loopLimitReached step _ _ => some step
  | terminated step => some step

def isFailure : Event → Bool
  | stepFailed _ _ _ => true
  | pipelineCompleted _ success _ => !success
  | _ => false

def toJson : Event → Json
  | pipelineStarted run steps => .obj [
    ("block_count", .nat steps), ("run_id", .str run), ("type", .str "pipeline_started")]
  | pipelineCompleted run success duration => .obj [
    ("duration_ms", .nat duration), ("run_id", .str run), ("success", .bool success),
    ("type", .str "pipeline_completed")]
  | stepStarted step block index => .obj [
    ("block_id", .str step), ("block_type", .str block), ("index", .nat index),
    ("type", .str "block_started")]
  | stepCompleted step duration => .obj [
    ("block_id", .str step), ("duration_ms", .nat duration), ("type", .str "block_completed")]
  | stepFailed step error soft => .obj [
    ("block_id", .str step), ("error", .str error), ("soft", .bool soft),
    ("type", .str "block_failed")]
  | loopBack source target iteration => .obj [
    ("from_block", .str source), ("iteration", .nat iteration), ("to_block", .str target),
    ("type", .str "loop_back")]
  | loopLimitReached step target cap => .obj [
    ("block_id", .str step), ("max_loops", .nat cap), ("target", .str target),
    ("type", .str "loop_limit_reached")]
  | terminated step => .obj [("block_id", .str step), ("type", .str "terminated")]

def fieldNames? : String → Option (List String)
  | "pipeline_started" => some ["run_id", "block_count"]
  | "pipeline_completed" => some ["run_id", "success", "duration_ms"]
  | "block_started" => some ["block_id", "block_type", "index"]
  | "block_completed" => some ["block_id", "duration_ms"]
  | "block_failed" => some ["block_id", "error", "soft"]
  | "loop_back" => some ["from_block", "to_block", "iteration"]
  | "loop_limit_reached" => some ["block_id", "target", "max_loops"]
  | "terminated" => some ["block_id"]
  | _ => none

/-- A flag that has to be there. -/
def flag? (fields : List (String × Json)) (name : String) : Option Bool :=
  match Table.find? fields name with
  | some (.bool b) => some b
  | _ => none

def number? (fields : List (String × Json)) (name : String) : Option Nat :=
  (Table.find? fields name).bind Json.toIndex?

def ofFields? (type : String) (fields : List (String × Json)) : Option Event :=
  let text := Json.textField? fields
  match type with
  | "pipeline_started" => do
    some (.pipelineStarted (← text "run_id") (← number? fields "block_count"))
  | "pipeline_completed" => do
    some (.pipelineCompleted (← text "run_id") (← flag? fields "success")
      (← number? fields "duration_ms"))
  | "block_started" => do
    some (.stepStarted (← text "block_id") (← text "block_type") (← number? fields "index"))
  | "block_completed" => do
    some (.stepCompleted (← text "block_id") (← number? fields "duration_ms"))
  | "block_failed" => do
    some (.stepFailed (← text "block_id") (← text "error") (← flag? fields "soft"))
  | "loop_back" => do
    let iteration ← number? fields "iteration"
    if iteration < UInt32.size then
      some (.loopBack (← text "from_block") (← text "to_block") iteration)
    else none
  | "loop_limit_reached" => do
    some (.loopLimitReached (← text "block_id") (← text "target") (← number? fields "max_loops"))
  | "terminated" => do some (.terminated (← text "block_id"))
  | _ => none

def ofJson? (v : Json) : Option Event := do
  match v with
  | .obj fields =>
    let type ← Json.textField? fields "type"
    let names ← fieldNames? type
    ofFields? type (← Json.fields? names (.obj fields))
  | .arr (.str type :: items) =>
    let names ← fieldNames? type
    ofFields? type (← Json.fields? names (.arr items))
  | _ => none

end Event
end StepPipeline
