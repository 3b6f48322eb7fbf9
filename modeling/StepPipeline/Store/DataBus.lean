import StepPipeline.Json.Description
import StepPipeline.Path.Access

/-!
# The data bus

Where steps leave their outputs: slots by name, the last write wins. Beside the slots the bus
keeps how each step went the last time it ran, and the text of the latest error; the reserved
names `_meta` and `_error` read these.

The library does not measure time: in a record of how a step went the time stamp is the start of
the epoch, and a duration is what the caller says.
-/

namespace StepPipeline

/-- How a step went. -/
structure LastRun where
  success : Bool
  error : Option String
  /-- In milliseconds. -/
  duration : Nat
  deriving DecidableEq, Inhabited

namespace LastRun

/-- The time stamp of every record. -/
def epoch : String := "1970-01-01T00:00:00Z"

def ofSuccess (duration : Nat) : LastRun := ⟨true, none, duration⟩

def ofFailure (duration : Nat) (error : String) : LastRun := ⟨false, some error, duration⟩

def toJson (m : LastRun) : Json := Json.object [
  ("duration", some (.nat m.duration)),
  ("error", m.error.map .str),
  ("success", some (.bool m.success)),
  ("timestamp", some (.str epoch))]

end LastRun

/-- Slots for data, and beside them what runs of steps and errors left. -/
structure DataBus where
  slots : Record := []
  steps : Table LastRun := []
  lastError : Option String := none
  deriving Inhabited

namespace DataBus

/-- The slot that holds the input of a run. -/
def inputSlot : String := "input"

/-- The reserved name of how the steps went. -/
def metaKey : String := "_meta"

/-- The reserved name of the latest error. -/
def errorKey : String := "_error"

def set (b : DataBus) (key : String) (value : Json) : DataBus :=
  { b with slots := Table.insert b.slots key value }

def remove (b : DataBus) (key : String) : DataBus := { b with slots := Table.erase b.slots key }

def noteRun (b : DataBus) (step : String) (m : LastRun) : DataBus :=
  { b with steps := Table.insert b.steps step m }

def lastRun? (b : DataBus) (step : String) : Option LastRun := Table.find? b.steps step

def noteError (b : DataBus) (message : String) : DataBus := { b with lastError := some message }

def runsValue (b : DataBus) : Json := .obj (Table.mapValues LastRun.toJson b.steps)

/-- Read a slot or a reserved name. While no step has run, `_meta` is a slot like any other. -/
def get? (b : DataBus) (key : String) : Option Json :=
  if key = metaKey ∧ b.steps ≠ [] then some b.runsValue
  else if key = errorKey then b.lastError.map .str
  else Table.find? b.slots key

def contains (b : DataBus) (key : String) : Bool := (b.get? key).isSome

/-- Read a path: a slot whose name is the whole path, or else the slot that the first segment names
and the way into it. -/
def lookup? (b : DataBus) (path : String) : Option Json :=
  match b.get? path with
  | some v => some v
  | none =>
    match Path.parse path with
    | .key name :: rest => (b.get? name).bind fun root => root.getAt? rest
    | _ => none

def size (b : DataBus) : Nat := b.slots.length

def isEmpty (b : DataBus) : Bool := b.slots.isEmpty && b.steps.isEmpty && b.lastError.isNone

/-- The slots, with the reserved names over them. -/
def toRecord (b : DataBus) : Record :=
  let withMeta := if b.steps = [] then b.slots else Table.insert b.slots metaKey b.runsValue
  match b.lastError with
  | some e => Table.insert withMeta errorKey (.str e)
  | none => withMeta

end DataBus
end StepPipeline
