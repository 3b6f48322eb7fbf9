import StepPipeline.Block
import StepPipeline.Template.Resolution

/-!
# Steps

A step wires a block into a pipeline: where the block's inputs come from, where its output goes,
and a `config` that is laid over the inputs as it is written.
-/

namespace StepPipeline

/-- Where the inputs of a step come from. -/
inductive InputSource where
  /-- A template, whose value becomes the input `body`. -/
  | template (text : String)
  /-- A path on the data bus; its value becomes the input `name` or, without one, has to be the
  record of inputs. -/
  | source (path : String) (name : Option String)
  /-- A record of inputs whose texts are templates. -/
  | record (fields : Record)
  deriving Inhabited

/-- Where the output of a step goes besides the slot of the step itself. -/
inductive OutputTarget where
  /-- Each listed field of the output into the slot listed for it. -/
  | mapping (slots : Table String)
  /-- The whole output into one slot. -/
  | slot (name : String)
  deriving Inhabited

namespace InputSource

/-- The input source that a record describes, if it has the form of one. -/
def source? (v : Json) : Option InputSource := do
  let fields ← v.fields? ["from", "as"]
  let path ← Json.textField? fields "from"
  let name ← Json.optionalText? fields "as"
  some (.source path name)

def ofJson? : Json → Option InputSource
  | .str text => some (.template text)
  | .obj fields => some ((source? (.obj fields)).getD (.record (Table.lastWins fields)))
  | _ => none

def toJson : InputSource → Json
  | template text => .str text
  | source path name => Json.object [("as", name.map .str), ("from", some (.str path))]
  | record fields => .obj fields

end InputSource

namespace OutputTarget

def slots? (fields : List (String × Json)) : Option (Table String) :=
  fields.mapM fun e => (e.2.asStr?).map fun s => (e.1, s)

def ofJson? : Json → Option OutputTarget
  | .str name => some (.slot name)
  | .obj fields => (slots? fields).map fun slots => .mapping (Table.lastWins slots)
  | _ => none

def toJson : OutputTarget → Json
  | mapping slots => .obj (Table.mapValues .str slots)
  | slot name => .str name

end OutputTarget

/-- A block at its place in a pipeline, with what it reads and where it writes. -/
structure Step where
  id : String
  block : Block
  input : Option InputSource := none
  output : Option OutputTarget := none
  config : Option Record := none

namespace Step

/-- What the input description alone supplies. -/
def supplied (step : Step) (scope : Scope) : Record :=
  match step.input with
  | none => scope.bus.toRecord
  | some (.template text) =>
    match scope.resolveText text with
    | some v => [("body", v)]
    | none => []
  | some (.source path name) =>
    match name, scope.bus.lookup? path with
    | some name, some v => [(name, v)]
    | none, some (.obj fields) => fields
    | _, _ => []
  | some (.record fields) => scope.resolveFields fields

/-- The inputs of the block: what is supplied, with the `config` over it. -/
def gather (step : Step) (scope : Scope) : Record :=
  Table.overlay (step.supplied scope) (step.config.getD [])

/-- Store an output on the data bus; an empty output is not stored. -/
def store (step : Step) (bus : DataBus) (output : Record) : DataBus :=
  if output.isEmpty then bus
  else match step.output with
    | some (.mapping slots) =>
      slots.foldl (fun bus e =>
        match Table.find? output e.1 with
        | some v => bus.set e.2 v
        | none => bus) bus
    | some (.slot name) => bus.set (if name = "" then step.id else name) (.obj output)
    | none => bus.set step.id (.obj output)

end Step
end StepPipeline
