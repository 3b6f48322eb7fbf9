import StepPipeline.Block

/-!
# Scripted blocks

Blocks whose answers are written down in the `config` of their step. They stand in for real blocks
where only the wiring of a pipeline matters.
-/

namespace StepPipeline.Blocks

/-- A list of texts; what is no text is left out. -/
def texts (v : Option Json) : List String :=
  ((v.bind Json.asItems?).getD []).filterMap Json.asStr?

/-- A record field of a `config`; anything else counts as the empty record. -/
def recordOf (config : Record) (name : String) : Record :=
  ((Table.find? config name).map Json.toRecord).getD []

/-- Answers `output`. -/
def fixed (config : Record) : Block :=
  .reading "static" {} {} fun _ _ => .ok (recordOf config "output")

/-- The answer to a call after the given number of earlier ones; the last is repeated. -/
def scripted (outputs : List Json) (calls : Nat) : Record :=
  match outputs[min calls (outputs.length - 1)]? with
  | some v => v.toRecord
  | none => []

/-- Answers the `outputs` one after the other. -/
def sequence (config : Record) : Block :=
  let outputs := ((Table.find? config "outputs").bind Json.asItems?).getD []
  { type := "sequence", process := fun calls _ context => ⟨.ok (scripted outputs calls), context⟩ }

/-- Answers its inputs, of which the names listed under `required` have to be there. -/
def echo (config : Record) : Block :=
  .reading "echo" ⟨texts (Table.find? config "required"), []⟩ {} fun inputs _ => .ok inputs

def faultOf (kind message : String) : Fault :=
  match kind with
  | "Http" => .http message
  | "BlockFailed" => .blockFailed "fault" message
  | "UnknownOperator" => .unknownOperator message
  | "InvalidPipeline" => .invalidPipeline message
  | _ => .other message

/-- Fails with the fault that `kind` and `message` describe. -/
def faulty (config : Record) : Block :=
  let text := fun name => ((Table.find? config name).bind Json.asStr?).getD ""
  .reading "fault" {} {} fun _ _ => .error (faultOf (text "kind") (text "message"))

def seen (context : Context) (keys : List String) : Record :=
  Table.ofList (keys.filterMap fun key => (context.get? key).map fun v => (key, v))

/-- Reads the keys listed under `read`, sets the pairs of `set`, removes the keys listed under
`remove`, and answers what it read. -/
def contextual (config : Record) : Block where
  type := "ctx"
  process := fun _ _ context =>
    let found := seen context (texts (Table.find? config "read"))
    let written := context.merge (recordOf config "set")
    let kept := (texts (Table.find? config "remove")).foldl Context.remove written
    ⟨.ok [("seen", .obj found)], kept⟩

end StepPipeline.Blocks

namespace StepPipeline

def Registry.withScripted (r : Registry) : Registry :=
  Table.overlay r [
    ("ctx", fun config => .ok (Blocks.contextual config)),
    ("echo", fun config => .ok (Blocks.echo config)),
    ("fault", fun config => .ok (Blocks.faulty config)),
    ("sequence", fun config => .ok (Blocks.sequence config)),
    ("static", fun config => .ok (Blocks.fixed config))]

end StepPipeline
