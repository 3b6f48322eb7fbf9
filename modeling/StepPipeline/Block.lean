import StepPipeline.Fault
import StepPipeline.Store.Context

/-!
# Blocks

A block is one unit of work: from the inputs that a step has gathered and the shared context it
makes an output record or a fault, and it may change the context. What it remembers between its
calls is how often it was called before.

A registry knows how to make the blocks of a document: it maps a block's type to a function from
the `config` of a step.
-/

namespace StepPipeline

/-- The inputs that a block declares. Only the required ones are enforced. -/
structure InputNames where
  required : List String := []
  optional : List String := []
  deriving DecidableEq, Inhabited

/-- The required names that a record lacks, in the order of the contract. -/
def InputNames.missing (c : InputNames) (inputs : Record) : List String :=
  c.required.filter fun name => !Table.contains inputs name

theorem InputNames.mem_missing_iff {c : InputNames} {inputs : Record} {name : String} :
    name ∈ c.missing inputs ↔ name ∈ c.required ∧ Table.find? inputs name = none := by
  simp [missing, Table.contains]

/-- The outputs that a block declares. Nothing enforces them. -/
structure OutputNames where
  produces : List String := []
  deriving DecidableEq, Inhabited

/-- What comes back from a block: its output or a fault, and the context with what the block did to
it. -/
structure Answer where
  result : Except Fault Record
  context : Context

/-- One unit of work. -/
structure Block where
  /-- The type under which the block is registered. -/
  type : String
  inputs : InputNames := {}
  outputs : OutputNames := {}
  /-- The answer to inputs in a context, after the given number of earlier calls. -/
  process : Nat → Record → Context → Answer

namespace Block

/-- A block that looks at the context without changing it. -/
def reading (type : String) (inputs : InputNames) (outputs : OutputNames)
    (result : Record → Context → Except Fault Record) : Block where
  type := type
  inputs := inputs
  outputs := outputs
  process := fun _ record context => ⟨result record context, context⟩

/-- A required input, as the block itself insists on it. -/
def required (type : String) (inputs : Record) (name : String) : Except Fault Json :=
  match Table.find? inputs name with
  | some v => .ok v
  | none => .error (.missingInputs type [name])

end Block

/-- How to make blocks, by type. -/
abbrev Registry := Table (Record → Except Fault Block)

namespace Registry

def types (r : Registry) : List String := Table.keys r

def has (r : Registry) (type : String) : Bool := Table.contains r type

def create (r : Registry) (type : String) (config : Record) : Except Fault Block :=
  match Table.find? r type with
  | some make => make config
  | none => .error (.unknownBlockType type)

end Registry
end StepPipeline
