import StepPipeline.Json.Shape
import StepPipeline.Run.Step
import StepPipeline.Store.Context

/-!
# Documents

The description of a pipeline: its steps by the types of their blocks, the values its context
begins with, and what it tells about the test that it implements. A document can be read from a
JSON value or text, and written back.
-/

namespace StepPipeline

/-- A step as it is written, its block still a tag. -/
structure StepDescription where
  block : String
  id : Option String := none
  input : Option InputSource := none
  output : Option OutputTarget := none
  config : Option Json := none
  deriving Inhabited

namespace StepDescription

/-- The id of a step: the one it is given, or the type of its block. -/
def effectiveId (s : StepDescription) : String := s.id.getD s.block

def configFields? (s : StepDescription) : Option Record := s.config.bind Json.asRecord?

/-- The fields, in the order of an array. -/
def fieldNames : List String := ["block", "id", "input", "output", "config"]

def shape : Shape := .structure [("block", .any), ("id", .any), ("input", .maybeStructure),
  ("output", .maybeStructure), ("config", .any)]

/-- A part that may be missing or `null` and is otherwise read by `read`. -/
def optional? {α : Type} (read : Json → Option α) : Option Json → Option (Option α)
  | none => some none
  | some .null => some none
  | some v => (read v).map some

def ofJson? (v : Json) : Option StepDescription := do
  let fields ← v.fields? fieldNames
  let block ← Json.textField? fields "block"
  let id ← Json.optionalText? fields "id"
  let input ← optional? InputSource.ofJson? (Table.find? fields "input")
  let output ← optional? OutputTarget.ofJson? (Table.find? fields "output")
  some { block, id, input, output, config := Json.optionalValue fields "config" }

def toJson (s : StepDescription) : Json := Json.object [
  ("block", some (.str s.block)),
  ("config", s.config),
  ("id", s.id.map .str),
  ("input", s.input.map InputSource.toJson),
  ("output", s.output.map OutputTarget.toJson)]

def listOfJson? (items : List Json) : Option (List StepDescription) := items.mapM ofJson?

end StepDescription

/-- A pipeline as it is written, with the defaults of what was left out. -/
structure Document where
  name : Option String := none
  version : Option Json := none
  description : Option String := none
  context : Record := []
  pipeline : List StepDescription := []
  input : Option Json := none
  output : Option Json := none
  assertions : List Json := []
  deriving Inhabited

namespace Document

/-- The test that a document tells about, if it tells anything. -/
def testInfo? (d : Document) : Option TestInfo :=
  let t : TestInfo := {
    name := d.name
    version := d.version.map Json.toText
    input := d.input
    output := d.output
    assertions := d.assertions }
  if t.isBlank then none else some t

def fieldNames : List String :=
  ["name", "version", "description", "context", "pipeline", "input", "output", "assertions"]

def shape : Shape := .structure [("name", .any), ("version", .any), ("description", .any),
  ("context", .any), ("pipeline", .list StepDescription.shape), ("input", .any), ("output", .any),
  ("assertions", .any)]

def ofJson? (v : Json) : Option Document := do
  let fields ← v.fields? fieldNames
  let name ← Json.optionalText? fields "name"
  let description ← Json.optionalText? fields "description"
  let context ← Json.recordField? fields "context"
  let pipeline ← StepDescription.listOfJson? (← Json.listField? fields "pipeline")
  let assertions ← Json.listField? fields "assertions"
  some {
    name, description, context, pipeline, assertions
    version := Json.optionalValue fields "version"
    input := Json.optionalValue fields "input"
    output := Json.optionalValue fields "output" }

def parse? (text : String) : Option Document := (shape.parse? text).bind ofJson?

def toJson (d : Document) : Json := Json.object [
  ("assertions", Json.ofListUnlessEmpty d.assertions),
  ("context", some (.obj d.context)),
  ("description", d.description.map .str),
  ("input", d.input),
  ("name", d.name.map .str),
  ("output", d.output),
  ("pipeline", some (.arr (d.pipeline.map StepDescription.toJson))),
  ("version", d.version)]

end Document
end StepPipeline
