import StepPipeline.Document.Basic

/-!
# Suite documents

A suite is a list of tests, each a pipeline of its own, with steps to run once before and once
after them.
-/

namespace StepPipeline

/-- A pipeline of a suite with its own input, and with values for its context. -/
structure TestCase where
  name : String
  input : Record := []
  context : Record := []
  pipeline : List StepDescription
  deriving Inhabited

namespace TestCase

def fieldNames : List String := ["name", "input", "context", "pipeline"]

def shape : Shape := .structure [("name", .any), ("input", .any), ("context", .any),
  ("pipeline", .list StepDescription.shape)]

def ofJson? (v : Json) : Option TestCase := do
  let fields ← v.fields? fieldNames
  let name ← Json.textField? fields "name"
  let input ← Json.recordField? fields "input"
  let context ← Json.recordField? fields "context"
  let items ← (Table.find? fields "pipeline").bind Json.asItems?
  let pipeline ← StepDescription.listOfJson? items
  some { name, input, context, pipeline }

def toJson (t : TestCase) : Json := .obj [
  ("context", .obj t.context),
  ("input", .obj t.input),
  ("name", .str t.name),
  ("pipeline", .arr (t.pipeline.map StepDescription.toJson))]

end TestCase

/-- Tests with what is run before the first and after the last of them. -/
structure Suite where
  name : Option String := none
  context : Record := []
  setup : List StepDescription := []
  tests : List TestCase := []
  teardown : List StepDescription := []
  deriving Inhabited

namespace Suite

def fieldNames : List String := ["name", "context", "setup", "tests", "teardown"]

def shape : Shape := .structure [("name", .any), ("context", .any),
  ("setup", .list StepDescription.shape), ("tests", .list TestCase.shape),
  ("teardown", .list StepDescription.shape)]

def ofJson? (v : Json) : Option Suite := do
  let fields ← v.fields? fieldNames
  let name ← Json.optionalText? fields "name"
  let context ← Json.recordField? fields "context"
  let setup ← StepDescription.listOfJson? (← Json.listField? fields "setup")
  let tests ← (← Json.listField? fields "tests").mapM TestCase.ofJson?
  let teardown ← StepDescription.listOfJson? (← Json.listField? fields "teardown")
  some { name, context, setup, tests, teardown }

def parse? (text : String) : Option Suite := (shape.parse? text).bind ofJson?

def toJson (s : Suite) : Json := Json.object [
  ("context", some (.obj s.context)),
  ("name", s.name.map .str),
  ("setup", Json.ofListUnlessEmpty (s.setup.map StepDescription.toJson)),
  ("teardown", Json.ofListUnlessEmpty (s.teardown.map StepDescription.toJson)),
  ("tests", some (.arr (s.tests.map TestCase.toJson)))]

end Suite
end StepPipeline
