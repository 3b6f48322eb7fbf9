import StepPipeline.Document.Build
import StepPipeline.Suite.Basic

/-!
# Running suites

The setup runs once with the suite's context. What it leaves in its context, counters and test
aside, is shared: every test begins with it, its own values laid over, and so does the teardown.
When the setup fails no test runs, and each fails with the setup's reason; the teardown always
runs.
-/

namespace StepPipeline

/-- The report of one part of a suite: the setup, a test or the teardown. -/
structure PartReport where
  name : String
  success : Bool
  error : Option String
  /-- Missing when the pipeline did not run. -/
  summary : Option Summary
  deriving DecidableEq, Inhabited

namespace PartReport

def notRun (name error : String) : PartReport := ⟨name, false, some error, none⟩

def toJson (r : PartReport) : Json := Json.object [
  ("error", r.error.map .str),
  ("name", some (.str r.name)),
  ("success", some (.bool r.success)),
  ("summary", r.summary.map Summary.toJson)]

end PartReport

/-- Setup and teardown are reported if they have steps, a test also if it was passed over. -/
structure SuiteReport where
  name : Option String
  success : Bool
  passed : Nat
  failed : Nat
  setup : Option PartReport
  tests : List PartReport
  teardown : Option PartReport
  deriving DecidableEq, Inhabited

def SuiteReport.toJson (r : SuiteReport) : Json := Json.object [
  ("duration_ms", some (.nat 0)),
  ("failed", some (.nat r.failed)),
  ("name", r.name.map .str),
  ("passed", some (.nat r.passed)),
  ("setup", r.setup.map PartReport.toJson),
  ("success", some (.bool r.success)),
  ("teardown", r.teardown.map PartReport.toJson),
  ("tests", some (.arr (r.tests.map PartReport.toJson)))]

/-- What a part of a suite leaves behind. -/
structure Part where
  report : PartReport
  /-- The context at the end, without counters and test, if the pipeline ran. -/
  context : Option Record
  events : List Event

namespace Part

def notRun (name error : String) : Part := ⟨.notRun name error, none, []⟩

def ofRun (name : String) (done : Pipeline × RunResult) : Part where
  report := ⟨name, done.2.success, done.2.error, some done.1.state.summary⟩
  context := some (Context.withoutBookkeeping done.2.context)
  events := done.1.state.events

end Part

namespace Workbench

def partDocument (name : String) (steps : List StepDescription) (context : Record) : Document :=
  { name := some name, context := context, pipeline := steps }

def runPart (b : Workbench) (name : String) (steps : List StepDescription)
    (input context : Record) : Part :=
  match b.build (partDocument name steps context) with
  | .error f => .notRun name f.message
  | .ok pipeline => .ofRun name (pipeline.run input [])

def runSetup (b : Workbench) (suite : Suite) : Option Part :=
  if suite.setup.isEmpty then none
  else some (b.runPart "setup" suite.setup [] suite.context)

/-- Why tests do not run after a setup, if it failed. -/
def setupError? (setup : Option Part) : Option String :=
  setup.bind fun part =>
    if part.report.success then none else some (part.report.error.getD "unknown error")

/-- The values that the tests and the teardown share. -/
def sharedContext (suite : Suite) (setup : Option Part) : Record :=
  (setup.bind Part.context).getD suite.context

/-- Run a test in the context that the setup left, unless the setup failed. -/
def runTest (b : Workbench) (shared : Record) (setupError : Option String) (test : TestCase) :
    Part :=
  match setupError with
  | some reason => .notRun test.name s!"Setup failed: {reason}"
  | none => b.runPart test.name test.pipeline test.input (Table.overlay shared test.context)

def runTeardown (b : Workbench) (suite : Suite) (shared : Record) : Option Part :=
  if suite.teardown.isEmpty then none
  else some (b.runPart "teardown" suite.teardown [] shared)

def suiteReport (suite : Suite) (setup : Option Part) (tests : List Part)
    (teardown : Option Part) : SuiteReport :=
  let reports := tests.map Part.report
  let passed := (reports.filter PartReport.success).length
  let succeeded := fun (part : Option Part) => part.all fun p => p.report.success
  { name := suite.name
    success := reports.length - passed == 0 && succeeded setup && succeeded teardown
    passed := passed
    failed := reports.length - passed
    setup := setup.map Part.report
    tests := reports
    teardown := teardown.map Part.report }

/-- Run a suite; also tell the events of all runs, in order. -/
def runSuite (b : Workbench) (suite : Suite) : SuiteReport × List Event :=
  let setup := b.runSetup suite
  let shared := sharedContext suite setup
  let tests := suite.tests.map (b.runTest shared (setupError? setup))
  let teardown := b.runTeardown suite shared
  (suiteReport suite setup tests teardown,
    (setup.toList ++ tests ++ teardown.toList).flatMap Part.events)

end Workbench
end StepPipeline
