import StepPipeline.Blocks.Standard
import StepPipeline.Cli.Command
import StepPipeline.Cli.Console

/-!
# Performing commands

The response to a command: its exit code, what it prints, the events it tells and the error it
ends with. A command sees the text of one file and the environment, nothing else. The exit code is
0 for success, 1 for a failure of the pipeline or of what it is made from, and 2 for a command
line that makes no sense.
-/

namespace StepPipeline.Cli

/-- All that a command leaves outside: exit code, printed text, events and the error. -/
structure Response where
  exit : Nat
  /-- What is printed. -/
  output : String := ""
  /-- The events that are told, one line each. -/
  events : List Event := []
  /-- The error that the command ends with. -/
  error : Option String := none

def versionLine : String := "blockrun 0.3.0"

def usageLines : List String := [
  "Usage: blockrun [-v] <COMMAND>",
  "",
  "Commands:",
  "  run <PIPELINE> [-i JSON] [--set KEY=VALUE]... [--continue-on-error] [--json] [--events]",
  "  validate <PIPELINE>",
  "  info <PIPELINE>",
  "  suite <SUITE> [--json]",
  "  help [COMMAND]"]

namespace Response

def failed (error : String) : Response := { exit := 1, error := some error }

def ofStop : Stop → Response
  | .usage => { exit := 2, error := some "invalid command line" }
  | .help => { exit := 0, output := unlines usageLines }
  | .version => { exit := 0, output := unlines [versionLine] }

def printing (success : Bool) (lines : List String) : Response :=
  { exit := if success then 0 else 1, output := unlines lines }

end Response

/-- The record in the text of an input; without a text it is empty. -/
def readInput : Option String → Except String Record
  | none => .ok []
  | some text =>
    match Json.parse? text with
    | some (.obj fields) => .ok fields
    | some v => .error ("--input must be a JSON object, got " ++ v.compact)
    | none => .error "--input is not valid JSON"

/-- The values that a run lays over the context. -/
def overrides (options : RunOptions) : Record :=
  let values := Table.ofList options.assignments
  if options.continueOnError then Table.insert values continueOnError (.bool true) else values

def workbench (env : Environment) : Workbench := ⟨Registry.standard, env⟩

def runResponse (name : String) (description : Option String) (options : RunOptions)
    (pipeline : Pipeline) (result : RunResult) : Response :=
  let summary := pipeline.state.summary
  let lines := if options.json then
      [(Json.obj [("result", result.toJson), ("summary", summary.toJson)]).indented 0]
    else announcement name description ++ runLines name result summary
  { Response.printing result.success lines with
    events := if options.events then pipeline.state.events else [] }

def runDocument (env : Environment) (path : String) (options : RunOptions) (d : Document) :
    Response :=
  match readInput options.input with
  | .error message => .failed message
  | .ok input =>
    match (workbench env).build d with
    | .error _ => .failed ("failed to build " ++ path)
    | .ok pipeline =>
      let (ended, result) := pipeline.run input (overrides options)
      runResponse (d.name.getD path) d.description options ended result

def validateDocument (d : Document) : Response :=
  let findings := d.lint Registry.standard
  .printing (findings.all fun f => f.severity != .error) (lintLines findings)

def runSuiteDocument (env : Environment) (json : Bool) (d : Suite) : Response :=
  let report := ((workbench env).runSuite d).1
  .printing report.success (if json then [report.toJson.indented 0] else suiteLines report)

/-- Go on with the document in a text, if there is one. -/
def withDocument (path : String) (text : Option String) (perform : Document → Response) :
    Response :=
  match text.bind Document.parse? with
  | some d => perform d
  | none => .failed ("failed to load " ++ path)

/-- Perform a command; `text` is that of its file, if it can be read. -/
def Command.perform (env : Environment) (text : Option String) : Command → Response
  | run path options => withDocument path text (runDocument env path options)
  | validate path => withDocument path text validateDocument
  | info path => withDocument path text fun d => .printing true (infoLines d)
  | suite path json =>
    match text.bind Suite.parse? with
    | some d => runSuiteDocument env json d
    | none => .failed ("failed to load suite " ++ path)

/-- The response to a command line; `file` tells the text of a file, if it can be read. -/
def respond (env : Environment) (file : String → Option String) (arguments : List String) :
    Response :=
  match Command.read arguments with
  | .error stop => .ofStop stop
  | .ok command => command.perform env (file command.path)

end StepPipeline.Cli
