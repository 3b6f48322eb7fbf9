import StepPipeline.Document.Lint
import StepPipeline.Run.Pipeline
import StepPipeline.Suite.Running

/-!
# Results for the console

Runs, suites, findings and documents as lines of text. No time is measured, so every duration is
zero.
-/

namespace StepPipeline.Cli

def mark (success : Bool) : String := if success then "✓" else "✗"

def verdict (success : Bool) : String := if success then "PASSED" else "FAILED"

def nameOrUnnamed (name : Option String) : String := name.getD "<unnamed>"

/-- Lines as one text; each ends with a line feed. -/
def unlines (lines : List String) : String := String.join (lines.map (· ++ "\n"))

def optionalLine (title : String) (part : Option String) : List String :=
  (part.map fun text => title ++ text).toList

def resultLine (indent : String) (r : StepResult) : String :=
  let head := s!"{indent}{mark r.success} {r.id} (0 ms)"
  match r.error with
  | some error => head ++ ": " ++ error
  | none => head

/-- The lines in front of a run. -/
def announcement (name : String) (description : Option String) : List String :=
  ["Running pipeline: " ++ name] ++ description.toList ++ [""]

def runLines (name : String) (result : RunResult) (summary : Summary) : List String :=
  let counts := s!"{summary.total} total, {summary.executed} executed, "
    ++ s!"{summary.succeeded} succeeded, {summary.failed} failed"
  ["Pipeline: " ++ name] ++ summary.results.map (resultLine "  ")
    ++ ["", "Blocks: " ++ counts, "Duration: 0 ms", "Result: " ++ verdict result.success]
    ++ optionalLine "Error: " result.error

def partLines (r : PartReport) : List String :=
  let results := (r.summary.map Summary.results).getD []
  [mark r.success ++ " " ++ r.name] ++ results.map (resultLine "    ")
    ++ optionalLine "    error: " r.error

def suiteLines (r : SuiteReport) : List String :=
  let parts := r.setup.toList ++ r.tests ++ r.teardown.toList
  ["Suite: " ++ nameOrUnnamed r.name] ++ parts.flatMap partLines
    ++ ["", s!"Tests: {r.passed} passed, {r.failed} failed (0 ms)",
      "Result: " ++ verdict r.success]

def severityLabel : Severity → String
  | .error => "ERROR"
  | .warning => "WARN"
  | .info => "INFO"

def findingLines (d : Finding) : List String :=
  let place := match d.stepId with
    | some id => s!" ({id})"
    | none => ""
  [s!"[{severityLabel d.severity}] {d.rule}{place}: {d.message}"]
    ++ optionalLine "    fix: " d.fix

def lintLines (findings : List Finding) : List String :=
  if findings.isEmpty then ["Pipeline is valid"] else findings.flatMap findingLines

/-- Where the inputs of a step come from, in short. -/
def inputText : Option InputSource → String
  | none => "<data bus>"
  | some (.template text) => "body=" ++ text
  | some (.source path name) => name.getD "" ++ "<-" ++ path
  | some (.record fields) => "\x7b" ++ ", ".intercalate (Table.keys fields) ++ "\x7d"

/-- Where the output of a step goes, in short. -/
def outputText (id : String) : Option OutputTarget → String
  | none => id
  | some (.slot name) => name
  | some (.mapping slots) => ", ".intercalate (slots.map fun e => e.1 ++ "->" ++ e.2)

def stepLine (step : StepDescription) (index : Nat) : String :=
  let id := step.effectiveId
  let input := inputText step.input
  let output := outputText id step.output
  s!"  {index}. {id} [{step.block}] input={input} output={output}"

def infoLines (d : Document) : List String :=
  let counted := fun (title : String) (n : Nat) => if n = 0 then [] else [s!"{title}{n}"]
  let keys := if d.context.isEmpty then none else some (", ".intercalate (Table.keys d.context))
  ["Pipeline: " ++ nameOrUnnamed d.name] ++ optionalLine "Version: " (d.version.map Json.compact)
    ++ optionalLine "Description: " d.description ++ [s!"Steps: {d.pipeline.length}"]
    ++ optionalLine "Context keys: " keys ++ counted "Assertions: " d.assertions.length
    ++ ["", "Steps:"] ++ d.pipeline.zipIdx.map fun e => stepLine e.1 e.2

end StepPipeline.Cli
