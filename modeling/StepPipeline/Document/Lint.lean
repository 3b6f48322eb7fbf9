import StepPipeline.Condition.Basic
import StepPipeline.Document.Basic
import StepPipeline.Text.Search

/-!
# Checking documents

What can be said about a document without running it: that it has steps, that their blocks are
registered, that ids are unique, that loops jump back, and that conditions are well-formed. A
finding is an error, which keeps the document from being built, or a warning.

Conditions and targets can only be checked when they are written in the document.
`StepDescription.fixedField?` is what a step is bound to receive under a name, and a text with
`${` in it is left alone.
-/

namespace StepPipeline

/-- Only an error keeps a document from being built. -/
inductive Severity where
  | error
  | warning
  | info
  deriving DecidableEq, Inhabited

/-- What the check reports about one step, or about the document as a whole. -/
structure Finding where
  rule : String
  severity : Severity
  message : String
  stepId : Option String
  stepIndex : Option Nat
  /-- What to do about it. -/
  fix : Option String
  deriving Inhabited

def Finding.about (step : StepDescription) (index : Nat) (rule : String) (severity : Severity)
    (message : String) (fix : Option String) : Finding :=
  ⟨rule, severity, message, some step.effectiveId, some index, fix⟩

def Severity.name : Severity → String
  | error => "Error"
  | warning => "Warning"
  | info => "Info"

def Finding.toJson (d : Finding) : Json := .obj [
  ("fix", Json.ofOption (d.fix.map .str)),
  ("message", .str d.message),
  ("rule", .str d.rule),
  ("severity", .str d.severity.name),
  ("step_id", Json.ofOption (d.stepId.map .str)),
  ("step_index", Json.ofOption (d.stepIndex.map Json.nat))]

namespace StepDescription

def configField? (step : StepDescription) (key : String) : Option Json :=
  step.configFields?.bind fun config => Table.find? config key

/-- The value that a record of inputs has under a name. -/
def inputField? (step : StepDescription) (key : String) : Option Json :=
  match step.input with
  | some (.record fields) => Table.find? fields key
  | _ => none

/-- The value that a step receives under a name according to the document: the `config` goes before
a record of inputs. -/
def fixedField? (step : StepDescription) (key : String) : Option Json :=
  match step.configField? key with
  | some v => some v
  | none => step.inputField? key

end StepDescription

/-- Whether a value is a text that may hold a placeholder. -/
def Json.mayHoldPlaceholder : Json → Bool
  | .str s => Text.contains s "$\x7b"
  | _ => false

namespace Lint

def numbered (d : Document) : List (StepDescription × Nat) := d.pipeline.zipIdx

/-- A document has steps. -/
def nonEmpty (d : Document) : List Finding :=
  if d.pipeline.isEmpty then
    [⟨"non_empty", .error, "Pipeline has no steps", none, none,
      some "Add at least one entry to the \"pipeline\" array"⟩]
  else []

def unknownBlock (registry : Registry) (step : StepDescription) (index : Nat) : Finding :=
  .about step index "known_block_type" .error
    s!"Step '{step.effectiveId}' uses unknown block type '{step.block}'"
    (some ("Use one of: " ++ ", ".intercalate registry.types))

/-- All blocks are registered. -/
def knownBlockType (d : Document) (registry : Registry) : List Finding :=
  ((numbered d).filter fun e => !registry.has e.1.block).map fun e =>
    unknownBlock registry e.1 e.2

/-- The position of the first step with the id of the step at a position, if that is an earlier
one. -/
def firstHolder? (d : Document) (id : String) (index : Nat) : Option Nat :=
  (d.pipeline.take index).findIdx? fun step => step.effectiveId == id

def repeatedId (step : StepDescription) (index first : Nat) : Finding :=
  let message := s!"Step id '{step.effectiveId}' is already used by step {first}; "
    ++ "loop targets resolve to the first one"
  .about step index "duplicate_id" .warning message
    (some "Give the step an explicit unique \"id\"")

/-- Ids are unique. -/
def duplicateId (d : Document) : List Finding :=
  (numbered d).filterMap fun e =>
    (firstHolder? d e.1.effectiveId e.2).map fun first => repeatedId e.1 e.2 first

def isEarlier (d : Document) (index : Nat) : Json → Bool
  | .str id => (firstHolder? d id index).isSome
  | .num n => n.toIndex?.any fun target => target < index
  | _ => false

def badTarget (step : StepDescription) (index : Nat) (target : Json) : Finding :=
  let message := s!"Loop step '{step.effectiveId}' targets {target.compact}, "
    ++ "which is not an earlier step; the jump will be ignored"
  .about step index "loop_target" .warning message
    (some "Point \"target\" at the id of a step defined before the loop")

/-- The target of a loop that the document gives and that is no earlier step. -/
def badTarget? (d : Document) (step : StepDescription) (index : Nat) : Option Json :=
  if step.block = "loop" then
    (step.fixedField? "target").filter fun t => !t.mayHoldPlaceholder && !isEarlier d index t
  else none

/-- Loops jump back. -/
def loopTarget (d : Document) : List Finding :=
  (numbered d).filterMap fun e => (badTarget? d e.1 e.2).map (badTarget e.1 e.2)

/-- What is wrong with a list of conditions. -/
def conditionProblems (conditions : Json) : List Fault :=
  match Condition.readAll conditions with
  | .error f => [f]
  | .ok cs => cs.filterMap fun c =>
    match c.usableOperator with
    | .error f => some f
    | .ok _ => none

/-- What is wrong with the conditions that the document gives to a step. -/
def stepProblems (step : StepDescription) : List Fault :=
  match step.fixedField? "conditions" with
  | some conditions => if conditions.mayHoldPlaceholder then [] else conditionProblems conditions
  | none => []

def badCondition (step : StepDescription) (index : Nat) (problem : Fault) : Finding :=
  .about step index "condition_syntax" .error
    s!"Step '{step.effectiveId}' has an invalid condition: {problem.message}" none

/-- Conditions are well-formed. -/
def conditionSyntax (d : Document) : List Finding :=
  (numbered d).flatMap fun e => (stepProblems e.1).map (badCondition e.1 e.2)

end Lint

/-- All findings about a document, rule by rule. -/
def Document.lint (d : Document) (registry : Registry) : List Finding :=
  Lint.nonEmpty d ++ Lint.knownBlockType d registry ++ Lint.duplicateId d ++ Lint.loopTarget d
    ++ Lint.conditionSyntax d

/-- The findings about a document without errors; errors are a fault. -/
def Document.check (d : Document) (registry : Registry) : Except Fault (List Finding) :=
  let findings := d.lint registry
  let errors := findings.filter fun f => f.severity == .error
  if errors.isEmpty then .ok findings
  else .error (.invalidPipeline ("; ".intercalate (errors.map Finding.message)))

end StepPipeline
