/-!
# Faults

Every way in which building or running a pipeline can go wrong, and its text. A fault is about the
*configuration* when it was raised before a block did any work of its own.
-/

namespace StepPipeline

/-- Why a pipeline could not be built, or why a step failed. -/
inductive Fault where
  /-- The names that a block requires and a step does not supply. -/
  | missingInputs (block : String) (missing : List String)
  | blockFailed (block : String) (reason : String)
  | unknownOperator (operator : String)
  | missingOperand (operator : String)
  | invalidCondition (reason : String)
  | invalidPattern (pattern : String) (reason : String)
  | invalidPath (path : String) (reason : String)
  | unknownBlockType (tag : String)
  | invalidPipeline (reason : String)
  | http (reason : String)
  | io (reason : String)
  | json (reason : String)
  | other (reason : String)
  deriving DecidableEq, Inhabited

namespace Fault

def message : Fault → String
  | missingInputs block missing =>
    s!"Block '{block}' is missing required inputs: " ++ ", ".intercalate missing
  | blockFailed block reason => s!"Block '{block}' failed: {reason}"
  | unknownOperator operator => s!"Unknown condition operator: {operator}"
  | missingOperand operator => s!"Condition operator '{operator}' requires a value"
  | invalidCondition reason => s!"Invalid condition: {reason}"
  | invalidPattern pattern reason => s!"Invalid pattern '{pattern}': {reason}"
  | invalidPath path reason => s!"Invalid path '{path}': {reason}"
  | unknownBlockType tag => s!"Unknown block type: {tag}"
  | invalidPipeline reason => s!"Invalid pipeline: {reason}"
  | http reason => s!"HTTP error: {reason}"
  | io reason => s!"IO error: {reason}"
  | json reason => s!"JSON error: {reason}"
  | other reason => reason

/-- Whether the fault is about bad wiring or a bad description. -/
def aboutConfiguration : Fault → Bool
  | missingInputs _ _ => true
  | unknownBlockType _ => true
  | invalidPipeline _ => true
  | _ => false

end Fault
end StepPipeline
