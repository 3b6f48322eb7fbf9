import StepPipeline.Json.Written
import StepPipeline.Template.Environment

/-!
# The variables of a document

Which variables of the environment a document asks for. A program that can look up one variable at
a time asks for these, and then once more for those that the values ask for: a suite replaces what
its setup has left in the context a second time.
-/

namespace StepPipeline

/-- The variables that the texts inside a value ask for. -/
def Environment.requests : Json → List String
  | .str text => (requested? text).toList
  | .arr items => items.flatMap fun v => requests v
  | .obj fields => fields.flatMap fun e => requests e.2
  | _ => []
termination_by v => sizeOf v
decreasing_by
  all_goals simp_wf
  · have := List.sizeOf_lt_of_mem ‹_›; omega
  · have := Json.sizeOf_lt_of_mem ‹_›; omega

namespace Cli

def requestsOfText (text : String) : List String :=
  match Json.parse? text with
  | some v => Environment.requests v
  | none => []

def environmentOf (pairs : List (String × String)) : Environment := Table.find? pairs

end Cli
end StepPipeline
