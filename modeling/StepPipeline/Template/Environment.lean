import StepPipeline.Json.Basic
import StepPipeline.Template.Placeholder

/-!
# Expanding from the environment

Before a pipeline is built, every text that is one placeholder `${env.NAME}` is replaced by the
variable `NAME` of the environment, if it is set. Such a placeholder inside a longer text stays.
-/

namespace StepPipeline

/-- The environment that a pipeline is built in. -/
abbrev Environment := String → Option String

namespace Environment

/-- The variable that a text asks for as a whole. -/
def requested? (text : String) : Option String :=
  (Template.whole? text).bind fun path =>
    match path.toList with
    | 'e' :: 'n' :: 'v' :: '.' :: name => some (String.ofList name)
    | _ => none

/-- Replace a text that asks for a variable that is set. -/
def expandText (env : Environment) (text : String) : String :=
  ((requested? text).bind env).getD text

def expand (env : Environment) : Json → Json
  | .str text => .str (expandText env text)
  | .arr items => .arr (items.map fun v => expand env v)
  | .obj fields => .obj (fields.map fun e => (e.1, expand env e.2))
  | v => v
termination_by v => sizeOf v
decreasing_by
  all_goals simp_wf
  · have := List.sizeOf_lt_of_mem ‹_›; omega
  · have := Json.sizeOf_lt_of_mem ‹_›; omega

def expandFields (env : Environment) (fields : Record) : Record :=
  fields.map fun e => (e.1, expand env e.2)

end Environment
end StepPipeline
