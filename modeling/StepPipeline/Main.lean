import StepPipeline.Cli.Response
import StepPipeline.Cli.Variables

/-!
# The program

Reads the file and the variables that a command line is about, and shows the response: events and
the error on the error stream, all else on the output.
-/

namespace StepPipeline.Cli

def readText? (path : String) : IO (Option String) := do
  try return some (← IO.FS.readFile path)
  catch _ => return none

def lookUp (names : List String) : IO (List (String × String)) :=
  names.filterMapM fun name => do return (← IO.getEnv name).map fun value => (name, value)

/-- The environment, as far as a text asks for it. -/
def environmentFor (text : String) : IO Environment := do
  let first ← lookUp (requestsOfText text)
  let second ← lookUp (first.flatMap fun e => (Environment.requested? e.2).toList)
  return environmentOf (first ++ second)

/-- Show a response and end with its exit code. -/
def present (response : Response) : IO UInt32 := do
  IO.print response.output
  for event in response.events do IO.eprintln event.toJson.compact
  for error in response.error do IO.eprintln ("Error: " ++ error)
  return response.exit.toUInt32

def runProgram (arguments : List String) : IO UInt32 := do
  match Command.read arguments with
  | .error stop => present (.ofStop stop)
  | .ok command =>
    let text ← readText? command.path
    let env ← environmentFor (text.getD "")
    present (command.perform env text)

end StepPipeline.Cli

def main (arguments : List String) : IO UInt32 := StepPipeline.Cli.runProgram arguments
