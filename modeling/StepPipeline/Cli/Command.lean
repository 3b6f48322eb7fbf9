import StepPipeline.Cli.Arguments

/-!
# Commands

What a command line asks for: to run, check or describe the pipeline of a file, or to run a suite.
In front of the name of the command stand only the options that every command knows.
-/

namespace StepPipeline.Cli

/-- What the arguments of `run` ask for besides the document. -/
structure RunOptions where
  /-- The text of the input record. -/
  input : Option String := none
  /-- The values to lay over the context, in order. -/
  assignments : List (String × Json) := []
  /-- Whether to go on after a fault. -/
  continueOnError : Bool := false
  /-- Whether to print the result as JSON. -/
  json : Bool := false
  /-- Whether to tell events. -/
  events : Bool := false

inductive Command where
  | run (path : String) (options : RunOptions)
  | validate (path : String)
  | info (path : String)
  | suite (path : String) (json : Bool)

def Command.path : Command → String
  | run path _ => path
  | validate path => path
  | info path => path
  | suite path _ => path

inductive CommandName where
  | run
  | validate
  | info
  | suite
  deriving DecidableEq

namespace CommandName

def text : CommandName → String
  | run => "run"
  | validate => "validate"
  | info => "info"
  | suite => "suite"

def ofText? (name : String) : Option CommandName :=
  [run, validate, info, suite].find? (·.text == name)

def options : CommandName → List OptionName
  | run => [.help, .verbose, .input, .set, .continueOnError, .json, .events]
  | validate => [.help, .verbose]
  | info => [.help, .verbose]
  | suite => [.help, .verbose, .json]

def withArguments (name : CommandName) (path : String) (g : Given) : Command :=
  let has := fun (o : OptionName) => g.flags.contains o
  match name with
  | run => .run path {
      input := g.input
      assignments := g.assignments
      continueOnError := has .continueOnError
      json := has .json
      events := has .events }
  | validate => .validate path
  | info => .info path
  | suite => .suite path (has .json)

def read (name : CommandName) (arguments : List String) : Except Stop Command := do
  let given ← Given.read name.options arguments
  match given.path with
  | some path => return name.withArguments path given
  | none => throw .usage

end CommandName

namespace Command

/-- The options in front of a command. -/
def globalOptions : List OptionName := [.help, .version, .verbose]

/-- How the command `help` ends: it knows at most one name of a command. -/
def helpStop : List String → Stop
  | [] => .help
  | [name] => if name = "help" || (CommandName.ofText? name).isSome then .help else .usage
  | _ => .usage

def isGlobal : Item → Bool
  | .option _ _ => true
  | _ => false

/-- Read a command line, after the options in `given`. -/
def readAfter (given : Given) : List String → Except Stop Command
  | [] => throw .usage
  | argument :: rest =>
    match CommandName.ofText? argument with
    | some name => name.read rest
    | none =>
      if argument = "help" then throw (helpStop rest)
      else if argument = "--" then throw .usage
      else do
        let options := items globalOptions [argument]
        let given ← (options.map fun i => if isGlobal i then i else .unknown).foldlM Given.add given
        readAfter given rest

def read (arguments : List String) : Except Stop Command := readAfter {} arguments

end Command
end StepPipeline.Cli
