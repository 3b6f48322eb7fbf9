import StepPipeline.Json.Written

/-!
# Reading a command line

An argument is a word, a long option (`--name` or `--name=value`), or a cluster of short ones
(`-vi5`, where the first option that takes a value takes the rest, an equals sign before it
dropped). An option whose value is not attached takes the next argument, provided that it is a
word; a lone dash is one. Behind `--` everything is a word, but no value.

`items` cuts a list of arguments into items, `attachValues` joins options to the values behind
them, and `Given.add` takes the items up from left to right. The first item that stops the reading
decides how it ends, so an option for help wins over a mistake behind it and loses against one
before it.
-/

namespace StepPipeline.Cli

/-- Why no command is performed. -/
inductive Stop where
  /-- The command line makes no sense. -/
  | usage
  | help
  | version
  deriving DecidableEq

inductive OptionName where
  | help
  | version
  | verbose
  | input
  | set
  | continueOnError
  | json
  | events
  deriving DecidableEq

namespace OptionName

def long : OptionName → String
  | help => "help"
  | version => "version"
  | verbose => "verbose"
  | input => "input"
  | set => "set"
  | continueOnError => "continue-on-error"
  | json => "json"
  | events => "events"

def short? : OptionName → Option Char
  | help => some 'h'
  | version => some 'V'
  | verbose => some 'v'
  | input => some 'i'
  | _ => none

def takesValue : OptionName → Bool
  | input => true
  | set => true
  | _ => false

end OptionName

/-- One argument as it was read, before it is asked whether the command allows it. -/
inductive Item where
  /-- A word; it can be the value of the option before it. -/
  | word (text : String)
  /-- A word behind `--`. -/
  | operand (text : String)
  | option (name : OptionName) (value : Option String)
  /-- An option that is not known, or that must not have the value attached to it. -/
  | unknown
  deriving DecidableEq

def longItem (known : List OptionName) (cs : List Char) : Item :=
  let name := String.ofList (cs.takeWhile (· ≠ '='))
  let attached := (cs.dropWhile (· ≠ '=')).tail?.map String.ofList
  match known.find? (·.long == name) with
  | some o => if attached.isSome && !o.takesValue then .unknown else .option o attached
  | none => .unknown

/-- What is attached to a short option. -/
def attached? : List Char → Option String
  | [] => none
  | '=' :: value => some (String.ofList value)
  | value => some (String.ofList value)

/-- The items of the letters that follow one dash. -/
def clusterItems (known : List OptionName) : List Char → List Item
  | [] => []
  | c :: rest =>
    match known.find? (·.short? == some c) with
    | some o =>
      if o.takesValue then [.option o (attached? rest)]
      else .option o none :: clusterItems known rest
    | none => [.unknown]

def items (known : List OptionName) : List String → List Item
  | [] => []
  | argument :: rest =>
    match argument.toList with
    | ['-', '-'] => rest.map .operand
    | '-' :: '-' :: name => longItem known name :: items known rest
    | '-' :: c :: letters => clusterItems known (c :: letters) ++ items known rest
    | _ => .word argument :: items known rest

/-- Let options that lack a value take the word behind them. -/
def attachValues : List Item → List Item
  | .option o none :: .word text :: rest =>
    if o.takesValue then .option o (some text) :: attachValues rest
    else .option o none :: attachValues (.word text :: rest)
  | item :: rest => item :: attachValues rest
  | [] => []

/-- The name and the value in `NAME=VALUE`; a value that is no JSON text stands for itself. -/
def assignment? (text : String) : Option (String × Json) :=
  let cs := text.toList
  let name := cs.takeWhile (· ≠ '=')
  match cs.dropWhile (· ≠ '=') with
  | _ :: value =>
    if name.isEmpty then none
    else
      let value := String.ofList value
      some (String.ofList name, (Json.parse? value).getD (.str value))
  | [] => none

/-- The arguments of one command, gathered from the items from left to right. -/
structure Given where
  /-- The file that the command is about. -/
  path : Option String := none
  input : Option String := none
  /-- The assignments, in order. -/
  assignments : List (String × Json) := []
  /-- The options that were given and take no value. -/
  flags : List OptionName := []

namespace Given

/-- Take up an item. There is one path, which is not empty, and nothing but `--set` is given
twice. -/
def add (g : Given) : Item → Except Stop Given
  | .unknown => .error .usage
  | .word text | .operand text =>
    if g.path.isSome || text = "" then .error .usage else .ok { g with path := some text }
  | .option .help _ => .error .help
  | .option .version _ => .error .version
  | .option .input (some text) =>
    if g.input.isSome then .error .usage else .ok { g with input := some text }
  | .option .set (some text) =>
    match assignment? text with
    | some a => .ok { g with assignments := g.assignments ++ [a] }
    | none => .error .usage
  | .option o _ =>
    if o.takesValue || g.flags.contains o then .error .usage
    else .ok { g with flags := o :: g.flags }

def read (known : List OptionName) (arguments : List String) : Except Stop Given :=
  (attachValues (items known arguments)).foldlM add {}

end Given
end StepPipeline.Cli
