import StepPipeline.Decimal.Reading
import StepPipeline.Text.Blank

/-!
# Paths

A path names a place inside a JSON value: `a.b[0].c` is the key `a`, the key `b`, the index 0 and
the key `c`. Dots separate the parts of a path. A part is read as an optional name followed by
indices when it is `name[i]…[k]` with every index a number, blanks around it allowed; any other
part is one key, brackets and all.
-/

namespace StepPipeline

/-- One step down into a value. -/
inductive Segment where
  | key (name : String)
  | index (position : Nat)
  deriving DecidableEq, Inhabited

/-- The way to a place inside a value, from the outside in. -/
abbrev Path := List Segment

namespace Segment

/-- The position in an array that the segment denotes; a key denotes one when it reads as an
index. -/
def toIndex? : Segment → Option Nat
  | index i => some i
  | key name => Decimal.readIndex? name.toList

/-- The name in a record that the segment denotes; an index is written in digits. -/
def toKey : Segment → String
  | key name => name
  | index i => String.ofList (Nat.toDigits 10 i)

end Segment

namespace Path

def splitBrackets : List Char → List (List Char)
  | [] => [[]]
  | ']' :: '[' :: rest => [] :: splitBrackets rest
  | c :: rest =>
    match splitBrackets rest with
    | [] => [[c]]
    | piece :: pieces => (c :: piece) :: pieces

def beforeBracket (part : List Char) : List Char := part.takeWhile (· ≠ '[')

/-- The characters between the first opening bracket and a closing bracket at the very end. -/
def insideBrackets? (part : List Char) : Option (List Char) :=
  match part.dropWhile (· ≠ '[') with
  | [] => none
  | _ :: tail => if tail.getLast? = some ']' then some tail.dropLast else none

/-- The indices of a part, when it has the form `name[i]…[k]`. -/
def indices? (part : List Char) : Option (List Nat) :=
  (insideBrackets? part).bind fun inside =>
    (splitBrackets inside).mapM fun piece => Decimal.readIndex? (Text.trim piece)

def ofPart (part : List Char) : Path :=
  match indices? part with
  | some indices =>
    let name := beforeBracket part
    (if name.isEmpty then [] else [.key (String.ofList name)]) ++ indices.map .index
  | none => [.key (String.ofList part)]

/-- The path that a text writes; the empty text is the empty path. -/
def parse (text : String) : Path :=
  if text = "" then [] else (text.toList.splitOn '.').flatMap ofPart

end Path
end StepPipeline
