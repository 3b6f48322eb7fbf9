import StepPipeline.Pattern.CharSet

/-!
# Patterns

A pattern is a tree of characters, conditions on a place in the text, sequences, choices and
repetitions. Repetitions keep their counts and are never written out.
-/

namespace StepPipeline.Pattern

/-- A condition on a place between two characters. -/
inductive Look where
  | textStart
  | textEnd
  /-- The start of a line; lines may end in `\r\n` if asked for. -/
  | lineStart (crlf : Bool)
  | lineEnd (crlf : Bool)
  /-- A word on exactly one side. -/
  | wordBoundary (word : CharSet)
  | notWordBoundary (word : CharSet)
  | wordStart (word : CharSet)
  | wordEnd (word : CharSet)
  | wordStartHalf (word : CharSet)
  | wordEndHalf (word : CharSet)
  deriving BEq

/-- A place in a text: the character before it and the one behind it. -/
structure Place where
  before : Option Char
  behind : Option Char

namespace Look

def within (set : CharSet) (c : Option Char) : Bool := c.any set.contains

def holds (look : Look) (p : Place) : Bool :=
  match look with
  | textStart => p.before.isNone
  | textEnd => p.behind.isNone
  | lineStart false => p.before.isNone || p.before == some '\n'
  | lineStart true =>
    p.before.isNone || p.before == some '\n' || (p.before == some '\r' && p.behind != some '\n')
  | lineEnd false => p.behind.isNone || p.behind == some '\n'
  | lineEnd true =>
    p.behind.isNone || p.behind == some '\r' || (p.behind == some '\n' && p.before != some '\r')
  | wordBoundary w => within w p.before != within w p.behind
  | notWordBoundary w => within w p.before == within w p.behind
  | wordStart w => !within w p.before && within w p.behind
  | wordEnd w => within w p.before && !within w p.behind
  | wordStartHalf w => !within w p.before
  | wordEndHalf w => !within w p.behind

end Look

/-- A pattern that was read, with its flags worked into its sets. -/
inductive Node where
  | empty
  | char (set : CharSet)
  | look (condition : Look)
  /-- A group that remembers what it matched. -/
  | group (body : Node)
  | seq (first second : Node)
  | alt (first second : Node)
  /-- At least `least` times and, unless there is no bound, at most `most` times. -/
  | rep (body : Node) (least : Nat) (most : Option Nat)
  deriving BEq, Inhabited

end StepPipeline.Pattern
