import StepPipeline.Unicode.Folding
import StepPipeline.Unicode.Property

/-!
# Sets of characters

What one place of a pattern accepts: ranges and properties, joined by union, intersection and
complement. `folded s` is `s` closed under case: it holds of a character when `s` holds of one that
differs from it in case only. `ranges` writes a set out.
-/

namespace StepPipeline.Pattern

/-- Sets of characters as expressions, which `CharSet.contains` evaluates. -/
inductive CharSet where
  | empty
  /-- The scalar values from `low` to `high`. -/
  | range (low high : Nat)
  | property (p : Unicode.Property)
  | union (a b : CharSet)
  | inter (a b : CharSet)
  | compl (a : CharSet)
  | folded (a : CharSet)
  deriving BEq

namespace CharSet

def contains : CharSet → Char → Bool
  | empty, _ => false
  | range low high, c => low ≤ c.toNat && c.toNat ≤ high
  | property p, c => p.holds c
  | union a b, c => a.contains c || b.contains c
  | inter a b, c => a.contains c && b.contains c
  | compl a, c => !a.contains c
  | folded a, c => (Unicode.orbit c).any a.contains

def ranges : CharSet → Unicode.Ranges
  | empty => .empty
  | range low high => if low ≤ high then .between low high else .empty
  | property p => p.ranges
  | union a b => a.ranges ∪ b.ranges
  | inter a b => a.ranges ∩ b.ranges
  | compl a => a.ranges.compl
  | folded a => a.ranges.closeUnderCase

def single (c : Char) : CharSet := range c.toNat c.toNat

def between (low high : Char) : CharSet := range low.toNat high.toNat

def unions (sets : List CharSet) : CharSet := sets.foldr union empty

def diff (a b : CharSet) : CharSet := inter a (compl b)

def symmDiff (a b : CharSet) : CharSet := union (diff a b) (diff b a)

def complIf (negated : Bool) (a : CharSet) : CharSet := if negated then compl a else a

def foldIf (fold : Bool) (a : CharSet) : CharSet := if fold then folded a else a

def asciiDigit : CharSet := between '0' '9'

def asciiLetter : CharSet := union (between 'a' 'z') (between 'A' 'Z')

def asciiWord : CharSet := unions [asciiLetter, asciiDigit, single '_']

def asciiSpace : CharSet := union (range 9 13) (single ' ')

/-- The named classes that may stand inside brackets. -/
def ascii? (name : String) : Option CharSet :=
  match name with
  | "alnum" => some (union asciiLetter asciiDigit)
  | "alpha" => some asciiLetter
  | "ascii" => some (range 0 127)
  | "blank" => some (union (single '\t') (single ' '))
  | "cntrl" => some (union (range 0 31) (range 127 127))
  | "digit" => some asciiDigit
  | "graph" => some (range 33 126)
  | "lower" => some (between 'a' 'z')
  | "print" => some (range 32 126)
  | "punct" => some (unions [range 33 47, range 58 64, range 91 96, range 123 126])
  | "space" => some asciiSpace
  | "upper" => some (between 'A' 'Z')
  | "word" => some asciiWord
  | "xdigit" => some (unions [asciiDigit, between 'A' 'F', between 'a' 'f'])
  | _ => none

end CharSet
end StepPipeline.Pattern
