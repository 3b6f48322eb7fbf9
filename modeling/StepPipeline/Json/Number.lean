import StepPipeline.Decimal.Reading
import StepPipeline.Decimal.Shortest

/-!
# JSON numbers

A number is an integer or a float, and stays what it was written as: `1` and `1.0` are two numbers
of one size. A literal without point and exponent whose value fits 64 bits, signed or unsigned, is
an integer; every other literal is a float. The literal `-0` is the float zero below.

A float literal is read from as many of its leading digits as fit 64 bits, scaled by one power of
ten.
-/

namespace StepPipeline

inductive Number where
  | int (value : Int)
  | float (value : Float)
  deriving DecidableEq, Inhabited

namespace Number

def toFloat : Number → Float
  | int n => Float.ofInt n
  | float x => x

/-- The number as an index: a non-negative integer of at most 64 bits. -/
def toIndex? : Number → Option Nat
  | int n => if 0 ≤ n ∧ n < Decimal.indexBound then some n.toNat else none
  | float _ => none

/-- Whether two numbers are the same: both integers or both floats, and equal as such. -/
def same : Number → Number → Bool
  | int m, int n => m == n
  | float x, float y => x == y
  | _, _ => false

/-- Floats of a decimal exponent from -5 to 15 are written without exponent. -/
def layout : Decimal.Layout := ⟨-5, 15⟩

/-- The text of a number; what is not finite has none and is written `null`. -/
def text : Number → List Char
  | int n => (if n < 0 then ['-'] else []) ++ Nat.toDigits 10 n.natAbs
  | float x => if x.isFinite then layout.text x else ['n', 'u', 'l', 'l']

/-- Read on from `start` while the number fits 64 bits; also tell how many digits are left. -/
def absorb : List Char → Nat → Nat × Nat
  | [], n => (n, 0)
  | c :: rest, n =>
    let next := Decimal.ofDigitsFrom n [c]
    if next < Decimal.indexBound then absorb rest next else (n, rest.length + 1)

def powerOfTen (k : Nat) : Float := OfScientific.ofScientific 1 false k

/-- Scale by `10 ^ exponent`, at most 308 decimal places at a time; nothing when the result is too
large. -/
def scale (x : Float) (exponent : Int) : Option Float :=
  if 308 < exponent then (if x == 0 then some x else none)
  else if 0 ≤ exponent then
    let y := x * powerOfTen exponent.toNat
    if y.isInf then none else some y
  else if -308 ≤ exponent then some (x / powerOfTen exponent.natAbs)
  else if x == 0 then some x
  else scale (x / powerOfTen 308) (exponent + 308)
termination_by (-exponent).toNat

/-- The number that a literal denotes; nothing when it is too large for a float. `plain` says that
the literal has neither point nor exponent. -/
def ofLiteral (l : Decimal.Literal) (plain : Bool) : Option Number :=
  let n := Decimal.ofDigits l.whole
  if plain && (if l.negative then 0 < n && 2 * n ≤ UInt64.size else n < UInt64.size) then
    some (.int (if l.negative then -(n : Int) else n))
  else
    let (whole, dropped) := absorb l.whole 0
    let (digits, unread) := absorb l.fraction whole
    let exponent : Int := l.exponent + dropped - (l.fraction.length - unread : Nat)
    (scale (Float.ofNat digits) exponent).map fun x => .float (if l.negative then -x else x)

end Number
end StepPipeline
