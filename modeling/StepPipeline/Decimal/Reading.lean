/-!
# Reading decimal numbers

Digits as a natural number, an index written in digits, and a decimal literal such as `-1.5e3`
as the float nearest to it.
-/

namespace StepPipeline.Decimal

/-- The number that digits write, read on from `start`. -/
def ofDigitsFrom (start : Nat) (digits : List Char) : Nat :=
  digits.foldl (fun n c => 10 * n + (c.toNat - '0'.toNat)) start

/-- The number that digits write; no digits write zero. -/
def ofDigits (digits : List Char) : Nat := ofDigitsFrom 0 digits

/-- Non-empty, and digits only. -/
def isDigits (cs : List Char) : Bool := !cs.isEmpty && cs.all Char.isDigit

/-- One past the greatest index. -/
def indexBound : Nat := UInt64.size

def dropPlus : List Char → List Char
  | '+' :: rest => rest
  | cs => cs

/-- An index: digits, perhaps after a plus sign, that write a number below `2 ^ 64`. -/
def readIndex? (cs : List Char) : Option Nat :=
  if isDigits (dropPlus cs) ∧ ofDigits (dropPlus cs) < indexBound then some (ofDigits (dropPlus cs))
  else none

/-- A decimal numeral taken apart; its value is that of the digits, scaled by the exponent. -/
structure Literal where
  negative : Bool
  /-- The digits before the point. -/
  whole : List Char
  /-- The digits after the point. -/
  fraction : List Char
  exponent : Int

/-- The signed exponent behind the mark `e`: at least one digit, and nothing after the digits. -/
def readExponent? (cs : List Char) : Option Int :=
  let (negative, digits) := match cs with
    | '-' :: rest => (true, rest)
    | '+' :: rest => (false, rest)
    | _ => (false, cs)
  if isDigits digits then
    some (if negative then -(ofDigits digits : Int) else ofDigits digits)
  else none

namespace Literal

/-- The digits without the point: their number and the power of ten to scale it with. -/
def scaled (l : Literal) : Nat × Int :=
  (ofDigits (l.whole ++ l.fraction), l.exponent - l.fraction.length)

/-- The float nearest to the literal; one out of range is infinite. -/
def toFloat (l : Literal) : Float :=
  let (digits, exponent) := l.scaled
  let magnitude : Int := (Nat.toDigits 10 digits).length + exponent
  let size : Float :=
    if digits = 0 ∨ magnitude < -400 then 0
    else if magnitude > 400 then 1 / 0
    else OfScientific.ofScientific digits (decide (exponent < 0)) exponent.natAbs
  if l.negative then -size else size

end Literal

/-- The parts of an unsigned literal. The digits before or after the point may be missing, not both;
point and exponent may be missing. -/
def readParts? (negative : Bool) (cs : List Char) : Option Literal :=
  let whole := cs.takeWhile Char.isDigit
  let rest := cs.dropWhile Char.isDigit
  let (fraction, rest) := match rest with
    | '.' :: rest => (rest.takeWhile Char.isDigit, rest.dropWhile Char.isDigit)
    | _ => ([], rest)
  if whole.isEmpty && fraction.isEmpty then none
  else match rest with
    | [] => some ⟨negative, whole, fraction, 0⟩
    | 'e' :: rest | 'E' :: rest =>
      (readExponent? rest).map fun exponent => ⟨negative, whole, fraction, exponent⟩
    | _ => none

/-- A float as people write it: a sign, then a decimal literal or one of the words `inf`,
`infinity` and `nan` in any case. -/
def readFloat? (cs : List Char) : Option Float :=
  let (negative, body) := match cs with
    | '-' :: rest => (true, rest)
    | '+' :: rest => (false, rest)
    | _ => (false, cs)
  let word := String.ofList (body.map Char.toLower)
  if word = "inf" || word = "infinity" then some (if negative then -(1 / 0) else 1 / 0)
  else if word = "nan" then some (0 / 0)
  else (readParts? negative body).map Literal.toFloat

theorem readIndex?_eq_some_iff {cs : List Char} {n : Nat} :
    readIndex? cs = some n ↔
      isDigits (dropPlus cs) = true ∧ ofDigits (dropPlus cs) = n ∧ n < indexBound := by
  simp only [readIndex?]
  split
  · next h => simp only [Option.some.injEq]; constructor <;> grind
  · next h => simp only [reduceCtorEq, false_iff]; grind

end StepPipeline.Decimal
