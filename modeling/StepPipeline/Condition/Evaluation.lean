import StepPipeline.Condition.Basic
import StepPipeline.Path.Access
import StepPipeline.Pattern.Marks
import StepPipeline.Pattern.Reader

/-!
# Evaluating conditions

`Operator.holds` decides an operator on a value, which may be undefined, and an operand. Two
numbers are equal when their floats are; all other values are equal when they are the same. Order is
that of texts between two strings and that of numbers between numbers and texts of numbers.

A list of conditions is evaluated from left to right, up to the first that is false.
-/

namespace StepPipeline

namespace Json

def equal : Json → Json → Bool
  | .num m, .num n => m.toFloat == n.toFloat
  | v, w => v.same w

/-- The number that a value is, or that its text writes. -/
def number? : Json → Option Float
  | .num n => some n.toFloat
  | .str s => Decimal.readFloat? (Text.trim s.toList)
  | _ => none

/-- A count: the whole part of a finite number, zero if the number is negative, and at most
`2 ^ 64 - 1`. -/
def count? (v : Json) : Option Nat :=
  (v.number?.filter Float.isFinite).map fun x => x.toUInt64.toNat

/-- How two values compare; most do not. -/
def compare? : Json → Json → Option Ordering
  | .str a, .str b => some (if a < b then .lt else if a = b then .eq else .gt)
  | v, w => do
    let x ← v.number?
    let y ← w.number?
    if x < y then some .lt else if y < x then some .gt else if x == y then some .eq else none

def length? : Json → Option Nat
  | .str s => some s.length
  | .arr items => some items.length
  | _ => none

def isEmpty : Json → Bool
  | .str s => s = ""
  | .arr items => items.isEmpty
  | .obj fields => fields.isEmpty
  | _ => false

def elementContains (operand element : Json) : Bool :=
  element.equal operand || match element, operand with
    | .str s, .str needle => Text.contains s needle
    | _, _ => false

/-- Whether a text contains the text of the operand, or an array a fitting element. -/
def contains (v operand : Json) : Bool :=
  match v with
  | .str s => Text.contains s operand.toText
  | .arr items => items.any (elementContains operand)
  | _ => false

/-- Whether a text does not contain the text of the operand, or an array no element equal to it.
Anything else contains nothing. -/
def lacks (v operand : Json) : Bool :=
  match v with
  | .str s => !Text.contains s operand.toText
  | .arr items => !items.any fun item => item.equal operand
  | _ => true

end Json

namespace Pattern

def ofOperand (operand : Json) : Except Fault Node :=
  match read operand.toText with
  | .ok node => .ok node
  | .error e => .error (.invalidPattern operand.toText e.message)

end Pattern

namespace Operator

/-- Whether a comparison has one of the given results. -/
def ordered (value : Option Json) (operand : Json) (results : List Ordering) : Bool :=
  match value.bind fun v => v.compare? operand with
  | some o => results.contains o
  | none => false

/-- Whether the length of a value compares with the operand. -/
def measured (value : Option Json) (operand : Json) (test : Float → Float → Bool) : Bool :=
  match value.bind Json.length?, operand.number? with
  | some length, some bound => test (Float.ofNat length) bound
  | _, _ => false

/-- Whether a text matches the pattern of the operand. The pattern is read only if there is a text
to match. -/
def matched (value : Option Json) (operand : Json) (otherwise : Bool) (test : Bool → Bool) :
    Except Fault Bool :=
  match value with
  | some (.str s) => (Pattern.ofOperand operand).map fun node => test (node.isMatch s)
  | _ => .ok otherwise

/-- Whether an operator holds of a value, which may be undefined, and an operand. -/
def holds (op : Operator) (value : Option Json) (operand : Json) : Except Fault Bool :=
  match op with
  | equals => .ok (value.any (·.equal operand))
  | notEquals => .ok (!value.any (·.equal operand))
  | greater => .ok (ordered value operand [.gt])
  | greaterOrEqual => .ok (ordered value operand [.gt, .eq])
  | less => .ok (ordered value operand [.lt])
  | lessOrEqual => .ok (ordered value operand [.lt, .eq])
  | contains => .ok (value.any (·.contains operand))
  | notContains => .ok (value.all (·.lacks operand))
  | minLength => .ok (measured value operand fun length bound => bound ≤ length)
  | maxLength => .ok (measured value operand fun length bound => length ≤ bound)
  | fits => matched value operand false id
  | notFits => matched value operand true not
  | isNull => .ok (value matches some .null)
  | isNotNull => .ok (!(value matches some .null))
  | isDefined => .ok value.isSome
  | isUndefined => .ok value.isNone
  | isTrue => .ok (value matches some (.bool true))
  | isFalse => .ok (value matches some (.bool false))
  | isEmpty => .ok (value.any (·.isEmpty))
  | isNotEmpty => .ok (!value.any (·.isEmpty))

/-- Decide the operator of a name on a value and an operand, both of which may be missing. -/
def decide (name : String) (value operand : Option Json) : Except Fault Bool := do
  let op ← ofName name
  match operand with
  | some operand => op.holds value operand
  | none => if op.needsOperand then throw (.missingOperand name) else op.holds value .null

end Operator

namespace Condition

/-- Whether a condition holds of the part of `data` at its path. -/
def holds (data : Json) (c : Condition) : Except Fault Bool :=
  Operator.decide c.operator (data.get? c.path) c.value

/-- Whether all conditions hold; those behind a false one are not looked at. -/
def allHold (data : Json) : List Condition → Except Fault Bool
  | [] => .ok true
  | c :: rest =>
    match c.holds data with
    | .ok true => allHold data rest
    | .ok false => .ok false
    | .error e => .error e

def listHolds (data conditions : Json) : Except Fault Bool :=
  match readAll conditions with
  | .ok cs => allHold data cs
  | .error e => .error e

end Condition
end StepPipeline
