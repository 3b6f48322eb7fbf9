import StepPipeline.Condition.Operator
import StepPipeline.Json.Printer
import StepPipeline.Text.Quoted

/-!
# Conditions

A condition is a path, the name of an operator and perhaps an operand. It is written as an object
with the fields `path`, `operator` and `value`, or as an array of these; the path may be left out
of an object. An operand that is `null` is an operand all the same.

`Condition.ofJson` tells why something is no condition: of several reasons the first in the order
of the fields.
-/

namespace StepPipeline

/-- A test on what is found at `path`; whether the operator is known is asked when it is judged. -/
structure Condition where
  path : String
  operator : String
  value : Option Json
  deriving Inhabited

namespace Condition

/-- Why a value does not describe a condition. -/
inductive Mismatch where
  | notACondition (found : Json)
  | notAString (found : Json)
  | noOperator
  | tooShort
  | tooLong (length : Nat)

namespace Mismatch

/-- Floats in reasons are always written positionally. -/
def layout : Decimal.Layout := ⟨-400, 400⟩

def describe : Json → String
  | .null => "null"
  | .bool b => s!"boolean `{b}`"
  | .num (.int n) => s!"integer `{n}`"
  | .num (.float x) => "floating point `" ++ String.ofList (layout.text x) ++ "`"
  | .str s => "string " ++ Text.quoted s
  | .arr _ => "sequence"
  | .obj _ => "map"

def message : Mismatch → String
  | notACondition found => s!"invalid type: {describe found}, expected struct Condition"
  | notAString found => s!"invalid type: {describe found}, expected a string"
  | noOperator => "missing field `operator`"
  | tooShort => "invalid length 1, expected struct Condition with 3 elements"
  | tooLong length => s!"invalid length {length}, expected fewer elements in array"

end Mismatch

def text : Json → Except Mismatch String
  | .str s => .ok s
  | v => .error (.notAString v)

def text? : Option Json → Except Mismatch (Option String)
  | some v => (text v).map some
  | none => .ok none

def ofJson : Json → Except Mismatch Condition
  | .obj fields => do
    let operator ← text? (Table.find? fields "operator")
    let path ← text? (Table.find? fields "path")
    match operator with
    | some operator => .ok ⟨path.getD "", operator, Table.find? fields "value"⟩
    | none => .error .noOperator
  | .arr [] => .error .tooShort
  | .arr [path] => do
    let _ ← text path
    .error .tooShort
  | .arr (path :: operator :: rest) => do
    let path ← text path
    let operator ← text operator
    match rest with
    | [] => .ok ⟨path, operator, none⟩
    | [value] => .ok ⟨path, operator, some value⟩
    | _ => .error (.tooLong (rest.length + 2))
  | v => .error (.notACondition v)

def toJson (c : Condition) : Json :=
  .obj ([("operator", .str c.operator), ("path", .str c.path)]
    ++ (c.value.map fun v => ("value", v)).toList)

/-- The operator of a condition; an operator that is unknown or lacks its operand is a fault. -/
def usableOperator (c : Condition) : Except Fault Operator := do
  let op ← Operator.ofName c.operator
  if op.needsOperand && c.value.isNone then throw (.missingOperand c.operator)
  return op

def read (item : Json) : Except Fault Condition :=
  match ofJson item with
  | .ok c => .ok c
  | .error m => .error (.invalidCondition s!"{item.compact}: {m.message}")

def readAll : Json → Except Fault (List Condition)
  | .arr items => items.mapM read
  | _ => .error (.invalidCondition "conditions must be a list")

end Condition
end StepPipeline
