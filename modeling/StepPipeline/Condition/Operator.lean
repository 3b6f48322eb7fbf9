import StepPipeline.Fault

/-!
# Operators

The twenty operators of conditions. An operator that compares needs an operand; one that asks
about the value alone does not.
-/

namespace StepPipeline

/-- The tests that a condition can make. -/
inductive Operator where
  | equals
  | notEquals
  | greater
  | greaterOrEqual
  | less
  | lessOrEqual
  | contains
  | notContains
  | minLength
  | maxLength
  | fits
  | notFits
  | isNull
  | isNotNull
  | isDefined
  | isUndefined
  | isTrue
  | isFalse
  | isEmpty
  | isNotEmpty
  deriving DecidableEq, Inhabited

namespace Operator

def all : List Operator := [equals, notEquals, greater, greaterOrEqual, less, lessOrEqual,
  contains, notContains, minLength, maxLength, fits, notFits, isNull, isNotNull, isDefined,
  isUndefined, isTrue, isFalse, isEmpty, isNotEmpty]

def name : Operator → String
  | equals => "equals"
  | notEquals => "notEquals"
  | greater => "gt"
  | greaterOrEqual => "gte"
  | less => "lt"
  | lessOrEqual => "lte"
  | contains => "contains"
  | notContains => "notContains"
  | minLength => "minLength"
  | maxLength => "maxLength"
  | fits => "matches"
  | notFits => "notMatches"
  | isNull => "isNull"
  | isNotNull => "isNotNull"
  | isDefined => "isDefined"
  | isUndefined => "isUndefined"
  | isTrue => "isTrue"
  | isFalse => "isFalse"
  | isEmpty => "isEmpty"
  | isNotEmpty => "isNotEmpty"

def ofName? (name : String) : Option Operator := all.find? fun op => op.name == name

/-- The operator of a name; any other name is a fault. -/
def ofName (name : String) : Except Fault Operator :=
  match ofName? name with
  | some op => .ok op
  | none => .error (.unknownOperator name)

def needsOperand : Operator → Bool
  | isNull | isNotNull | isDefined | isUndefined | isTrue | isFalse | isEmpty | isNotEmpty => false
  | _ => true

theorem ofName?_name (op : Operator) : ofName? op.name = some op := by cases op <;> decide

theorem name_of_ofName? {s : String} {op : Operator} (h : ofName? s = some op) : op.name = s := by
  have := List.find?_some h
  simpa using this

end Operator
end StepPipeline
