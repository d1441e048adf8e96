import DocumentMapping.Expression.Basic
import DocumentMapping.Format.Template

/-!
# Faults of evaluation

Why the evaluation of an expression stops.
-/

namespace DocumentMapping.Expression

/-- Why a function cannot use its arguments. Arguments are counted from one. -/
inductive FunctionProblem where
  | notScalar (place : Nat) (kind : String)
  | notInteger (place : Nat) (kind : String)
  | notNumber (place : Nat) (kind : String)
  | outOfRange (value : Decimal)
  | invalidDigits (digits : Int64)
  | textToNumber (text : String)
  | kindToNumber (kind : String)
  | textToInteger (text : String)
  | kindToInteger (kind : String)
  | notSummable (kind : String)
  | overflow
  | template (template : String) (fault : Format.TemplateFault)
  | nullKey
  /-- An argument that the function needs is not there. -/
  | missingArgument (place : Nat)
deriving Repr

/-- The wording of a problem. -/
def FunctionProblem.message : FunctionProblem → String
  | .notScalar place kind =>
    "argument " ++ toString place ++ " must be a scalar, got " ++ kind
  | .notInteger place kind =>
    "argument " ++ toString place ++ " must be an integer, got " ++ kind
  | .notNumber place kind =>
    "argument " ++ toString place ++ " must be a number, got " ++ kind
  | .outOfRange value => value.text ++ " is out of range"
  | .invalidDigits digits =>
    "invalid number of digits " ++ String.ofList (Json.integerChars digits.toInt)
  | .textToNumber text => "cannot convert '" ++ text ++ "' to a number"
  | .kindToNumber kind => "cannot convert " ++ kind ++ " to a number"
  | .textToInteger text => "cannot convert '" ++ text ++ "' to an integer"
  | .kindToInteger kind => "cannot convert " ++ kind ++ " to an integer"
  | .notSummable kind => "cannot sum " ++ kind
  | .overflow => "arithmetic overflow"
  | .template text fault => fault.refusal text
  | .nullKey => "key must not be null"
  | .missingArgument place => "argument " ++ toString place ++ " is missing"

/-- Why an evaluation stops. -/
inductive Fault where
  | divisionByZero
  | overflow (op : BinaryOperator)
  | incompatible (op : BinaryOperator) (left right : String)
  | cannotNegate (kind : String)
  | function (function : Function) (problem : FunctionProblem)
deriving Repr

/-- The wording of a fault. -/
def Fault.message : Fault → String
  | .divisionByZero => "division by zero"
  | .overflow op => "arithmetic overflow in '" ++ op.symbol ++ "'"
  | .incompatible op left right =>
    "operator '" ++ op.symbol ++ "' cannot be applied to " ++ left ++ " and " ++ right
  | .cannotNegate kind => "cannot negate " ++ kind
  | .function called problem => called.name ++ "(): " ++ problem.message

end DocumentMapping.Expression
