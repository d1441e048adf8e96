import DocumentMapping.Number.DecimalArithmetic
import DocumentMapping.Number.Integer
import DocumentMapping.Scalar

/-!
# Arithmetic of expressions

Numbers of expressions are integers of 64 bits or decimals. Two integers give an integer when the
exact result is one of 64 bits, and otherwise both are taken as decimals.
-/

namespace DocumentMapping.Expression

/-- A number. -/
inductive Numeric where
  | integer (value : Int64)
  | decimal (value : Decimal)
deriving DecidableEq, Repr, Inhabited

namespace Numeric

/-- The number that a scalar is. -/
def ofScalar? : Scalar → Option Numeric
  | .integer value => some (.integer value)
  | .decimal value => some (.decimal value)
  | _ => none

/-- The scalar that a number is. -/
def toScalar : Numeric → Scalar
  | .integer value => .integer value
  | .decimal value => .decimal value

/-- A number as a decimal. -/
def toDecimal : Numeric → Decimal
  | .integer value => .ofInt64 value
  | .decimal value => value

/-- Whether a number is zero. -/
def isZero : Numeric → Bool
  | .integer value => value == 0
  | .decimal value => value.isZero

/-- Combines two numbers: as integers where that is possible, and as decimals otherwise. -/
def combine (integer : Int → Int → Option Int) (decimal : Decimal → Decimal → Option Decimal)
    (x y : Numeric) : Option Numeric :=
  let ofIntegers : Option Int64 :=
    match x, y with
    | .integer a, .integer b => (integer a.toInt b.toInt).bind Scalar.int64?
    | _, _ => none
  match ofIntegers with
  | some value => some (.integer value)
  | none => (decimal x.toDecimal y.toDecimal).map .decimal

/-- The sum. -/
def add? (x y : Numeric) : Option Numeric :=
  combine (fun a b => some (a + b)) Decimal.add? x y

/-- The difference. -/
def subtract? (x y : Numeric) : Option Numeric :=
  combine (fun a b => some (a - b)) Decimal.sub? x y

/-- The product. -/
def multiply? (x y : Numeric) : Option Numeric :=
  combine (fun a b => some (a * b)) Decimal.mul? x y

/-- The quotient of integers that leave no remainder. -/
def exactQuotient? (a b : Int) : Option Int :=
  if a.tmod b = 0 then some (a.tdiv b) else none

/-- The quotient by a number that is not zero. -/
def divide? (x y : Numeric) : Option Numeric :=
  combine exactQuotient? Decimal.div? x y

/-- The remainder of integers; none for the least integer and minus one, whose quotient has more
than 64 bits. -/
def integerRemainder? (a b : Int) : Option Int :=
  if (Scalar.int64? (a.tdiv b)).isSome then some (a.tmod b) else none

/-- The remainder by a number that is not zero; it has the sign of the first number. -/
def remainder? (x y : Numeric) : Option Numeric :=
  combine integerRemainder? Decimal.rem? x y

/-- The order of two numbers. -/
def compare (x y : Numeric) : Ordering :=
  match x, y with
  | .integer a, .integer b => Ord.compare a b
  | _, _ => x.toDecimal.compare y.toDecimal

/-- An integer as a number; a decimal stands for one of more than 64 bits. -/
def ofInt (value : Int) (decimal : Decimal) : Numeric :=
  match Scalar.int64? value with
  | some result => .integer result
  | none => .decimal decimal

/-- The negation. -/
def neg : Numeric → Numeric
  | .integer value => ofInt (-value.toInt) (Decimal.ofInt64 value).neg
  | .decimal value => .decimal value.neg

/-- The absolute value. -/
def abs : Numeric → Numeric
  | .integer value => ofInt value.toInt.natAbs (Decimal.ofInt64 value).abs
  | .decimal value => .decimal value.abs

/-- A number without a fraction as an integer, if it has 64 bits. -/
def toIntegral (x : Numeric) : Numeric :=
  match x with
  | .integer value => .integer value
  | .decimal value =>
    if value.isIntegral then
      match value.toInt64? with
      | some result => .integer result
      | none => x
    else x

/-- The number that a text denotes. -/
def read? (text : List Char) : Option Numeric :=
  match readInt64? text with
  | some value => some (.integer value)
  | none => (Decimal.read? text).map .decimal

end Numeric

end DocumentMapping.Expression
