import DocumentMapping.Calendar.Reader
import DocumentMapping.Guid
import DocumentMapping.Json.Printer
import DocumentMapping.Number.DecimalArithmetic
import DocumentMapping.Uri.Basic

/-!
# Scalar values

The leaves of a document tree. Kinds without a JSON form of their own are written as strings. A JSON
number becomes an integer when it has 64 bits, a decimal when a decimal can hold it, and is kept as
it is otherwise.
-/

namespace DocumentMapping

/-- A leaf value of a document tree. -/
inductive Scalar where
  /-- Nothing; also the content of places that have not been written yet. -/
  | null
  | boolean (value : Bool)
  | integer (value : Int64)
  | decimal (value : Decimal)
  /-- A number outside the range of integers and decimals. -/
  | number (value : JsonNumber)
  | date (value : Date)
  | moment (value : Moment)
  | guid (value : Guid)
  | uri (value : Uri)
  | string (value : String)
deriving DecidableEq, Repr, Inhabited

namespace Scalar

/-- The name of the kind of a value. -/
def kind : Scalar → String
  | .null => "null"
  | .boolean _ => "boolean"
  | .integer _ => "integer"
  | .decimal _ => "decimal"
  | .number _ => "number"
  | .date _ => "date"
  | .moment _ => "dateTime"
  | .guid _ => "guid"
  | .uri _ => "uri"
  | .string _ => "string"

/-- The text that shows a value. -/
def chars : Scalar → List Char
  | .null => Json.nullChars
  | .boolean value => Json.booleanChars value
  | .integer value => Json.integerChars value.toInt
  | .decimal value => value.chars
  | .number value => Json.numberChars value
  | .date value => value.chars
  | .moment value => value.chars
  | .guid value => value.chars
  | .uri value => value.text.toList
  | .string value => value.toList

/-- The text that shows a value. -/
def text (value : Scalar) : String :=
  match value with
  | .string value => value
  | _ => String.ofList value.chars

/-- The number that a value is or stands for as a decimal. -/
def toDecimal? : Scalar → Option Decimal
  | .integer value => some (Decimal.ofInt64 value)
  | .decimal value => some value
  | _ => none

/-- The integer of 64 bits with the given value, if there is one. -/
def int64? (value : Int) : Option Int64 :=
  if -2 ^ 63 ≤ value ∧ value < 2 ^ 63 then some (Int64.ofInt value) else none

/-- The value of a number that is no integer of 64 bits: the decimal that its text denotes, or the
number itself. -/
def ofWideNumber (number : JsonNumber) : Scalar :=
  match Decimal.read? (Json.numberChars number) with
  | some value => .decimal value
  | none => .number number

/-- The value of a JSON number. -/
def ofNumber (number : JsonNumber) : Scalar :=
  match number with
  | .integer value =>
    match int64? value with
    | some value => .integer value
    | none => ofWideNumber number
  | .double _ => ofWideNumber number

/-- The value of a JSON leaf; absent for arrays and objects. -/
def ofJson? : Json → Option Scalar
  | .null => some .null
  | .boolean value => some (.boolean value)
  | .number value => some (ofNumber value)
  | .string value => some (.string value)
  | .array _ => none
  | .object _ => none

/-- The JSON form of a value. A decimal is a double when that reads back as the same number, and a
string otherwise. -/
def toJson : Scalar → Json
  | .null => .null
  | .boolean value => .boolean value
  | .integer value => .number (.integer value.toInt)
  | .decimal value =>
    match value.exactDouble? with
    | some double => .number (.double double)
    | none => .string value.text
  | .number value => .number value
  | .string value => .string value
  | value => .string (String.ofList value.chars)

/-- Two numbers are the same when they are the same double; an integer is no double. -/
def sameNumber : JsonNumber → JsonNumber → Bool
  | .integer x, .integer y => x == y
  | .double x, .double y => x.sameValue y
  | _, _ => false

/-- Two values are the same when they have one kind and equal content: decimals by their number,
moments by their instant. -/
def same : Scalar → Scalar → Bool
  | .null, .null => true
  | .boolean x, .boolean y => x == y
  | .integer x, .integer y => x == y
  | .decimal x, .decimal y => x.sameValue y
  | .number x, .number y => sameNumber x y
  | .date x, .date y => x == y
  | .moment x, .moment y => x.sameInstant y
  | .guid x, .guid y => x == y
  | .uri x, .uri y => x == y
  | .string x, .string y => x == y
  | _, _ => false

end Scalar

end DocumentMapping
