import DocumentMapping.Node
import DocumentMapping.Number.Integer
import DocumentMapping.Text.LetterCase

/-!
# Coercion to a declared type

A raw value is converted to a declared type before it is formatted or written. Null stays null for
every type; a text is read without the white space around it.
-/

namespace DocumentMapping

/-- The types a value can be converted to. -/
inductive SourceType where
  | string
  | integer
  | decimal
  | boolean
  | date
  | moment
  | guid
  | uri
deriving DecidableEq, Repr, Inhabited

namespace SourceType

/-- The name of a type in documents and messages. -/
def name : SourceType → String
  | .string => "string"
  | .integer => "integer"
  | .decimal => "decimal"
  | .boolean => "boolean"
  | .date => "date"
  | .moment => "dateTime"
  | .guid => "guid"
  | .uri => "uri"

/-- All types in the order in which they are listed in messages. -/
def all : List SourceType :=
  [.string, .integer, .decimal, .boolean, .date, .moment, .guid, .uri]

/-- The type of a name. -/
def ofName? (name : String) : Option SourceType :=
  all.find? (·.name = name)

end SourceType

namespace Scalar

/-- The integer of a decimal without a fraction. -/
def integralInt64? (value : Decimal) : Option Int64 :=
  if value.isIntegral then value.toInt64? else none

/-- The integer that a text denotes, directly or as a decimal without a fraction. -/
def integerOfText? (text : List Char) : Option Int64 :=
  (readInt64? text).or ((Decimal.read? text).bind integralInt64?)

/-- The truth value that a text denotes, in any case. -/
def booleanOfText? (text : List Char) : Option Bool :=
  let word := String.ofList (Text.lowerChars text)
  if ["true", "t", "yes", "y", "1"].contains word then some true
  else if ["false", "f", "no", "n", "0"].contains word then some false
  else none

/-- The integer of a truth value. -/
def integerOfBoolean (value : Bool) : Int64 :=
  if value then 1 else 0

/-- The decimal of a truth value. -/
def decimalOfBoolean (value : Bool) : Decimal :=
  if value then .one else .zero

/-- The text of a string value without white space around it; absent for other kinds. -/
def trimmed? : Scalar → Option (List Char)
  | .string value => some (Text.trimChars value.toList)
  | _ => none

/-- A value as an integer. -/
def toInteger? : Scalar → Option Int64
  | .integer value => some value
  | .decimal value => integralInt64? value
  | .boolean value => some (integerOfBoolean value)
  | value => value.trimmed?.bind integerOfText?

/-- A value as a decimal. -/
def asDecimal? : Scalar → Option Decimal
  | .decimal value => some value
  | .integer value => some (Decimal.ofInt64 value)
  | .boolean value => some (decimalOfBoolean value)
  | value => value.trimmed?.bind Decimal.read?

/-- A value as a truth value. -/
def toBoolean? : Scalar → Option Bool
  | .boolean value => some value
  | .integer value => some (value != 0)
  | .decimal value => some (!value.isZero)
  | value => value.trimmed?.bind booleanOfText?

/-- A value as a date. -/
def toDate? : Scalar → Option Date
  | .date value => some value
  | .moment value => some value.date
  | value => value.trimmed?.bind Date.read?

/-- A value as a moment. -/
def toMoment? : Scalar → Option Moment
  | .moment value => some value
  | .date value => some (Moment.ofDate value)
  | value => value.trimmed?.bind Moment.read?

/-- A value as an identifier. -/
def toGuid? : Scalar → Option Guid
  | .guid value => some value
  | value => value.trimmed?.bind Guid.read?

/-- A value as an address. -/
def toUri? : Scalar → Option Uri
  | .uri value => some value
  | value => value.trimmed?.bind Uri.read?

/-- Converts a value that is not null. -/
def convert? (value : Scalar) : SourceType → Option Scalar
  | .string => some (.string value.text)
  | .integer => value.toInteger?.map .integer
  | .decimal => value.asDecimal?.map .decimal
  | .boolean => value.toBoolean?.map .boolean
  | .date => value.toDate?.map .date
  | .moment => value.toMoment?.map .moment
  | .guid => value.toGuid?.map .guid
  | .uri => value.toUri?.map .uri

/-- Converts a value to a type; null stays null. -/
def coerce? (value : Scalar) (target : SourceType) : Option Scalar :=
  if value = .null then some .null else value.convert? target

end Scalar

end DocumentMapping
