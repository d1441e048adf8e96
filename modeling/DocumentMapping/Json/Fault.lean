import DocumentMapping.Json.Printer
import DocumentMapping.Text.Bytes
import DocumentMapping.Text.Quoted

/-!
# Faults of JSON texts

A text can end too early, break the rules of JSON, or be JSON of another shape than expected. A
fault is placed by what is left of the text, from which line and column follow.
-/

namespace DocumentMapping.Json

/-- What was found where something of another kind was expected. -/
inductive Found where
  | null
  | boolean (value : Bool)
  | number (value : JsonNumber)
  | string (value : String)
  | array
  | object
deriving Repr

/-- Why JSON does not have the expected shape. -/
inductive ShapeProblem where
  | invalidType (found : Found) (expected : String)
  | invalidValue (found : Found) (expected : String)
  | invalidLength (length : Nat) (expected : String)
  | missingField (name : String)
  | duplicateField (name : String)
  | unknownVariant (name : String) (expected : List String)
deriving Repr

/-- Why a text is refused. -/
inductive Problem where
  | endInValue
  | endInString
  | endInList
  | endInObject
  | expectedColon
  | expectedListCommaOrEnd
  | expectedObjectCommaOrEnd
  | expectedWord
  | expectedValue
  | invalidEscape
  | invalidNumber
  | numberOutOfRange
  | controlInString
  | keyNotString
  | loneSurrogate
  | trailingComma
  | trailingCharacters
  | unfinishedSurrogatePair
  | nestedTooDeeply
  | shape (problem : ShapeProblem)
deriving Repr

/-- The three classes of problems. -/
inductive Class where
  | malformed
  | data
  | ended
deriving DecidableEq, Repr

/-- A problem with its place: what is left of the text there, and how many bytes further it was
noticed. -/
structure Fault where
  problem : Problem
  rest : List Char
  ahead : Nat
deriving Repr

/-- The words for what was found. -/
def Found.description : Found → String
  | .null => "null"
  | .boolean value => "boolean `" ++ String.ofList (booleanChars value) ++ "`"
  | .number (.integer value) => "integer `" ++ String.ofList (integerChars value) ++ "`"
  | .number (.double value) => "floating point `" ++ String.ofList value.jsonChars ++ "`"
  | .string value => "string " ++ Text.quoted value
  | .array => "sequence"
  | .object => "map"

/-- The wording of a problem of shape. -/
def ShapeProblem.message : ShapeProblem → String
  | .invalidType found expected =>
    "invalid type: " ++ found.description ++ ", expected " ++ expected
  | .invalidValue found expected =>
    "invalid value: " ++ found.description ++ ", expected " ++ expected
  | .invalidLength length expected =>
    "invalid length " ++ toString length ++ ", expected " ++ expected
  | .missingField name => "missing field `" ++ name ++ "`"
  | .duplicateField name => "duplicate field `" ++ name ++ "`"
  | .unknownVariant name expected =>
    "unknown variant `" ++ name ++ "`, expected one of " ++
      String.intercalate ", " (expected.map fun variant => "`" ++ variant ++ "`")

/-- The wording of a problem. -/
def Problem.message : Problem → String
  | .endInValue => "EOF while parsing a value"
  | .endInString => "EOF while parsing a string"
  | .endInList => "EOF while parsing a list"
  | .endInObject => "EOF while parsing an object"
  | .expectedColon => "expected `:`"
  | .expectedListCommaOrEnd => "expected `,` or `]`"
  | .expectedObjectCommaOrEnd => "expected `,` or `\x7d`"
  | .expectedWord => "expected ident"
  | .expectedValue => "expected value"
  | .invalidEscape => "invalid escape"
  | .invalidNumber => "invalid number"
  | .numberOutOfRange => "number out of range"
  | .controlInString => "control character (\\u0000-\\u001F) found while parsing a string"
  | .keyNotString => "key must be a string"
  | .loneSurrogate => "lone leading surrogate in hex escape"
  | .trailingComma => "trailing comma"
  | .trailingCharacters => "trailing characters"
  | .unfinishedSurrogatePair => "unexpected end of hex escape"
  | .nestedTooDeeply => "recursion limit exceeded"
  | .shape problem => problem.message

/-- The class of a problem. -/
def Problem.class : Problem → Class
  | .endInValue | .endInString | .endInList | .endInObject => .ended
  | .shape _ => .data
  | _ => .malformed

/-- The line of a place, counted from one, and the bytes before it on that line. -/
def lineAndColumn : List Char → Nat → Nat → Nat → Nat × Nat
  | [], _, line, column => (line, column)
  | c :: rest, bytes, line, column =>
    if bytes = 0 then (line, column)
    else if bytes < c.utf8Size then (line, column + bytes)
    else if c = '\n' then lineAndColumn rest (bytes - 1) (line + 1) 0
    else lineAndColumn rest (bytes - c.utf8Size) line (column + c.utf8Size)

/-- The wording of a fault of a text, with line and column. -/
def Fault.message (text : List Char) (fault : Fault) : String :=
  let offset := Text.byteLength text - Text.byteLength fault.rest + fault.ahead
  let (line, column) := lineAndColumn text (min offset (Text.byteLength text)) 1 0
  fault.problem.message ++ " at line " ++ toString line ++ " column " ++ toString column

end DocumentMapping.Json
