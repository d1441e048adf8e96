import DocumentMapping.Json.Value
import DocumentMapping.Number.DoubleText

/-!
# Written JSON

The compact form has no spaces; the indented form puts every item and member on a line of its own.
Both write members in their order and escape only quotes, backslashes and controls in strings.
-/

namespace DocumentMapping

/-- A hexadecimal digit in lower case. -/
def hexDigit (n : Nat) : Char :=
  (Nat.toDigits 16 n).headD '0'

namespace Json

/-- A character of a string: short escapes for the usual controls, four digits for the others. -/
def escapedChar (c : Char) : List Char :=
  if c = '"' then ['\\', '"']
  else if c = '\\' then ['\\', '\\']
  else if c = '\x08' then ['\\', 'b']
  else if c = '\x0c' then ['\\', 'f']
  else if c = '\n' then ['\\', 'n']
  else if c = '\r' then ['\\', 'r']
  else if c = '\t' then ['\\', 't']
  else if c.toNat < 32 then
    ['\\', 'u', '0', '0', hexDigit (c.toNat / 16), hexDigit (c.toNat % 16)]
  else [c]

/-- A string in quotes. -/
def stringChars (text : String) : List Char :=
  '"' :: text.toList.flatMap escapedChar ++ ['"']

/-- An integer in decimal digits. -/
def integerChars (value : Int) : List Char :=
  Double.signChars (value < 0) ++ digitChars value.natAbs

/-- A number. -/
def numberChars : JsonNumber → List Char
  | .integer value => integerChars value
  | .double value => value.jsonChars

/-- A truth value. -/
def booleanChars (value : Bool) : List Char :=
  if value then ['t', 'r', 'u', 'e'] else ['f', 'a', 'l', 's', 'e']

/-- The word for nothing. -/
def nullChars : List Char :=
  ['n', 'u', 'l', 'l']

/-- Items separated by commas. -/
def separated : List (List Char) → List Char
  | [] => []
  | [item] => item
  | item :: rest => item ++ ',' :: separated rest

mutual

/-- The compact form of a value. -/
def chars : Json → List Char
  | .null => nullChars
  | .boolean value => booleanChars value
  | .number value => numberChars value
  | .string value => stringChars value
  | .array items => '[' :: separated (itemChars items) ++ [']']
  | .object members => '{' :: separated (memberChars members) ++ ['}']

/-- The compact forms of the items of an array. -/
def itemChars : List Json → List (List Char)
  | [] => []
  | item :: rest => item.chars :: itemChars rest

/-- The compact forms of the members of an object. -/
def memberChars : List (String × Json) → List (List Char)
  | [] => []
  | (name, value) :: rest => (stringChars name ++ ':' :: value.chars) :: memberChars rest

end

/-- The compact text of a value. -/
def text (value : Json) : String :=
  String.ofList value.chars

/-- The start of a line at a depth of nesting: two spaces a level. -/
def lineStart (depth : Nat) : List Char :=
  '\n' :: List.replicate (2 * depth) ' '

/-- A container with every part on a line of its own; an empty container stays on its line. -/
def indentedBlock (opening closing : Char) (depth : Nat) (parts : List (List Char)) : List Char :=
  if parts.isEmpty then [opening, closing]
  else
    opening :: separated (parts.map (lineStart (depth + 1) ++ ·)) ++ lineStart depth ++ [closing]

mutual

/-- The indented form of a value at a depth of nesting. -/
def indentedChars (depth : Nat) : Json → List Char
  | .array items => indentedBlock '[' ']' depth (indentedItems (depth + 1) items)
  | .object members => indentedBlock '{' '}' depth (indentedMembers (depth + 1) members)
  | .null => nullChars
  | .boolean value => booleanChars value
  | .number value => numberChars value
  | .string value => stringChars value

/-- The indented forms of the items of an array. -/
def indentedItems (depth : Nat) : List Json → List (List Char)
  | [] => []
  | item :: rest => item.indentedChars depth :: indentedItems depth rest

/-- The indented forms of the members of an object. -/
def indentedMembers (depth : Nat) : List (String × Json) → List (List Char)
  | [] => []
  | (name, value) :: rest =>
    (stringChars name ++ ':' :: ' ' :: value.indentedChars depth) :: indentedMembers depth rest

end

/-- The indented text of a value. -/
def indentedText (value : Json) : String :=
  String.ofList (value.indentedChars 0)

end Json

end DocumentMapping
