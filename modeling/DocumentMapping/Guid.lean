import DocumentMapping.Json.Reader

/-!
# Globally unique identifiers

An identifier has 128 bits and is written as thirty-two hexadecimal digits, usually in five groups
with hyphens.
-/

namespace DocumentMapping

/-- An identifier of 128 bits. -/
structure Guid where
  value : Nat
  value_lt : value < 2 ^ 128
deriving DecidableEq, Repr

namespace Guid

instance : Inhabited Guid := ⟨⟨0, by decide⟩⟩

/-- The hexadecimal digits of a number, in lower case and padded to a width. -/
def hexDigits : Nat → Nat → List Char
  | 0, _ => []
  | width + 1, n => hexDigits width (n / 16) ++ [hexDigit (n % 16)]

/-- The thirty-two digits without hyphens. -/
def simpleChars (guid : Guid) : List Char :=
  hexDigits 32 guid.value

/-- The sizes of the groups between hyphens. -/
def groupSizes : List Nat := [8, 4, 4, 4, 12]

/-- Cuts digits into groups of the given sizes with hyphens between them. -/
def hyphenate : List Nat → List Char → List Char
  | [], _ => []
  | [size], digits => digits.take size
  | size :: sizes, digits => digits.take size ++ '-' :: hyphenate sizes (digits.drop size)

/-- The usual form in five groups. -/
def chars (guid : Guid) : List Char :=
  hyphenate groupSizes guid.simpleChars

/-- The usual text of an identifier. -/
def text (guid : Guid) : String :=
  String.ofList guid.chars

/-- Reads the digits of an identifier. -/
def ofDigits? (digits : List Char) : Option Guid := do
  let values ← digits.mapM Json.hexValue?
  let value := values.foldl (fun value digit => value * 16 + digit) 0
  if h : digits.length = 32 ∧ value < 2 ^ 128 then some ⟨value, h.2⟩ else none

/-- Reads five groups with hyphens. -/
def ofHyphenated? (text : List Char) : Option Guid :=
  if text.length = 36 ∧ text[8]? = some '-' ∧ text[13]? = some '-' ∧ text[18]? = some '-' ∧
      text[23]? = some '-' then
    ofDigits? (text.filter (· ≠ '-'))
  else none

/-- The scheme in front of an identifier that is written as a name, in any case. -/
def urnScheme : List Char := ['u', 'r', 'n', ':', 'u', 'u', 'i', 'd', ':']

/-- Reads an identifier: plain digits, five groups, five groups in braces or after the scheme of
names. -/
def read? (text : List Char) : Option Guid :=
  if text.length = 32 then ofDigits? text
  else if text.length = 36 then ofHyphenated? text
  else if text.length = 38 ∧ text.head? = some '\x7b' ∧ text.getLast? = some '\x7d' then
    ofHyphenated? ((text.drop 1).dropLast)
  else if text.length = 45 ∧ (text.take 9).map Char.toLower = urnScheme then
    ofHyphenated? (text.drop 9)
  else none

end Guid

end DocumentMapping
