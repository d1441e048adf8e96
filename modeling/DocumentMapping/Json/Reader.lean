import DocumentMapping.Json.Fault

/-!
# Reading JSON texts

Readers take a list of characters and give a value with the characters that follow it. The pieces
for lists and objects are shared by the reader of arbitrary values and the readers of documents.
Containers may be nested 127 deep.
-/

namespace DocumentMapping.Json

/-- A reader of values: from a text to a value and what follows it. -/
abbrev Reader (α : Type) := List Char → Except Fault (α × List Char)

/-- Stops at the start of the remaining text. -/
def stopAt {α : Type} (problem : Problem) (rest : List Char) : Except Fault α :=
  .error ⟨problem, rest, 0⟩

/-- Stops at the next character, which is counted as seen. -/
def stopBefore {α : Type} (problem : Problem) (rest : List Char) : Except Fault α :=
  .error ⟨problem, rest, 1⟩

/-- Blanks that may stand between the parts of a text. -/
def isSpace (c : Char) : Bool :=
  c = ' ' || c = '\n' || c = '\t' || c = '\r'

/-- What follows the blanks. -/
def skipSpaces (text : List Char) : List Char :=
  text.dropWhile isSpace

/-- Reads the remaining characters of a word. -/
def word : List Char → List Char → Except Fault (List Char)
  | [], text => .ok text
  | _ :: _, [] => stopAt .endInValue []
  | expected :: more, c :: rest =>
    if c = expected then word more rest else stopBefore .expectedWord (c :: rest)

/-! ## Strings -/

/-- The value of a hexadecimal digit. -/
def hexValue? (c : Char) : Option Nat :=
  if c.isDigit then some (c.toNat - '0'.toNat)
  else if 'a' ≤ c ∧ c ≤ 'f' then some (c.toNat - 'a'.toNat + 10)
  else if 'A' ≤ c ∧ c ≤ 'F' then some (c.toNat - 'A'.toNat + 10)
  else none

/-- Reads the four digits of an escape. -/
def fourHexDigits (text : List Char) : Except Fault (Nat × List Char) :=
  let refuse : Except Fault (Nat × List Char) :=
    if Text.byteLength text < 4 then stopAt .endInString []
    else .error ⟨.invalidEscape, text, 4⟩
  match text with
  | a :: b :: c :: d :: rest =>
    match hexValue? a, hexValue? b, hexValue? c, hexValue? d with
    | some a, some b, some c, some d => .ok (((a * 16 + b) * 16 + c) * 16 + d, rest)
    | _, _, _, _ => refuse
  | _ => refuse

/-- Reads the second half of a pair of escapes for one character. -/
def secondHalf (first : Nat) : List Char → Except Fault (Char × List Char)
  | '\\' :: 'u' :: rest => do
    let (second, rest) ← fourHexDigits rest
    if 0xDC00 ≤ second ∧ second ≤ 0xDFFF then
      .ok (Char.ofNat ((first - 0xD800) * 0x400 + (second - 0xDC00) + 0x10000), rest)
    else stopAt .loneSurrogate rest
  | '\\' :: c :: rest => .error ⟨.unfinishedSurrogatePair, c :: rest, 1⟩
  | ['\\'] => stopAt .endInString []
  | [] => stopAt .endInString []
  | c :: rest => .error ⟨.unfinishedSurrogatePair, c :: rest, 1⟩

/-- Reads an escape after its backslash. -/
def escape : List Char → Except Fault (Char × List Char)
  | [] => stopAt .endInString []
  | '"' :: rest => .ok ('"', rest)
  | '\\' :: rest => .ok ('\\', rest)
  | '/' :: rest => .ok ('/', rest)
  | 'b' :: rest => .ok ('\x08', rest)
  | 'f' :: rest => .ok ('\x0c', rest)
  | 'n' :: rest => .ok ('\n', rest)
  | 'r' :: rest => .ok ('\r', rest)
  | 't' :: rest => .ok ('\t', rest)
  | 'u' :: rest => do
    let (code, rest) ← fourHexDigits rest
    if 0xDC00 ≤ code ∧ code ≤ 0xDFFF then stopAt .loneSurrogate rest
    else if 0xD800 ≤ code ∧ code ≤ 0xDBFF then secondHalf code rest
    else .ok (Char.ofNat code, rest)
  | c :: rest => .error ⟨.invalidEscape, c :: rest, 1⟩

/-- Reads a string after its opening quote. The first argument bounds the characters read. -/
def stringBody : Nat → List Char → Except Fault (List Char × List Char)
  | 0, text => stopAt .endInString text
  | _, [] => stopAt .endInString []
  | fuel + 1, c :: rest =>
    if c = '"' then .ok ([], rest)
    else if c = '\\' then do
      let (escaped, rest) ← escape rest
      let (more, rest) ← stringBody fuel rest
      .ok (escaped :: more, rest)
    else if c.toNat < 32 then stopAt .controlInString rest
    else do
      let (more, rest) ← stringBody fuel rest
      .ok (c :: more, rest)

/-- Reads a string after its opening quote. -/
def stringAfterQuote (text : List Char) : Except Fault (String × List Char) := do
  let (content, rest) ← stringBody (text.length + 1) text
  .ok (String.ofList content, rest)

/-! ## Numbers -/

/-- Appends digits to a significand as long as it keeps to 64 bits. Gives the significand and the
digits that are left over. -/
def absorb (significand : Nat) : List Char → Nat × List Char
  | [] => (significand, [])
  | c :: rest =>
    let next := significand * 10 + (c.toNat - '0'.toNat)
    if next < 2 ^ 64 then absorb next rest else (significand, c :: rest)

/-- The double of what has been read. -/
def finishDouble (negative : Bool) (significand : Nat) (exponent : Int) (rest : List Char) :
    Except Fault (JsonNumber × List Char) :=
  match Double.ofSignificand? negative significand exponent with
  | some value => .ok (.double value, rest)
  | none => stopAt .numberOutOfRange rest

/-- Reads the digits of an exponent after the first one. One beyond 32 bits is out of range, or
leaves nothing of the number. -/
def exponentDigits (negative : Bool) (significand : Nat) (start : Int) (down : Bool)
    (exponent : Nat) : List Char → Except Fault (JsonNumber × List Char)
  | [] => finishDouble negative significand (if down then start - exponent else start + exponent) []
  | c :: rest =>
    if c.isDigit then
      let next := exponent * 10 + (c.toNat - '0'.toNat)
      if next < 2 ^ 31 then exponentDigits negative significand start down next rest
      else if significand ≠ 0 ∧ !down then stopAt .numberOutOfRange rest
      else finishDouble negative 0 0 (rest.dropWhile Char.isDigit)
    else
      finishDouble negative significand (if down then start - exponent else start + exponent)
        (c :: rest)

/-- Reads an exponent after its mark. -/
def exponentPart (negative : Bool) (significand : Nat) (start : Int) (text : List Char) :
    Except Fault (JsonNumber × List Char) :=
  let (down, text) := match text with
    | '+' :: rest => (false, rest)
    | '-' :: rest => (true, rest)
    | _ => (false, text)
  match text with
  | [] => stopAt .endInValue []
  | c :: rest =>
    if c.isDigit then
      exponentDigits negative significand start down (c.toNat - '0'.toNat) rest
    else .error ⟨.invalidNumber, c :: rest, 1⟩

/-- Reads the digits after a point, of which there is at least one. Those that the significand has
no room for are passed over. -/
def fractionPart (negative : Bool) (significand : Nat) (start : Int) (text : List Char) :
    Except Fault (JsonNumber × List Char) :=
  match text with
  | [] => stopBefore .endInValue []
  | c :: _ =>
    if !c.isDigit then stopBefore .invalidNumber text
    else
      let places := text.takeWhile Char.isDigit
      let (significand, left) := absorb significand places
      let start := start - (places.length - left.length : Nat)
      match text.dropWhile Char.isDigit with
      | 'e' :: rest => exponentPart negative significand start rest
      | 'E' :: rest => exponentPart negative significand start rest
      | rest => finishDouble negative significand start rest

/-- A number of 64 bits without fraction and exponent. It is an integer where possible, else a
double, and so is a negative zero. -/
def wholeNumber (negative : Bool) (magnitude : Nat) (rest : List Char) :
    Except Fault (JsonNumber × List Char) :=
  if !negative then .ok (.integer magnitude, rest)
  else if 0 < magnitude ∧ magnitude ≤ 2 ^ 63 then .ok (.integer (-(magnitude : Int)), rest)
  else finishDouble true magnitude 0 rest

/-- The number whose integral digits have been read. Each digit that the significand has no room
for counts as a power of ten. -/
def numberTail (negative : Bool) (whole text : List Char) :
    Except Fault (JsonNumber × List Char) :=
  let (significand, left) := absorb 0 whole
  match text with
  | '.' :: rest => fractionPart negative significand left.length rest
  | 'e' :: rest => exponentPart negative significand left.length rest
  | 'E' :: rest => exponentPart negative significand left.length rest
  | rest =>
    if left.isEmpty then wholeNumber negative significand rest
    else finishDouble negative significand left.length rest

/-- Reads a number after its sign. No digit follows a leading zero. -/
def numberAfterSign (negative : Bool) : List Char → Except Fault (JsonNumber × List Char)
  | [] => stopAt .endInValue []
  | '0' :: rest =>
    match rest with
    | c :: _ =>
      if c.isDigit then stopBefore .invalidNumber rest else numberTail negative ['0'] rest
    | [] => numberTail negative ['0'] []
  | c :: rest =>
    if c.isDigit then
      numberTail negative (c :: rest.takeWhile Char.isDigit) (rest.dropWhile Char.isDigit)
    else .error ⟨.invalidNumber, c :: rest, 1⟩

/-! ## Containers -/

/-- Goes on to the next item of a list, or to its closing bracket, which stays. -/
def nextItem (first : Bool) (text : List Char) : Except Fault (Bool × List Char) :=
  match skipSpaces text with
  | [] => stopBefore .endInList []
  | ']' :: rest => .ok (false, ']' :: rest)
  | c :: rest =>
    if first then .ok (true, c :: rest)
    else if c = ',' then
      match skipSpaces rest with
      | [] => stopBefore .endInValue []
      | ']' :: rest => stopBefore .trailingComma (']' :: rest)
      | rest => .ok (true, rest)
    else stopBefore .expectedListCommaOrEnd (c :: rest)

/-- Reads the end of a list of which no further item is expected. -/
def endList (text : List Char) : Except Fault (List Char) :=
  match skipSpaces text with
  | [] => stopBefore .endInList []
  | ']' :: rest => .ok rest
  | ',' :: rest =>
    match skipSpaces rest with
    | ']' :: rest => stopBefore .trailingComma (']' :: rest)
    | rest => stopBefore .trailingCharacters rest
  | rest => stopBefore .trailingCharacters rest

/-- Goes on to the quote of the next key of an object, or to its closing brace, which stays. -/
def nextKey (first : Bool) (text : List Char) : Except Fault (Bool × List Char) :=
  match skipSpaces text with
  | [] => stopBefore .endInObject []
  | '\x7d' :: rest => .ok (false, '\x7d' :: rest)
  | c :: rest =>
    if first then
      if c = '"' then .ok (true, c :: rest) else stopBefore .keyNotString (c :: rest)
    else if c = ',' then
      match skipSpaces rest with
      | [] => stopBefore .endInValue []
      | '"' :: rest => .ok (true, '"' :: rest)
      | '\x7d' :: rest => stopBefore .trailingComma ('\x7d' :: rest)
      | rest => stopBefore .keyNotString rest
    else stopBefore .expectedObjectCommaOrEnd (c :: rest)

/-- Reads the colon between a key and its value. -/
def colon (text : List Char) : Except Fault (List Char) :=
  match skipSpaces text with
  | [] => stopBefore .endInObject []
  | ':' :: rest => .ok rest
  | rest => stopBefore .expectedColon rest

/-- Reads the items of a list after its opening bracket, and the closing bracket. The number bounds
the items. -/
def listItems {α : Type} (item : Reader α) (first : Bool) :
    Nat → List Char → Except Fault (List α × List Char)
  | 0, text => stopBefore .endInList text
  | fuel + 1, text => do
    let (more, rest) ← nextItem first text
    if more then
      let (value, rest) ← item rest
      let (values, rest) ← listItems item false fuel rest
      .ok (value :: values, rest)
    else .ok ([], rest.drop 1)

/-- Reads the members of an object after its opening brace, and the closing brace. The number bounds
the members. -/
def objectMembers {α : Type} (value : Reader α) (first : Bool) :
    Nat → List Char → Except Fault (List (String × α) × List Char)
  | 0, text => stopBefore .endInObject text
  | fuel + 1, text => do
    let (more, rest) ← nextKey first text
    if more then
      let (name, rest) ← stringAfterQuote (rest.drop 1)
      let rest ← colon rest
      let (content, rest) ← value rest
      let (members, rest) ← objectMembers value false fuel rest
      .ok ((name, content) :: members, rest)
    else .ok ([], rest.drop 1)

/-- Reads a value that is not a container; `container` reads the others from their bracket on. -/
def valueWith (container : Reader Json) (text : List Char) :
    Except Fault (Json × List Char) :=
  match skipSpaces text with
  | [] => stopBefore .endInValue []
  | c :: rest =>
    if c = 'n' then do
      .ok (.null, ← word ['u', 'l', 'l'] rest)
    else if c = 't' then do
      .ok (.boolean true, ← word ['r', 'u', 'e'] rest)
    else if c = 'f' then do
      .ok (.boolean false, ← word ['a', 'l', 's', 'e'] rest)
    else if c = '-' then do
      let (content, rest) ← numberAfterSign true rest
      .ok (.number content, rest)
    else if c.isDigit then do
      let (content, rest) ← numberAfterSign false (c :: rest)
      .ok (.number content, rest)
    else if c = '"' then do
      let (content, rest) ← stringAfterQuote rest
      .ok (.string content, rest)
    else if c = '[' || c = '\x7b' then container (c :: rest)
    else stopBefore .expectedValue (c :: rest)

/-- Reads a value whose containers are nested at most as deep as the number says. A member that is
repeated keeps its first place and its last value. -/
def value : Nat → Reader Json
  | 0 => valueWith (stopBefore .nestedTooDeeply)
  | depth + 1 => valueWith fun text =>
    match text with
    | '[' :: rest => do
      let (items, rest) ← listItems (value depth) true (rest.length + 1) rest
      .ok (.array items, rest)
    | rest => do
      let (members, rest) ← objectMembers (value depth) true (rest.length + 1) (rest.drop 1)
      .ok (.object (OrderedMap.ofList members), rest)

/-- How deep containers may be nested. -/
def nestingLimit : Nat := 127

/-- Requires that nothing but blanks follows. -/
def finish (text : List Char) : Except Fault Unit :=
  match skipSpaces text with
  | [] => .ok ()
  | rest => stopBefore .trailingCharacters rest

/-- Reads a whole text as one value. -/
def read (text : List Char) : Except Fault Json := do
  let (result, rest) ← value nestingLimit text
  finish rest
  .ok result

end DocumentMapping.Json
