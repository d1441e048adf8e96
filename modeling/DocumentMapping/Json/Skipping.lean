import DocumentMapping.Json.Reader

/-!
# Passing over JSON values

The value of an unknown field is passed over without being kept. This is laxer than reading it: half
a surrogate pair is let through, and there is no limit on nesting. Some faults are also reported
differently.
-/

namespace DocumentMapping.Json

/-- Passes over an escape after its backslash. -/
def skipEscape : List Char → Except Fault (List Char)
  | [] => stopAt .endInString []
  | c :: rest =>
    if c = 'u' then (fourHexDigits rest).map Prod.snd
    else if ['"', '\\', '/', 'b', 'f', 'n', 'r', 't'].contains c then .ok rest
    else .error ⟨.invalidEscape, c :: rest, 1⟩

/-- Passes over a string after its opening quote. The first argument bounds the characters. -/
def skipString : Nat → List Char → Except Fault (List Char)
  | _, [] => stopAt .endInString []
  | 0, text => stopAt .endInString text
  | fuel + 1, c :: rest =>
    if c = '"' then .ok rest
    else if c = '\\' then (skipEscape rest).bind (skipString fuel)
    else if c.toNat < 32 then stopAt .controlInString (c :: rest)
    else skipString fuel rest

/-- Passes over an exponent after its mark. -/
def skipExponent (text : List Char) : Except Fault (List Char) :=
  let text := match text with
    | '+' :: rest => rest
    | '-' :: rest => rest
    | _ => text
  match text with
  | [] => stopAt .invalidNumber []
  | c :: rest =>
    if c.isDigit then .ok (rest.dropWhile Char.isDigit) else .error ⟨.invalidNumber, c :: rest, 1⟩

/-- Passes over the digits after a point. -/
def skipFraction (text : List Char) : Except Fault (List Char) :=
  if (text.takeWhile Char.isDigit).isEmpty then stopBefore .invalidNumber text
  else
    match text.dropWhile Char.isDigit with
    | 'e' :: rest => skipExponent rest
    | 'E' :: rest => skipExponent rest
    | rest => .ok rest

/-- Passes over what follows the integral digits of a number. -/
def skipNumberTail : List Char → Except Fault (List Char)
  | '.' :: rest => skipFraction rest
  | 'e' :: rest => skipExponent rest
  | 'E' :: rest => skipExponent rest
  | rest => .ok rest

/-- Passes over a number after its sign. -/
def skipNumber : List Char → Except Fault (List Char)
  | [] => stopAt .invalidNumber []
  | '0' :: rest =>
    match rest with
    | c :: _ => if c.isDigit then stopBefore .invalidNumber rest else skipNumberTail rest
    | [] => .ok []
  | c :: rest =>
    if c.isDigit then skipNumberTail (rest.dropWhile Char.isDigit)
    else .error ⟨.invalidNumber, c :: rest, 1⟩

/-- Passes over a key after its opening quote, and the colon. -/
def skipKey (text : List Char) : Except Fault (List Char) :=
  (skipString (text.length + 1) text).bind colon

mutual

/-- Passes over a value. The first argument bounds the steps. -/
def skipValue : Nat → List Char → Except Fault (List Char)
  | 0, text => stopBefore .endInValue text
  | fuel + 1, text =>
    match skipSpaces text with
    | [] => stopBefore .endInValue []
    | c :: rest =>
      if c = 'n' then word ['u', 'l', 'l'] rest
      else if c = 't' then word ['r', 'u', 'e'] rest
      else if c = 'f' then word ['a', 'l', 's', 'e'] rest
      else if c = '-' then skipNumber rest
      else if c.isDigit then skipNumber (c :: rest)
      else if c = '"' then skipString (rest.length + 1) rest
      else if c = '[' then skipItems fuel true rest
      else if c = '\x7b' then skipMembers fuel true rest
      else stopBefore .expectedValue (c :: rest)

/-- Passes over the items of a list, and its closing bracket. -/
def skipItems : Nat → Bool → List Char → Except Fault (List Char)
  | 0, _, text => stopBefore .endInList text
  | fuel + 1, first, text =>
    match skipSpaces text with
    | [] => stopBefore .endInList []
    | ']' :: rest => .ok rest
    | c :: rest =>
      if first then (skipValue fuel (c :: rest)).bind (skipItems fuel false)
      else if c = ',' then (skipValue fuel rest).bind (skipItems fuel false)
      else stopBefore .expectedListCommaOrEnd (c :: rest)

/-- Passes over the members of an object, and its closing brace. -/
def skipMembers : Nat → Bool → List Char → Except Fault (List Char)
  | 0, _, text => stopBefore .endInObject text
  | fuel + 1, first, text =>
    match skipSpaces text with
    | [] => stopBefore .endInObject []
    | '\x7d' :: rest => .ok rest
    | c :: rest =>
      if first then skipMember fuel (c :: rest)
      else if c = ',' then skipMember fuel rest
      else stopBefore .expectedObjectCommaOrEnd (c :: rest)

/-- Passes over a member and those after it. -/
def skipMember : Nat → List Char → Except Fault (List Char)
  | 0, text => stopBefore .endInObject text
  | fuel + 1, text =>
    match skipSpaces text with
    | [] => stopBefore .endInObject []
    | '"' :: rest =>
      (skipKey rest).bind fun rest => (skipValue fuel rest).bind (skipMembers fuel false)
    | rest => stopBefore .keyNotString rest

end

/-- Passes over a value of any kind. -/
def skip (text : List Char) : Except Fault (List Char) :=
  skipValue (2 * text.length + 2) text

end DocumentMapping.Json
