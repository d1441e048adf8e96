import DocumentMapping.Expression.Token

/-!
# Scanning the bytes of an expression

Tokens can be cut from the UTF-8 form of a text, by a scanner that stands at a byte offset and sees
the byte there and the next one. It takes pieces of the text between byte offsets, which must be
boundaries of characters, and its loops take a round for each byte or character that they pass.
Cutting inside of a character and using up the rounds of a loop are failures of their own.
-/

namespace DocumentMapping.Expression

/-- What a scan of bytes may end with instead of tokens. -/
inductive ScanFailure where
  | fault (fault : CompileFault)
  /-- A text was to be cut where no character begins. -/
  | insideCharacter
  | outOfRounds
deriving DecidableEq, Repr

/-- A token and the byte offsets between which it stands. -/
structure Span where
  token : Token
  start : Nat
  stop : Nat
deriving DecidableEq, Repr

/-- The bytes of a text in UTF-8, each as the character of its number. -/
def byteChars (text : List Char) : List Char :=
  (text.flatMap String.utf8EncodeChar).map fun byte => Char.ofNat byte.toNat

/-- The rest of a text from a byte offset on. -/
def charsFrom : List Char → Nat → Except ScanFailure (List Char)
  | text, 0 => .ok text
  | [], _ + 1 => .error .insideCharacter
  | c :: rest, offset + 1 =>
    if c.utf8Size ≤ offset + 1 then charsFrom rest (offset + 1 - c.utf8Size)
    else .error .insideCharacter

/-- The characters of a text that take up its first bytes. -/
def charsUpTo : List Char → Nat → Except ScanFailure (List Char)
  | _, 0 => .ok []
  | [], _ + 1 => .error .insideCharacter
  | c :: rest, length + 1 =>
    if c.utf8Size ≤ length + 1 then (charsUpTo rest (length + 1 - c.utf8Size)).map (c :: ·)
    else .error .insideCharacter

/-- The piece of a text between two byte offsets. -/
def slice (text : List Char) (start stop : Nat) : Except ScanFailure (List Char) :=
  if stop < start then .error .insideCharacter
  else charsFrom text start >>= fun rest => charsUpTo rest (stop - start)

/-- The offset behind the bytes of a kind that stand at an offset. -/
def pastRun (p : Char → Bool) (text : List Char) (start : Nat) : Nat :=
  start + (((byteChars text).drop start).takeWhile p).length

/-- The sign at an offset, told by the byte there and the next one, and how many bytes it takes. -/
def signAt (text : List Char) (start : Nat) : Option (Token × Nat) :=
  (scanSigns (((byteChars text).drop start).take 2)).map fun (token, piece) =>
    (token, piece.length)

/-- Reads the number at an offset. -/
def numeralAt (text : List Char) (start : Nat) : Except ScanFailure Span :=
  let point := pastRun Char.isDigit text start
  if (byteChars text)[point]? = some '.' ∧ ((byteChars text)[point + 1]?).any Char.isDigit then
    let stop := pastRun Char.isDigit text (point + 1)
    (slice text start stop).map fun piece => ⟨.decimal (String.ofList piece), start, stop⟩
  else
    (slice text start point).map fun piece =>
      match readInt64? piece with
      | some value => ⟨.integer value, start, point⟩
      | none => ⟨.decimal (String.ofList piece), start, point⟩

/-- The content of a string so far: what has been copied, or all since its start if nothing had to
be. -/
def contentSoFar (text : List Char) (start position : Nat) :
    Option (List Char) → Except ScanFailure (List Char)
  | some content => .ok content
  | none => slice text (start + 1) position

/-- Reads on in a string that starts at an offset, up to its closing quote, in so many rounds: its
content and the offset behind it. The content is copied from the first escape on. -/
def stringFrom (text : List Char) (quote : Char) (start : Nat) :
    Nat → Nat → Option (List Char) → Except ScanFailure (List Char × Nat)
  | 0, _, _ => .error .outOfRounds
  | rounds + 1, position, copied =>
    match (byteChars text)[position]? with
    | none => .error (.fault ⟨.unterminatedString, start⟩)
    | some byte =>
      if byte = quote then
        (contentSoFar text start position copied).map (·, position + 1)
      else if byte = '\\' then do
        let content ← contentSoFar text start position copied
        match (byteChars text)[position + 1]? with
        | none => .error (.fault ⟨.unterminatedString, start⟩)
        | some next =>
          match escaped? next with
          | none => .error (.fault ⟨.invalidEscape, position⟩)
          | some value => stringFrom text quote start rounds (position + 2) (content ++ [value])
      else do
        let rest ← charsFrom text position
        let width := (rest.head?.map Char.utf8Size).getD 1
        match copied with
        | none => stringFrom text quote start rounds (position + width) none
        | some content =>
          let piece ← slice text position (position + width)
          stringFrom text quote start rounds (position + width) (content ++ piece)

/-- Reads the word at an offset. -/
def wordAt (text : List Char) (start : Nat) : Except ScanFailure Span := do
  match ← charsFrom text start with
  | [] => .error (.fault ⟨.endOfInput, start⟩)
  | first :: rest =>
    if first = '_' ∨ Text.startsIdentifier first then
      let stop := match rest.dropWhile Text.continuesIdentifier with
        | [] => Text.byteLength text
        | _ :: _ => start + Text.byteLength (first :: rest.takeWhile Text.continuesIdentifier)
      (slice text start stop).map fun piece => ⟨.identifier (String.ofList piece), start, stop⟩
    else .error (.fault ⟨.unexpectedCharacter first, start⟩)

/-- The next token from an offset on, if the text goes on. -/
def nextSpan (rounds : Nat) (text : List Char) (position : Nat) :
    Except ScanFailure (Option Span) :=
  let start := pastRun isSpace text position
  match (byteChars text)[start]? with
  | none => .ok none
  | some byte =>
    match signAt text start with
    | some (token, width) => .ok (some ⟨token, start, start + width⟩)
    | none =>
      if byte = '\'' ∨ byte = '"' then
        (stringFrom text byte start rounds (start + 1) none).map fun (content, stop) =>
          some ⟨.string (String.ofList content), start, stop⟩
      else if byte.isDigit then (numeralAt text start).map some
      else (wordAt text start).map some

/-- The tokens from an offset on. The first number bounds the rounds in a string. -/
def spansFrom (inner : Nat) (text : List Char) : Nat → Nat → Except ScanFailure (List Span)
  | 0, _ => .error .outOfRounds
  | rounds + 1, position => do
    match ← nextSpan inner text position with
    | none => .ok []
    | some span => (spansFrom inner text rounds span.stop).map (span :: ·)

/-- The tokens of a text, scanned with so many rounds for each loop. -/
def spans (rounds : Nat) (text : List Char) : Except ScanFailure (List Span) :=
  spansFrom rounds text rounds 0

end DocumentMapping.Expression
