import DocumentMapping.Coercion
import DocumentMapping.Format.Moment
import DocumentMapping.Format.Number
import DocumentMapping.Text.Digit

/-!
# Format templates

A template is text with placeholders for the one value it formats. A placeholder names the argument
zero and may give an alignment and a format. A doubled brace stands for itself, and any other brace
is refused.
-/

namespace DocumentMapping.Format

/-- Why a template cannot be applied. -/
inductive TemplateFault where
  /-- A brace that belongs to nothing; the text from there to the next piece is given. -/
  | unescapedBrace (text : List Char)
  | noArgument (argument : List Char)
  | alignmentOutOfRange
  | number (fault : NumberFault)
  | unknownGuidFormat (spec : List Char)
deriving Repr

/-- The wording of a fault. -/
def TemplateFault.message : TemplateFault → String
  | .unescapedBrace text => "unescaped brace in '" ++ String.ofList text ++ "'"
  | .noArgument argument =>
    "argument \x7b" ++ String.ofList argument ++ "\x7d does not exist"
  | .alignmentOutOfRange => "alignment out of range"
  | .number fault => fault.message
  | .unknownGuidFormat spec => "'" ++ String.ofList spec ++ "' is not a GUID format"

/-- The wording of the refusal of a template. -/
def TemplateFault.refusal (template : String) (fault : TemplateFault) : String :=
  "Invalid format template '" ++ template ++ "': " ++ fault.message

/-- A placeholder as it is written: its argument, and its alignment and format if they are given. -/
structure Placeholder where
  argument : List Char
  alignment : Option (List Char)
  spec : List Char
deriving DecidableEq, Repr

/-- The pieces of a template. -/
inductive Piece where
  /-- A character that stands for itself, unless it is a brace. -/
  | character (c : Char)
  /-- A doubled brace. -/
  | brace (c : Char)
  | placeholder (content : Placeholder)
deriving DecidableEq, Repr

/-- Takes a minus off the start of an alignment. -/
def takeMinus : List Char → List Char × List Char
  | '-' :: rest => (['-'], rest)
  | text => ([], text)

/-- Reads the number of an alignment: digits with an optional minus. -/
def readAlignmentNumber (text : List Char) : Option (List Char × List Char) :=
  if ((takeMinus text).2.takeWhile Text.isDecimalDigit).isEmpty then none
  else
    some ((takeMinus text).1 ++ (takeMinus text).2.takeWhile Text.isDecimalDigit,
      (takeMinus text).2.dropWhile Text.isDecimalDigit)

/-- Reads the alignment of a placeholder: a comma, white space and a number. Absent when a comma is
followed by anything else. -/
def readAlignment : List Char → Option (Option (List Char) × List Char)
  | ',' :: rest =>
    match readAlignmentNumber (rest.dropWhile Text.isBlank) with
    | none => none
    | some (number, rest) => some (some number, rest)
  | text => some (none, text)

/-- Whether a character is a brace. -/
def isBrace (c : Char) : Bool :=
  c = '\x7b' || c = '\x7d'

/-- Reads the format of a placeholder, which follows a colon. -/
def readSpec : List Char → List Char × List Char
  | ':' :: rest => (rest.takeWhile (!isBrace ·), rest.dropWhile (!isBrace ·))
  | text => ([], text)

/-- Reads the alignment, the format and the closing brace of a placeholder. -/
def readPlaceholderEnd (argument text : List Char) : Option (Placeholder × List Char) :=
  match readAlignment text with
  | none => none
  | some (alignment, rest) =>
    match readSpec rest with
    | (spec, '\x7d' :: rest) => some (⟨argument, alignment, spec⟩, rest)
    | _ => none

/-- Reads a placeholder after its opening brace. -/
def readPlaceholder (text : List Char) : Option (Placeholder × List Char) :=
  if (text.takeWhile Text.isDecimalDigit).isEmpty then none
  else
    readPlaceholderEnd (text.takeWhile Text.isDecimalDigit) (text.dropWhile Text.isDecimalDigit)

theorem takeMinus_length (text : List Char) : (takeMinus text).2.length ≤ text.length := by
  unfold takeMinus
  split <;> simp

theorem readAlignment_length {text rest : List Char} {alignment : Option (List Char)}
    (h : readAlignment text = some (alignment, rest)) : rest.length ≤ text.length := by
  unfold readAlignment at h
  split at h
  · rename_i inner
    have h₁ := (List.dropWhile_sublist (l := inner) Text.isBlank).length_le
    have h₂ := takeMinus_length (inner.dropWhile Text.isBlank)
    have h₃ := (List.dropWhile_sublist (l := (takeMinus (inner.dropWhile Text.isBlank)).2)
      Text.isDecimalDigit).length_le
    unfold readAlignmentNumber at h
    grind
  · grind

theorem readSpec_length (text : List Char) : (readSpec text).2.length ≤ text.length := by
  unfold readSpec
  split
  · rename_i rest
    have := (List.dropWhile_sublist (l := rest) (fun c => !isBrace c)).length_le
    grind
  · simp

theorem readPlaceholder_length {text rest : List Char} {content : Placeholder}
    (h : readPlaceholder text = some (content, rest)) : rest.length < text.length := by
  have h₁ := (List.dropWhile_sublist (l := text) Text.isDecimalDigit).length_le
  unfold readPlaceholder readPlaceholderEnd at h
  split at h
  · simp at h
  · split at h
    · simp at h
    · rename_i alignment after halign
      have h₂ := readAlignment_length halign
      have h₃ := readSpec_length after
      grind

/-- Cuts a template into pieces, from left to right. -/
def pieces : List Char → List Piece
  | [] => []
  | '\x7b' :: '\x7b' :: rest => .brace '\x7b' :: pieces rest
  | '\x7d' :: '\x7d' :: rest => .brace '\x7d' :: pieces rest
  | '\x7b' :: rest =>
    match hread : readPlaceholder rest with
    | some (content, after) =>
      have : after.length < rest.length := readPlaceholder_length hread
      .placeholder content :: pieces after
    | none => .character '\x7b' :: pieces rest
  | c :: rest => .character c :: pieces rest
termination_by text => text.length

/-- Text filled with spaces up to the width of an alignment: in front of it, or behind it when the
alignment is negative. -/
def align (alignment : Int) (text : List Char) : List Char :=
  let padding := List.replicate (alignment.natAbs - text.length) ' '
  if 0 ≤ alignment then padding ++ text else text ++ padding

/-- An identifier written by a format. -/
def guidChars (guid : Guid) (spec : List Char) : Except TemplateFault (List Char) :=
  match String.ofList (spec.map Char.toUpper) with
  | "" => .ok guid.chars
  | "D" => .ok guid.chars
  | "N" => .ok guid.simpleChars
  | "B" => .ok ('\x7b' :: guid.chars ++ ['\x7d'])
  | "P" => .ok ('(' :: guid.chars ++ [')'])
  | _ => .error (.unknownGuidFormat spec)

/-- A string written by a format: in upper or lower case, or as it is. -/
def stringChars (text : List Char) (spec : List Char) : List Char :=
  match spec with
  | ['U'] => Text.upperChars text
  | ['u'] => Text.upperChars text
  | ['L'] => Text.lowerChars text
  | ['l'] => Text.lowerChars text
  | _ => text

/-- A value written by a format; null is empty. -/
def valueChars (value : Scalar) (spec : List Char) : Except TemplateFault (List Char) :=
  match value with
  | .null => .ok []
  | .integer value => (numberChars (Decimal.ofInt64 value) spec).mapError .number
  | .decimal value => (numberChars value spec).mapError .number
  | .date value => .ok (momentChars (.ofDate value) spec)
  | .moment value => .ok (momentChars (.ofMoment value) spec)
  | .guid value => guidChars value spec
  | .string value => .ok (stringChars value.toList spec)
  | value => .ok value.chars

/-- Writes a placeholder. -/
def placeholderChars (value : Scalar) (content : Placeholder) :
    Except TemplateFault (List Char) :=
  if content.argument ≠ ['0'] then .error (.noArgument content.argument)
  else do
    let text ← valueChars value content.spec
    match content.alignment with
    | none => .ok text
    | some digits =>
      match readInt64? digits with
      | some alignment => .ok (align alignment.toInt text)
      | none => .error .alignmentOutOfRange

/-- The characters up to the next doubled brace or placeholder. -/
def plainRun : List Piece → List Char
  | .character c :: rest => c :: plainRun rest
  | _ => []

/-- Writes the pieces of a template one after the other, up to the first fault. -/
def renderPieces (value : Scalar) : List Piece → Except TemplateFault (List Char)
  | [] => .ok []
  | .character c :: rest =>
    if isBrace c then .error (.unescapedBrace (c :: plainRun rest))
    else do
      .ok (c :: (← renderPieces value rest))
  | .brace c :: rest => do
    .ok (c :: (← renderPieces value rest))
  | .placeholder content :: rest => do
    let text ← placeholderChars value content
    .ok (text ++ (← renderPieces value rest))

/-- A value written by a template. -/
def renderTemplate (template : String) (value : Scalar) : Except TemplateFault String :=
  (renderPieces value (pieces template.toList)).map String.ofList

end DocumentMapping.Format
