import DocumentMapping.Uri.Percent
import DocumentMapping.Text.Split

/-!
# Numeric hosts

A host can be given by a number of 32 bits, as up to four parts with dots between them, or by one of
128 bits, as up to eight pieces with colons between them. Both have a canonical text.
-/

namespace DocumentMapping.Uri

/-! ## Addresses of 32 bits -/

/-- The value of digits in a base; absent when one of them is no digit of the base. -/
def digitsInBase? (base : Nat) (digits : List Char) : Option Nat := do
  let values ← digits.mapM Json.hexValue?
  if values.all (· < base) then some (values.foldl (fun n digit => n * base + digit) 0) else none

/-- The value of a part of a numeric address: hexadecimal after `0x`, octal after a zero, decimal
otherwise. -/
def numericPart? (part : List Char) : Option Nat :=
  match part with
  | [] => none
  | '0' :: 'x' :: digits => digitsInBase? 16 digits
  | '0' :: 'X' :: digits => digitsInBase? 16 digits
  | '0' :: c :: digits => digitsInBase? 8 (c :: digits)
  | digits => digitsInBase? 10 digits

/-- The parts of a name without an empty last one. -/
def significantParts (name : List Char) : List (List Char) :=
  let parts := Text.splitOn '.' name
  if 1 < parts.length ∧ parts.getLast? = some [] then parts.dropLast else parts

/-- Whether the last part of a name makes it a numeric address. -/
def endsInNumber (name : List Char) : Bool :=
  match (significantParts name).getLast? with
  | none => false
  | some part =>
    (!part.isEmpty && part.all Char.isDigit) ||
      ((part.take 2 = ['0', 'x'] || part.take 2 = ['0', 'X']) && (numericPart? part).isSome)

/-- Reads a numeric address of up to four parts, of which the last fills what is left of the 32
bits. -/
def ipv4? (name : List Char) : Option Nat := do
  let parts := significantParts name
  if 4 < parts.length then none
  else
    let values ← parts.mapM numericPart?
    let last ← values.getLast?
    let leading := values.dropLast
    if leading.all (· < 256) && last < 256 ^ (5 - values.length) then
      let high := leading.zipIdx.foldl (fun sum (value, place) => sum + value * 256 ^ (3 - place)) 0
      some (high + last)
    else none

/-- A written address of 32 bits. -/
def ipv4Chars (address : Nat) : List Char :=
  digitChars (address / 2 ^ 24) ++ '.' :: digitChars (address / 2 ^ 16 % 256) ++
    '.' :: digitChars (address / 2 ^ 8 % 256) ++ '.' :: digitChars (address % 256)

/-! ## Addresses of 128 bits -/

/-- Reads a part of at most four hexadecimal digits. -/
def hexPiece? (part : List Char) : Option Nat :=
  if part.isEmpty || 4 < part.length then none else digitsInBase? 16 part

/-- Reads four decimal numbers below 256 without zeros in front, as two pieces. -/
def dottedPieces? (part : List Char) : Option (List Nat) := do
  let parts := Text.splitOn '.' part
  let byte? (digits : List Char) : Option Nat :=
    if digits.isEmpty || !digits.all Char.isDigit || (1 < digits.length && digits.head? = some '0')
    then none
    else do
      let n ← digitsInBase? 10 digits
      if n < 256 then some n else none
  match ← parts.mapM byte? with
  | [a, b, c, d] => some [a * 256 + b, c * 256 + d]
  | _ => none

/-- Reads pieces separated by colons, the last of which may be an address of 32 bits. -/
def pieces? : List (List Char) → Option (List Nat)
  | [] => some []
  | [last] =>
    if last.contains '.' then dottedPieces? last else do
      some [← hexPiece? last]
  | part :: rest => do
    some ((← hexPiece? part) :: (← pieces? rest))

/-- Cuts a text at its first double colon. -/
def splitDoubleColon : List Char → Option (List Char × List Char)
  | ':' :: ':' :: rest => some ([], rest)
  | c :: rest => (splitDoubleColon rest).map fun (before, after) => (c :: before, after)
  | [] => none

/-- Reads an address of eight pieces; a double colon stands for one zero piece or more. -/
def ipv6? (text : List Char) : Option (List Nat) := do
  let side (part : List Char) (dotted : Bool) : Option (List Nat) :=
    if part.isEmpty then some []
    else if !dotted && part.contains '.' then none
    else pieces? (Text.splitOn ':' part)
  match splitDoubleColon text with
  | none => do
    let pieces ← pieces? (Text.splitOn ':' text)
    if pieces.length = 8 then some pieces else none
  | some (before, after) => do
    let first ← side before false
    let last ← side after true
    if first.length + last.length < 8 then
      some (first ++ List.replicate (8 - first.length - last.length) 0 ++ last)
    else none

/-- The length of the run of zeros at the start. -/
def zeroRun (pieces : List Nat) : Nat :=
  (pieces.takeWhile (· = 0)).length

/-- The first longest run of at least two zero pieces, with its place. -/
def longestZeroRun (pieces : List Nat) : Option (Nat × Nat) :=
  (List.range pieces.length).foldl
    (fun best place =>
      let run := zeroRun (pieces.drop place)
      if 2 ≤ run && (best.all fun (_, longest) => longest < run) then some (place, run) else best)
    none

/-- Pieces in hexadecimal digits with colons between them. -/
def pieceChars : List Nat → List Char
  | [] => []
  | [piece] => Nat.toDigits 16 piece
  | piece :: rest => Nat.toDigits 16 piece ++ ':' :: pieceChars rest

/-- A written address of eight pieces in brackets, its longest run of zeros left out. -/
def ipv6Chars (pieces : List Nat) : List Char :=
  let inner :=
    match longestZeroRun pieces with
    | none => pieceChars pieces
    | some (place, run) =>
      pieceChars (pieces.take place) ++ ':' :: ':' :: pieceChars (pieces.drop (place + run))
  '[' :: inner ++ [']']

end DocumentMapping.Uri
