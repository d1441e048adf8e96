import DocumentMapping.Number.DecimalArithmetic

/-!
# Written numbers

A number is written by a letter with an optional precision, or by a picture of digits. Rounding is
away from zero at a half.
-/

namespace DocumentMapping.Format

/-- Why a number cannot be written. -/
inductive NumberFault where
  | invalidPrecision (spec : List Char)
  | outOfRange (value : Decimal) (spec : List Char)
  | notIntegral (spec : List Char)
  | unknown (spec : List Char)
deriving Repr

/-- The wording of a fault. -/
def NumberFault.message : NumberFault → String
  | .invalidPrecision spec => "invalid precision in '" ++ String.ofList spec ++ "'"
  | .outOfRange value spec =>
    value.text ++ " is out of range for '" ++ String.ofList spec ++ "'"
  | .notIntegral spec => "'" ++ String.ofList spec ++ "' requires an integral value"
  | .unknown spec => "'" ++ String.ofList spec ++ "' is not a numeric format"

/-- Puts commas between groups of three digits, counted from the right. -/
def groupDigits : List Char → List Char
  | [] => []
  | digit :: rest =>
    if rest.length % 3 = 0 ∧ rest ≠ [] then digit :: ',' :: groupDigits rest
    else digit :: groupDigits rest

/-- Groups the digits before the point; sign and places stay. -/
def groupThousands (text : List Char) : List Char :=
  let sign := text.takeWhile (· = '-')
  let unsigned := text.drop sign.length
  let whole := unsigned.takeWhile (· ≠ '.')
  sign ++ groupDigits whole ++ unsigned.drop whole.length

/-- A number rounded to a number of places and written with all of them. -/
def fixedChars (value : Decimal) (places : Nat) : List Char :=
  (value.roundHalfAway places).charsWithPlaces places

/-- What a picture asks for. -/
structure Picture where
  /-- Digits before the point at least. -/
  minWhole : Nat
  /-- Places after the point at least. -/
  minPlaces : Nat
  /-- Places after the point at most. -/
  maxPlaces : Nat
  /-- Whether thousands are grouped. -/
  grouped : Bool
deriving DecidableEq, Repr

/-- Whether a format is a picture: digits, commas and points only. -/
def isPicture (spec : List Char) : Bool :=
  spec.all fun c => c = '0' || c = '#' || c = ',' || c = '.'

/-- Reads a picture. -/
def Picture.ofSpec (spec : List Char) : Picture :=
  let whole := spec.takeWhile (· ≠ '.')
  let places := (spec.dropWhile (· ≠ '.')).drop 1
  { minWhole := whole.count '0'
    minPlaces := (places.takeWhile (· = '0')).length
    maxPlaces := (places.filter fun c => c = '0' || c = '#').length
    grouped := whole.contains ',' }

/-- Removes zeros from the end as long as more than the least number of places is left. -/
def trimPlaces (least : Nat) (places : List Char) : List Char :=
  places.take least ++
    ((places.drop least).reverse.dropWhile (· = '0')).reverse

/-- A number written by a picture. -/
def pictureChars (value : Decimal) (picture : Picture) : List Char :=
  let text := fixedChars value picture.maxPlaces
  let sign := text.takeWhile (· = '-')
  let unsigned := text.drop sign.length
  let whole := (unsigned.takeWhile (· ≠ '.')).dropWhile (· = '0')
  let whole := List.replicate (picture.minWhole - whole.length) '0' ++ whole
  let whole := if picture.grouped then groupThousands whole else whole
  let places := trimPlaces picture.minPlaces ((unsigned.dropWhile (· ≠ '.')).drop 1)
  let result := sign ++ whole ++ (if places.isEmpty then [] else '.' :: places)
  if result = [] ∨ result = ['-'] then ['0'] else result

/-- Digits with zeros in front up to a width. -/
def padZeros (width : Nat) (digits : List Char) : List Char :=
  List.replicate (width - digits.length) '0' ++ digits

/-- An integer as its 64 bits in hexadecimal digits. -/
def bitChars (value : Int64) : List Char :=
  Nat.toDigits 16 value.toUInt64.toNat

/-- A number written by a letter and a precision. -/
def letterChars (value : Decimal) (spec : List Char) (letter : Char) (precision : Option Nat) :
    Except NumberFault (List Char) :=
  let integer : Except NumberFault Int64 :=
    match if value.isIntegral then value.toInt64? else none with
    | some integer => .ok integer
    | none => .error (.notIntegral spec)
  match letter.toUpper with
  | 'N' => .ok (groupThousands (fixedChars value (precision.getD 2)))
  | 'F' => .ok (fixedChars value (precision.getD 2))
  | 'P' =>
    match value.mul? .hundred with
    | some percent => .ok (groupThousands (fixedChars percent (precision.getD 2)) ++ [' ', '%'])
    | none => .error (.outOfRange value spec)
  | 'G' =>
    .ok (match precision with
      | some places => (value.roundHalfAway places).normalize.chars
      | none => value.normalize.chars)
  | 'D' => do
    let integer ← integer
    .ok (Double.signChars (integer.toInt < 0) ++
      padZeros (precision.getD 0) (digitChars integer.toInt.natAbs))
  | 'X' => do
    let integer ← integer
    let digits := padZeros (precision.getD 0) (bitChars integer)
    .ok (if letter = 'X' then digits.map Char.toUpper else digits)
  | _ => .error (.unknown spec)

/-- A number written by a format: nothing, a picture, or a letter with an optional precision. -/
def numberChars (value : Decimal) (spec : List Char) : Except NumberFault (List Char) :=
  match spec with
  | [] => .ok value.normalize.chars
  | letter :: digits =>
    if isPicture spec then .ok (pictureChars value (.ofSpec spec))
    else if digits.isEmpty then letterChars value spec letter none
    else
      match Decimal.unsigned32? digits with
      | none => .error (.invalidPrecision spec)
      | some precision => letterChars value spec letter (some precision)

end DocumentMapping.Format
