import DocumentMapping.Number.Decimal
import DocumentMapping.Number.DoubleText

/-!
# Written decimals

Reading keeps the number of places as written and rounds what does not fit. Writing shows the
places of the decimal, or a given number of places by cutting off or adding zeros.
-/

namespace DocumentMapping.Decimal

/-- The value of a digit character. -/
def digitValue? (c : Char) : Option Nat :=
  if c.isDigit then some (c.toNat - '0'.toNat) else none

/-- What has been read of a decimal: the mantissa, the places after the point if the point has
been passed, and whether a digit was seen. -/
structure Reading where
  mantissa : Nat
  places : Option Nat
  seenDigit : Bool

/-- The decimal of a finished reading; a zero has no sign. -/
def Reading.finish (negative : Bool) (mantissa scale : Nat) : Option Decimal :=
  ofParts? (negative && mantissa != 0) mantissa scale

/-- Ends a reading at digits that do not fit any more: the first of them decides on rounding up, and
a mantissa that then is too large gives up one more place. The other characters must still be
digits or separators. -/
def finishRounded (negative : Bool) (mantissa scale : Nat) (next : Char) (rest : List Char) :
    Option Decimal := do
  let digit ← if next = '_' then some 0 else digitValue? next
  if !rest.all (fun c => c.isDigit || c = '_') then none
  else if digit < 5 then Reading.finish negative mantissa scale
  else if mantissa + 1 < 2 ^ 96 then Reading.finish negative (mantissa + 1) scale
  else if scale = 0 then none
  else Reading.finish negative ((mantissa + 5) / 10) (scale - 1)

/-- Reads the characters after the sign. -/
def readDigits (negative : Bool) (state : Reading) : List Char → Option Decimal
  | [] =>
    if state.seenDigit then Reading.finish negative state.mantissa (state.places.getD 0) else none
  | c :: rest =>
    if state.places = some 28 then
      finishRounded negative state.mantissa 28 c rest
    else if c = '.' then
      match state.places with
      | none => readDigits negative { state with places := some 0 } rest
      | some _ => none
    else if c = '_' then
      if state.seenDigit then readDigits negative state rest else none
    else
      match digitValue? c with
      | none => none
      | some digit =>
        let mantissa := state.mantissa * 10 + digit
        if mantissa < 2 ^ 96 then
          readDigits negative ⟨mantissa, state.places.map (· + 1), true⟩ rest
        else
          match state.places with
          | none => none
          | some scale => finishRounded negative state.mantissa scale c rest

/-- Reads a decimal in positional notation, with an optional sign, at most one point and separators
after the first digit. -/
def ofPositional? : List Char → Option Decimal
  | '-' :: rest => readDigits true ⟨0, none, false⟩ rest
  | '+' :: rest => readDigits false ⟨0, none, false⟩ rest
  | text => readDigits false ⟨0, none, false⟩ text

/-- Reads an unsigned 32-bit number with an optional plus sign. -/
def unsigned32? (text : List Char) : Option Nat :=
  let digits := match text with
    | '+' :: rest => rest
    | _ => text
  if isDigits digits && digitsValue digits < 2 ^ 32 then some (digitsValue digits) else none

/-- Moves the point of a decimal to the left. Places beyond the twenty-eighth are rounded away. -/
def pointLeft? (x : Decimal) (count : Nat) : Option Decimal :=
  if 28 < count then none
  else
    let kept := x.reduceScale (28 - count)
    ofParts? kept.negative kept.mantissa (kept.scale + count)

/-- Moves the point of a decimal to the right. Where there are too few places, zeros are added. -/
def pointRight? (x : Decimal) (count : Nat) : Option Decimal :=
  if 28 < count then none
  else ofParts? x.negative (x.mantissa * 10 ^ (count - x.scale)) (x.scale - count)

/-- Reads a decimal with an exponent. -/
def ofScientific? (text : List Char) : Option Decimal :=
  let isMark (c : Char) : Bool := c = 'e' || c = 'E'
  match text.dropWhile (fun c => !isMark c) with
  | [] => none
  | _ :: exponent => do
    let base ← ofPositional? (text.takeWhile (fun c => !isMark c))
    match exponent with
    | '-' :: rest => base.pointLeft? (← unsigned32? rest)
    | _ => base.pointRight? (← unsigned32? exponent)

/-- Reads a decimal in positional notation or with an exponent. -/
def read? (text : List Char) : Option Decimal :=
  (ofPositional? text).or (ofScientific? text)

/-- The digits of the mantissa with zeros in front, so that at least one stands before the point. -/
def paddedDigits (x : Decimal) : List Char :=
  let digits := digitChars x.mantissa
  List.replicate (x.scale + 1 - digits.length) '0' ++ digits

/-- A decimal with its own places. -/
def chars (x : Decimal) : List Char :=
  let digits := x.paddedDigits
  let whole := digits.take (digits.length - x.scale)
  let places := digits.drop (digits.length - x.scale)
  Double.signChars x.negative ++ whole ++ (if places.isEmpty then [] else '.' :: places)

/-- A decimal with exactly the given number of places: further ones are cut off, missing ones are
zeros. -/
def charsWithPlaces (x : Decimal) (count : Nat) : List Char :=
  let digits := x.paddedDigits
  let whole := digits.take (digits.length - x.scale)
  let places := (digits.drop (digits.length - x.scale)).take count
  let places := places ++ List.replicate (count - places.length) '0'
  Double.signChars x.negative ++ whole ++ (if places.isEmpty then [] else '.' :: places)

/-- The text of a decimal with its own places. -/
def text (x : Decimal) : String :=
  String.ofList x.chars

end DocumentMapping.Decimal
