import DocumentMapping.Calendar.Moment
import DocumentMapping.Text.Blank

/-!
# Reading dates and moments

A strict form has fields of fixed width and an offset. The lenient forms follow a pattern of fields
and fixed characters: a field skips white space in front of it and may have fewer digits than its
width, and a blank of the pattern stands for any white space.
-/

namespace DocumentMapping

namespace Calendar

/-- The fields that have been read. -/
structure Fields where
  year : Option Int := none
  month : Option Nat := none
  day : Option Nat := none
  hour : Option Nat := none
  minute : Option Nat := none
  second : Option Nat := none
  nanosecond : Option Nat := none

/-- The parts of a pattern. -/
inductive Part where
  | year
  | month
  | day
  | hour
  | minute
  | second
  /-- A point and the fraction of a second, or nothing. -/
  | fraction
  | blank
  | literal (character : Char)

/-- Takes at least `least` and at most `most` digits. -/
def takeDigits (least most : Nat) (text : List Char) : Option (Nat × List Char) :=
  let digits := (text.takeWhile Char.isDigit).take most
  if digits.length < least then none else some (digitsValue digits, text.drop digits.length)

/-- Takes the digits of a fraction of a second as nanoseconds; digits after the ninth are passed
over. -/
def takeNanoseconds (text : List Char) : Option (Nat × List Char) :=
  let digits := (text.takeWhile Char.isDigit).take 9
  if digits.isEmpty then none
  else some (digitsValue digits * 10 ^ (9 - digits.length), text.dropWhile Char.isDigit)

/-- Takes a year: four digits at most, or any number of digits after a sign. -/
def takeYear (text : List Char) : Option (Int × List Char) :=
  match text with
  | '-' :: rest => do
    let (year, rest) ← takeDigits 1 rest.length rest
    some (-(year : Int), rest)
  | '+' :: rest => do
    let (year, rest) ← takeDigits 1 rest.length rest
    some ((year : Int), rest)
  | _ => do
    let (year, rest) ← takeDigits 1 4 text
    some ((year : Int), rest)

/-- Takes a number of one or two digits that does not exceed a bound. -/
def takeSmall (bound : Nat) (text : List Char) : Option (Nat × List Char) := do
  let (value, rest) ← takeDigits 1 2 text
  if value ≤ bound then some (value, rest) else none

/-- Reads one part of a pattern. -/
def readPart (fields : Fields) (part : Part) (text : List Char) : Option (Fields × List Char) :=
  let afterBlank := text.dropWhile Text.isBlank
  match part with
  | .year => do
    let (value, rest) ← takeYear afterBlank
    some ({ fields with year := some value }, rest)
  | .month => do
    let (value, rest) ← takeSmall 12 afterBlank
    some ({ fields with month := some value }, rest)
  | .day => do
    let (value, rest) ← takeSmall 31 afterBlank
    some ({ fields with day := some value }, rest)
  | .hour => do
    let (value, rest) ← takeSmall 23 afterBlank
    some ({ fields with hour := some value }, rest)
  | .minute => do
    let (value, rest) ← takeSmall 59 afterBlank
    some ({ fields with minute := some value }, rest)
  | .second => do
    let (value, rest) ← takeSmall 60 afterBlank
    some ({ fields with second := some value }, rest)
  | .fraction =>
    match text with
    | '.' :: rest => do
      let (value, rest) ← takeNanoseconds rest
      some ({ fields with nanosecond := some value }, rest)
    | _ => some (fields, text)
  | .blank => some (fields, afterBlank)
  | .literal character =>
    match text with
    | c :: rest => if c = character then some (fields, rest) else none
    | [] => none

/-- Reads a whole text by a pattern. -/
def readFields (fields : Fields) : List Part → List Char → Option Fields
  | [], [] => some fields
  | [], _ :: _ => none
  | part :: parts, text => do
    let (fields, rest) ← readPart fields part text
    readFields fields parts rest

/-- The date of the fields. -/
def Fields.date? (fields : Fields) : Option Date := do
  Date.of? (← fields.year) (← fields.month) (← fields.day)

/-- The time of the fields. A sixtieth second is a leap second. -/
def Fields.time? (fields : Fields) : Option TimeOfDay := do
  let hour ← fields.hour
  let minute ← fields.minute
  let second := fields.second.getD 0
  let nanosecond := fields.nanosecond.getD 0
  if second = 60 then some ⟨hour, minute, 59, nanosecond + 1000000000⟩
  else some ⟨hour, minute, second, nanosecond⟩

/-- Year, month and day with hyphens. -/
def isoDate : List Part :=
  [.year, .literal '-', .month, .literal '-', .day]

/-- Month, day and year with slashes. -/
def slashDate : List Part :=
  [.month, .literal '/', .day, .literal '/', .year]

/-- Hours, minutes and seconds with an optional fraction. -/
def fullTime : List Part :=
  [.hour, .literal ':', .minute, .literal ':', .second, .fraction]

/-- The patterns of a moment without an offset, in the order in which they are tried. -/
def momentPatterns : List (List Part) :=
  [isoDate ++ .literal 'T' :: fullTime,
    isoDate ++ .blank :: fullTime,
    isoDate ++ [.literal 'T', .hour, .literal ':', .minute]]

/-- Reads a date by a pattern. -/
def readDate? (pattern : List Part) (text : List Char) : Option Date := do
  (← readFields {} pattern text).date?

/-- Reads a moment without an offset by a pattern; it is taken in universal time. -/
def readMoment? (pattern : List Part) (text : List Char) : Option Moment := do
  let fields ← readFields {} pattern text
  some ⟨← fields.date?, ← fields.time?, 0⟩

/-- Takes one character that is required. -/
def takeChar (required : Char) : List Char → Option (List Char)
  | c :: rest => if c = required then some rest else none
  | [] => none

/-- Whether a sign is that of an offset to the west; absent for a character that is no sign. -/
def isWest? (sign : Char) : Option Bool :=
  if sign = '+' then some false
  else if sign = '-' ∨ sign = '−' then some true
  else none

/-- Takes an offset of hours and minutes, or the letter of universal time. -/
def takeOffset (text : List Char) : Option (Int × List Char) :=
  match text with
  | [] => none
  | c :: rest =>
    if c = 'Z' ∨ c = 'z' then some (0, rest)
    else do
      let negative ← isWest? c
      let (hours, rest) ← takeDigits 2 2 rest
      let (minutes, rest) ← takeDigits 2 2 (← takeChar ':' rest)
      let seconds : Int := hours * 3600 + minutes * 60
      if 23 < hours ∨ 59 < minutes then none
      else some (if negative then -seconds else seconds, rest)

/-- Takes the mark between a date and a time. -/
def takeTimeMark : List Char → Option (List Char)
  | c :: rest => if c = 'T' ∨ c = 't' ∨ c = ' ' then some rest else none
  | [] => none

/-- Takes a point and the fraction of a second, or nothing. -/
def takeFraction (text : List Char) : Option (Nat × List Char) :=
  match text with
  | '.' :: rest => takeNanoseconds rest
  | _ => some (0, text)

/-- Reads a moment in the strict form: fields of fixed width, a fraction if there is one, and an
offset. -/
def strictMoment? (text : List Char) : Option Moment := do
  let (year, rest) ← takeDigits 4 4 text
  let (month, rest) ← takeDigits 2 2 (← takeChar '-' rest)
  let (day, rest) ← takeDigits 2 2 (← takeChar '-' rest)
  let (hour, rest) ← takeDigits 2 2 (← takeTimeMark rest)
  let (minute, rest) ← takeDigits 2 2 (← takeChar ':' rest)
  let (second, rest) ← takeDigits 2 2 (← takeChar ':' rest)
  let (nanosecond, rest) ← takeFraction rest
  let (offset, rest) ← takeOffset rest
  let fields : Fields :=
    { year := some year, month := some month, day := some day, hour := some hour,
      minute := some minute, second := some second, nanosecond := some nanosecond }
  if !rest.isEmpty ∨ 23 < hour ∨ 59 < minute ∨ 60 < second then none
  else some ⟨← fields.date?, ← fields.time?, offset⟩

end Calendar

open Calendar in
/-- Reads a moment: in the strict form, by one of the patterns, or as the start of a date. -/
def Moment.read? (text : List Char) : Option Moment :=
  (strictMoment? text).or <|
    (momentPatterns.findSome? (readMoment? · text)).or <|
      (readDate? isoDate text).map Moment.ofDate

open Calendar in
/-- Reads a date: with hyphens, as the date of a moment, or with slashes. -/
def Date.read? (text : List Char) : Option Date :=
  (readDate? isoDate text).or <|
    ((Moment.read? text).map (·.date)).or <|
      readDate? slashDate text

end DocumentMapping
