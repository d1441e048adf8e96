import DocumentMapping.Number.DoubleText

/-!
# Calendar dates

Dates of the Gregorian calendar, extended to all years from -262143 to 262142, with year zero
before year one.
-/

namespace DocumentMapping

/-- A natural number in decimal digits, with zeros in front up to a width. -/
def paddedNat (width n : Nat) : List Char :=
  List.replicate (width - (digitChars n).length) '0' ++ digitChars n

namespace Calendar

/-- Whether a year has a 29th of February. -/
def isLeapYear (year : Int) : Bool :=
  year % 4 == 0 && (year % 100 != 0 || year % 400 == 0)

/-- The number of days in a month of a year; zero for a number that is no month. -/
def daysInMonth (year : Int) (month : Nat) : Nat :=
  match month with
  | 1 => 31
  | 2 => if isLeapYear year then 29 else 28
  | 3 => 31
  | 4 => 30
  | 5 => 31
  | 6 => 30
  | 7 => 31
  | 8 => 31
  | 9 => 30
  | 10 => 31
  | 11 => 30
  | 12 => 31
  | _ => 0

/-- The dates of the calendar. -/
def IsDate (year : Int) (month day : Nat) : Prop :=
  -262143 ≤ year ∧ year ≤ 262142 ∧ 1 ≤ day ∧ day ≤ daysInMonth year month

instance (year : Int) (month day : Nat) : Decidable (IsDate year month day) :=
  inferInstanceAs (Decidable (_ ∧ _))

end Calendar

/-- A date of the calendar. -/
structure Date where
  year : Int
  month : Nat
  day : Nat
  isDate : Calendar.IsDate year month day
deriving DecidableEq, Repr

namespace Date

/-- The date with the given fields, if the calendar has it. -/
def of? (year : Int) (month day : Nat) : Option Date :=
  if h : Calendar.IsDate year month day then some ⟨year, month, day, h⟩ else none

instance : Inhabited Date := ⟨⟨1, 1, 1, by decide⟩⟩

/-- The number of a day: days are counted from a 1st of March, so that a leap day ends its year. The
31st of December before year one has number zero. -/
def dayNumber (date : Date) : Int :=
  let year := if date.month ≤ 2 then date.year - 1 else date.year
  let month : Int := if date.month ≤ 2 then date.month + 9 else date.month - 3
  365 * year + year / 4 - year / 100 + year / 400 + (153 * month + 2) / 5 + date.day - 306

/-- The order of two dates. -/
def compare (x y : Date) : Ordering :=
  Ord.compare x.dayNumber y.dayNumber

/-- The day of the week, counted from Monday as zero. -/
def weekday (date : Date) : Nat :=
  ((date.dayNumber + 6) % 7).toNat

/-- A written year: four digits from 0 to 9999, and a sign with at least four digits outside. -/
def yearChars (year : Int) : List Char :=
  if 0 ≤ year ∧ year ≤ 9999 then paddedNat 4 year.natAbs
  else (if year < 0 then '-' else '+') :: paddedNat 4 year.natAbs

/-- A written date: year, month and day with hyphens. -/
def chars (date : Date) : List Char :=
  yearChars date.year ++ '-' :: paddedNat 2 date.month ++ '-' :: paddedNat 2 date.day

end Date

end DocumentMapping
