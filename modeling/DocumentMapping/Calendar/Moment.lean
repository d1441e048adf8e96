import DocumentMapping.Calendar.Date

/-!
# Moments

A moment is a date and a time of day at an offset from universal time. Moments are equal and ordered
by the instant they denote, whatever their offsets. A leap second is the last second of its minute
with more than a thousand million nanoseconds.
-/

namespace DocumentMapping

/-- A time of day. -/
structure TimeOfDay where
  hour : Nat
  minute : Nat
  second : Nat
  nanosecond : Nat
deriving DecidableEq, Repr, Inhabited

/-- A date and time at an offset from universal time, in seconds to the east. -/
structure Moment where
  date : Date
  time : TimeOfDay
  offset : Int
deriving DecidableEq, Repr, Inhabited

namespace TimeOfDay

/-- The start of a day. -/
def midnight : TimeOfDay := ⟨0, 0, 0, 0⟩

/-- The seconds since the start of the day. -/
def seconds (time : TimeOfDay) : Nat :=
  time.hour * 3600 + time.minute * 60 + time.second

/-- The second as it is written: 60 in a leap second. -/
def writtenSecond (time : TimeOfDay) : Nat :=
  time.second + time.nanosecond / 1000000000

/-- The nanoseconds as they are written. -/
def writtenNanosecond (time : TimeOfDay) : Nat :=
  time.nanosecond % 1000000000

/-- A written time in hours, minutes and seconds. -/
def chars (time : TimeOfDay) : List Char :=
  paddedNat 2 time.hour ++ ':' :: paddedNat 2 time.minute ++ ':' :: paddedNat 2 time.writtenSecond

/-- A written fraction of a second: none, or as many of three, six and nine digits as it needs. -/
def fractionChars (time : TimeOfDay) : List Char :=
  let nanosecond := time.writtenNanosecond
  if nanosecond = 0 then []
  else if nanosecond % 1000000 = 0 then '.' :: paddedNat 3 (nanosecond / 1000000)
  else if nanosecond % 1000 = 0 then '.' :: paddedNat 6 (nanosecond / 1000)
  else '.' :: paddedNat 9 nanosecond

end TimeOfDay

namespace Moment

/-- The start of a day in universal time. -/
def ofDate (date : Date) : Moment :=
  ⟨date, .midnight, 0⟩

/-- The seconds of the instant since the start of day zero in universal time. -/
def instantSeconds (moment : Moment) : Int :=
  moment.date.dayNumber * 86400 + moment.time.seconds - moment.offset

/-- The order of two moments by their instants. -/
def compare (x y : Moment) : Ordering :=
  (Ord.compare x.instantSeconds y.instantSeconds).then
    (Ord.compare x.time.nanosecond y.time.nanosecond)

/-- Two moments are equal when they denote the same instant. -/
def sameInstant (x y : Moment) : Bool :=
  x.instantSeconds == y.instantSeconds && x.time.nanosecond == y.time.nanosecond

/-- A written offset: sign, hours and minutes, rounded to the nearest minute. -/
def offsetChars (offset : Int) : List Char :=
  let minutes := (offset.natAbs + 30) / 60
  (if offset < 0 then '-' else '+') :: paddedNat 2 (minutes / 60) ++
    ':' :: paddedNat 2 (minutes % 60)

/-- A written moment: date, time, the fraction that is needed, and the offset. -/
def chars (moment : Moment) : List Char :=
  moment.date.chars ++ 'T' :: moment.time.chars ++ moment.time.fractionChars ++
    offsetChars moment.offset

end Moment

end DocumentMapping
