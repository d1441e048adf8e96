import DocumentMapping.Calendar.Moment

/-!
# Written dates and moments

A date or moment is written by one of a few short formats or by a picture of runs of letters.
Quotes copy text as it is, and a backslash copies the character after it.
-/

namespace DocumentMapping.Format

/-- The names of the months. -/
def monthNames : List String :=
  ["January", "February", "March", "April", "May", "June", "July", "August", "September",
    "October", "November", "December"]

/-- The names of the days from Monday on. -/
def dayNames : List String :=
  ["Monday", "Tuesday", "Wednesday", "Thursday", "Friday", "Saturday", "Sunday"]

/-- What a picture can show: a date and a time, and an offset if there is one. -/
structure Fields where
  date : Date
  time : TimeOfDay
  offset : Option Int

/-- The fields of a date. -/
def Fields.ofDate (date : Date) : Fields := ⟨date, .midnight, none⟩

/-- The fields of a moment. -/
def Fields.ofMoment (moment : Moment) : Fields := ⟨moment.date, moment.time, some moment.offset⟩

/-- The moment of the fields, in universal time when there is no offset. -/
def Fields.moment (fields : Fields) : Moment :=
  ⟨fields.date, fields.time, fields.offset.getD 0⟩

/-- A signed number with zeros after its sign up to a width. -/
def paddedInt (width : Nat) (n : Int) : List Char :=
  if n < 0 then '-' :: paddedNat (width - 1) n.natAbs else paddedNat width n.natAbs

/-- The hour on a clock of twelve hours. -/
def twelveHour (hour : Nat) : Nat :=
  if hour % 12 = 0 then 12 else hour % 12

/-- A name in full, or its first three letters. -/
def nameChars (names : List String) (place run : Nat) : List Char :=
  let name := (names.getD place "").toList
  if run = 3 then name.take 3 else name

/-- An offset as hours alone or as hours and minutes, without its seconds. -/
def offsetChars (offset : Int) (letter : Char) (run : Nat) : List Char :=
  let sign := if offset < 0 then '-' else '+'
  let hours := offset.natAbs / 3600
  if letter = 'z' ∧ run ≤ 2 then sign :: paddedNat run hours
  else sign :: paddedNat 2 hours ++ ':' :: paddedNat 2 (offset.natAbs % 3600 / 60)

/-- A run of the same letter in a picture. A letter without a meaning stands for itself. -/
def runChars (fields : Fields) (letter : Char) (run : Nat) : List Char :=
  let small (n : Nat) : List Char := paddedNat (if run = 1 then 1 else 2) n
  match letter with
  | 'y' =>
    if run ≤ 2 then paddedInt run (Int.tmod fields.date.year 100)
    else paddedInt run fields.date.year
  | 'M' =>
    if run ≤ 2 then small fields.date.month
    else nameChars monthNames (fields.date.month - 1) run
  | 'd' =>
    if run ≤ 2 then small fields.date.day
    else nameChars dayNames fields.date.weekday run
  | 'H' => small fields.time.hour
  | 'h' => small (twelveHour fields.time.hour)
  | 'm' => small fields.time.minute
  | 's' => small fields.time.second
  | 'f' => (paddedNat 9 fields.time.writtenNanosecond).take run
  | 't' =>
    (if fields.time.hour < 12 then ['A', 'M'] else ['P', 'M']).take run
  | 'z' =>
    match fields.offset with
    | some offset => offsetChars offset 'z' run
    | none => []
  | 'K' =>
    match fields.offset with
    | some offset => offsetChars offset 'K' run
    | none => []
  | _ => List.replicate run letter

/-- The parts of a picture. -/
inductive PicturePart where
  | run (letter : Char) (length : Nat)
  | text (content : List Char)
deriving DecidableEq, Repr

/-- Cuts a picture into runs and copied text. -/
def pictureParts : List Char → List PicturePart
  | [] => []
  | c :: rest =>
    if c = '\'' ∨ c = '"' then
      .text (rest.takeWhile (· ≠ c)) :: pictureParts ((rest.dropWhile (· ≠ c)).drop 1)
    else if c = '\\' then
      .text (rest.take 1) :: pictureParts (rest.drop 1)
    else
      .run c (1 + (rest.takeWhile (· = c)).length) :: pictureParts (rest.dropWhile (· = c))
termination_by text => text.length
decreasing_by
  all_goals
    simp only [List.length_cons, List.length_drop]
    have h₁ := (List.dropWhile_sublist (l := rest) (fun x => decide (x ≠ c))).length_le
    have h₂ := (List.dropWhile_sublist (l := rest) (fun x => decide (x = c))).length_le
    omega

/-- Writes a part of a picture. -/
def PicturePart.chars (fields : Fields) : PicturePart → List Char
  | .run letter length => runChars fields letter length
  | .text content => content

/-- A date or moment written by a format. -/
def momentChars (fields : Fields) (spec : List Char) : List Char :=
  match spec with
  | [] =>
    match fields.offset with
    | some _ => fields.moment.chars
    | none => fields.date.chars
  | ['d'] =>
    paddedNat 2 fields.date.month ++ '/' :: paddedNat 2 fields.date.day ++
      '/' :: Date.yearChars fields.date.year
  | ['s'] => fields.date.chars ++ 'T' :: fields.time.chars
  | ['o'] => fields.moment.chars
  | ['O'] => fields.moment.chars
  | _ => (pictureParts spec).flatMap (·.chars fields)

end DocumentMapping.Format
