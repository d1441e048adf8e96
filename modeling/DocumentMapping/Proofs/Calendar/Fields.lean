import DocumentMapping.Calendar.Reader
import DocumentMapping.Proofs.Calendar.DayNumber
import DocumentMapping.Proofs.Number.Digits
import DocumentMapping.Proofs.Text.Trimming

/-!
# Written fields of dates and times

A field is written with zeros in front up to its width. The reader takes it back, by a strict form
with the very width and by a pattern with at most the width. So a written date fills the fields of
the pattern for dates, and a written time those of the pattern for times.
-/

namespace DocumentMapping

/-! ## Numbers with zeros in front -/

section

variable {width n : Nat}

theorem digitsValue_paddedNat (width n : Nat) : digitsValue (paddedNat width n) = n := by
  rw [paddedNat, digitsValue_append, digitsValue_replicate_zero, Nat.zero_mul, Nat.zero_add,
    digitsValue_digitChars]

theorem isDigit_of_mem_paddedNat {c : Char} (h : c ∈ paddedNat width n) : c.isDigit = true := by
  rcases List.mem_append.mp h with hzero | hdigit
  · rw [List.eq_of_mem_replicate hzero]
    decide
  · exact isDigit_of_mem_digitChars hdigit

theorem length_paddedNat_pos (width n : Nat) : 0 < (paddedNat width n).length := by
  have hdigits := digitChars_length_pos n
  rw [paddedNat, List.length_append]
  omega

theorem length_paddedNat (hwidth : 0 < width) (hn : n < 10 ^ width) :
    (paddedNat width n).length = width := by
  have hdigits : (digitChars n).length ≤ width :=
    (Nat.length_toDigits_le_iff (by decide) hwidth).mpr hn
  rw [paddedNat, List.length_append, List.length_replicate]
  omega

/-- A number with zeros in front begins with a digit. -/
theorem exists_cons_paddedNat (width n : Nat) :
    ∃ c rest, paddedNat width n = c :: rest ∧ c.isDigit = true := by
  obtain ⟨c, rest, hcons⟩ := List.exists_cons_of_length_pos (length_paddedNat_pos width n)
  exact ⟨c, rest, hcons, isDigit_of_mem_paddedNat (hcons ▸ List.mem_cons_self)⟩

end

namespace Calendar

/-! ## Taking digits -/

section

variable {least most : Nat} {digits rest : List Char}

/-- Digits are taken when they are as many as possible, or when no digit follows. -/
theorem takeDigits_append (hdigits : ∀ c ∈ digits, c.isDigit = true)
    (hleast : least ≤ digits.length) (hmost : digits.length ≤ most)
    (hstop : digits.length = most ∨ ∀ c ∈ rest.head?, c.isDigit = false) :
    takeDigits least most (digits ++ rest) = some (digitsValue digits, rest) := by
  have htaken : ((digits ++ rest).takeWhile Char.isDigit).take most = digits := by
    rw [List.takeWhile_append_of_pos hdigits]
    rcases hstop with hlength | hrest
    · rw [← hlength, List.take_left']
      rfl
    · have hnone : rest.takeWhile Char.isDigit = [] := by
        cases rest with
        | nil => rfl
        | cons c more => rw [List.takeWhile_cons_of_neg (by simp [hrest c rfl])]
      rw [hnone, List.append_nil, List.take_of_length_le hmost]
  rw [takeDigits, htaken]
  simp only [if_neg (Nat.not_lt.mpr hleast), List.drop_left']

/-- A number with zeros in front is taken by its width, whatever follows. -/
theorem takeDigits_paddedNat {width n : Nat} (hwidth : 0 < width) (hn : n < 10 ^ width)
    (rest : List Char) : takeDigits width width (paddedNat width n ++ rest) = some (n, rest) := by
  have hlength := length_paddedNat hwidth hn
  rw [takeDigits_append (fun c hc => isDigit_of_mem_paddedNat hc) hlength.ge hlength.le
    (.inl hlength), digitsValue_paddedNat]

/-- Fewer digits than required are not taken. -/
theorem takeDigits_eq_none (hdigits : ∀ c ∈ digits, c.isDigit = true)
    (hrest : ∀ c ∈ rest.head?, c.isDigit = false) (hleast : digits.length < least) :
    takeDigits least most (digits ++ rest) = none := by
  have hlength : (digits.take most).length < least := by
    rw [List.length_take]
    omega
  rw [takeDigits, takeWhile_append_of_stop hdigits hrest]
  simp only [if_pos hlength]

end

section

variable {rest : List Char}

/-- A field of two digits is taken when it does not exceed its bound. -/
theorem takeSmall_paddedNat {bound n : Nat} (hn : n ≤ bound) (hbound : bound < 100)
    (rest : List Char) : takeSmall bound (paddedNat 2 n ++ rest) = some (n, rest) := by
  have hlength : (paddedNat 2 n).length = 2 := length_paddedNat (by decide) (by omega)
  have htaken : takeDigits 1 2 (paddedNat 2 n ++ rest) = some (n, rest) := by
    rw [takeDigits_append (fun c hc => isDigit_of_mem_paddedNat hc) (by omega) hlength.le
      (.inl hlength), digitsValue_paddedNat]
  rw [takeSmall, htaken]
  exact if_pos hn

/-- A written year begins with a digit, or has a sign in front of its digits. -/
theorem yearChars_cases (year : Int) :
    0 ≤ year ∧ year ≤ 9999 ∧ Date.yearChars year = paddedNat 4 year.natAbs ∨
      year < 0 ∧ Date.yearChars year = '-' :: paddedNat 4 year.natAbs ∨
      9999 < year ∧ Date.yearChars year = '+' :: paddedNat 4 year.natAbs := by
  unfold Date.yearChars
  by_cases hplain : 0 ≤ year ∧ year ≤ 9999
  · exact .inl ⟨hplain.1, hplain.2, if_pos hplain⟩
  · rw [if_neg hplain]
    by_cases hnegative : year < 0
    · exact .inr (.inl ⟨hnegative, by rw [if_pos hnegative]⟩)
    · exact .inr (.inr ⟨by omega, by rw [if_neg hnegative]⟩)

/-- Digits without a sign are taken as a year, at most four of them. -/
theorem takeYear_paddedNat {width n : Nat} (hmost : (paddedNat width n).length ≤ 4)
    (hstop : (paddedNat width n).length = 4 ∨ ∀ c ∈ rest.head?, c.isDigit = false) :
    takeYear (paddedNat width n ++ rest) = some ((n : Int), rest) := by
  obtain ⟨c, more, hcons, hc⟩ := exists_cons_paddedNat width n
  have htaken : takeDigits 1 4 (paddedNat width n ++ rest) = some (n, rest) := by
    rw [takeDigits_append (fun c hc => isDigit_of_mem_paddedNat hc) (length_paddedNat_pos width n)
      hmost hstop, digitsValue_paddedNat]
  unfold takeYear
  split
  -- a sign is no digit
  · rename_i heq
    rw [hcons] at heq
    cases heq
    exact absurd hc (by decide)
  · rename_i heq
    rw [hcons] at heq
    cases heq
    exact absurd hc (by decide)
  · rw [htaken]
    rfl

/-- A written year is taken back, also one with a sign. -/
theorem takeYear_yearChars (year : Int) (hrest : ∀ c ∈ rest.head?, c.isDigit = false) :
    takeYear (Date.yearChars year ++ rest) = some (year, rest) := by
  have hsigned : takeDigits 1 (paddedNat 4 year.natAbs ++ rest).length
      (paddedNat 4 year.natAbs ++ rest) = some (year.natAbs, rest) := by
    have hpos := length_paddedNat_pos 4 year.natAbs
    rw [takeDigits_append (fun c hc => isDigit_of_mem_paddedNat hc) hpos
      (by rw [List.length_append]; omega) (.inr hrest), digitsValue_paddedNat]
  obtain ⟨hlower, hupper, hyear⟩ | ⟨hsign, hyear⟩ | ⟨hsign, hyear⟩ := yearChars_cases year
  · have hlength : (paddedNat 4 year.natAbs).length = 4 := length_paddedNat (by decide) (by omega)
    have hvalue : ((year.natAbs : Nat) : Int) = year := by omega
    rw [hyear, takeYear_paddedNat hlength.le (.inl hlength), hvalue]
  · have hvalue : -((year.natAbs : Nat) : Int) = year := by omega
    rw [hyear, List.cons_append, takeYear, hsigned]
    simp only [Option.bind_eq_bind, Option.bind_some, hvalue]
  · have hvalue : ((year.natAbs : Nat) : Int) = year := by omega
    rw [hyear, List.cons_append, takeYear, hsigned]
    simp only [Option.bind_eq_bind, Option.bind_some, hvalue]

end

/-! ## Reading by patterns -/

section

variable {fields : Fields} {parts : List Part} {rest : List Char}

theorem dropWhile_isBlank_paddedNat (width n : Nat) (rest : List Char) :
    (paddedNat width n ++ rest).dropWhile Text.isBlank = paddedNat width n ++ rest := by
  obtain ⟨c, more, hcons, hc⟩ := exists_cons_paddedNat width n
  refine Text.dropWhile_isBlank fun first hfirst => ?_
  rw [hcons, List.cons_append, List.head?_cons, Option.mem_some_iff] at hfirst
  rw [← hfirst]
  exact (Text.isVisible_of_isDigit hc).isBlank_eq_false

theorem dropWhile_isBlank_yearChars (year : Int) (rest : List Char) :
    (Date.yearChars year ++ rest).dropWhile Text.isBlank = Date.yearChars year ++ rest := by
  obtain ⟨-, -, hyear⟩ | ⟨-, hyear⟩ | ⟨-, hyear⟩ := yearChars_cases year
  · rw [hyear, dropWhile_isBlank_paddedNat]
  · rw [hyear]
    refine Text.dropWhile_isBlank fun first hfirst => ?_
    cases hfirst
    exact Text.IsVisible.isBlank_eq_false (by decide)
  · rw [hyear]
    refine Text.dropWhile_isBlank fun first hfirst => ?_
    cases hfirst
    exact Text.IsVisible.isBlank_eq_false (by decide)

theorem readFields_literal (c : Char) (rest : List Char) :
    readFields fields (.literal c :: parts) (c :: rest) = readFields fields parts rest := by
  simp [readFields, readPart]

theorem readFields_year (year : Int) (hrest : ∀ c ∈ rest.head?, c.isDigit = false) :
    readFields fields (.year :: parts) (Date.yearChars year ++ rest) =
      readFields { fields with year := some year } parts rest := by
  simp only [readFields, readPart, dropWhile_isBlank_yearChars, takeYear_yearChars year hrest,
    Option.bind_eq_bind, Option.bind_some]

/-- A part of a pattern that is a number of at most two digits with a bound, and the field that it
fills. -/
def IsSmall (part : Part) (bound : Nat) (fill : Fields → Nat → Fields) : Prop :=
  ∀ fields text, readPart fields part text =
    (takeSmall bound (text.dropWhile Text.isBlank)).bind fun (value, rest) =>
      some (fill fields value, rest)

theorem isSmall_month : IsSmall .month 12 fun fields value => { fields with month := some value } :=
  fun _ _ => rfl

theorem isSmall_day : IsSmall .day 31 fun fields value => { fields with day := some value } :=
  fun _ _ => rfl

theorem isSmall_hour : IsSmall .hour 23 fun fields value => { fields with hour := some value } :=
  fun _ _ => rfl

theorem isSmall_minute :
    IsSmall .minute 59 fun fields value => { fields with minute := some value } :=
  fun _ _ => rfl

theorem isSmall_second :
    IsSmall .second 60 fun fields value => { fields with second := some value } :=
  fun _ _ => rfl

theorem readFields_small {part : Part} {bound n : Nat} {fill : Fields → Nat → Fields}
    (h : IsSmall part bound fill) (hbound : bound < 100) (hn : n ≤ bound) (rest : List Char) :
    readFields fields (part :: parts) (paddedNat 2 n ++ rest) =
      readFields (fill fields n) parts rest := by
  rw [readFields, h, dropWhile_isBlank_paddedNat, takeSmall_paddedNat hn hbound]
  rfl

end

/-! ## Written dates and times -/

section

variable {fields : Fields} {parts : List Part}

theorem daysInMonth_le (year : Int) (month : Nat) : daysInMonth year month ≤ 31 := by
  unfold daysInMonth
  split
  all_goals first
    | decide
    | split <;> decide

/-- The pattern for dates is filled by a written date. -/
theorem readFields_isoDate (date : Date) (rest : List Char) :
    readFields fields (isoDate ++ parts) (date.chars ++ rest) =
      readFields { fields with year := some date.year, month := some date.month,
                               day := some date.day } parts rest := by
  have hmonth := date.month_bounds.2
  have hday := Nat.le_trans date.day_le_daysInMonth.2 (daysInMonth_le _ _)
  rw [Date.chars]
  simp only [isoDate, List.cons_append, List.nil_append, List.append_assoc]
  rw [readFields_year _ (by simp), readFields_literal,
    readFields_small isSmall_month (by decide) hmonth, readFields_literal,
    readFields_small isSmall_day (by decide) hday]

/-- The pattern for dates with slashes is filled by such a date. -/
theorem readFields_slashDate (date : Date) :
    readFields fields slashDate (paddedNat 2 date.month ++ '/' :: paddedNat 2 date.day ++
        '/' :: Date.yearChars date.year) =
      some { fields with year := some date.year, month := some date.month,
                         day := some date.day } := by
  have hmonth := date.month_bounds.2
  have hday := Nat.le_trans date.day_le_daysInMonth.2 (daysInMonth_le _ _)
  rw [slashDate, List.append_assoc, readFields_small isSmall_month (by decide) hmonth,
    List.cons_append, readFields_literal, readFields_small isSmall_day (by decide) hday,
    readFields_literal, ← List.append_nil (Date.yearChars date.year), readFields_year _ (by simp)]
  rfl

/-- No pattern that begins with hyphens reads a slash after two digits. -/
theorem readFields_isoDate_eq_none {n : Nat} (hn : n < 100) (rest : List Char) :
    readFields fields (isoDate ++ parts) (paddedNat 2 n ++ '/' :: rest) = none := by
  have hlength : (paddedNat 2 n).length = 2 := length_paddedNat (by decide) hn
  have htaken : takeYear (paddedNat 2 n ++ '/' :: rest) = some ((n : Int), '/' :: rest) :=
    takeYear_paddedNat (by omega) (.inr (by simp))
  have hslash (filled : Fields) (more : List Part) :
      readFields filled (.literal '-' :: more) ('/' :: rest) = none := by
    simp [readFields, readPart]
  rw [isoDate, List.cons_append, readFields]
  simp only [readPart, dropWhile_isBlank_paddedNat, htaken, Option.bind_eq_bind, Option.bind_some]
  exact hslash _ _

end

end Calendar

/-! ## Times of day -/

/-- A time on a clock. A leap second is the last second of its minute with more than a thousand
million nanoseconds. -/
structure TimeOfDay.IsTime (time : TimeOfDay) : Prop where
  hour_le : time.hour ≤ 23
  minute_le : time.minute ≤ 59
  second_le : time.second ≤ 59
  nanosecond_lt : time.nanosecond < 1000000000 ∨
    time.second = 59 ∧ time.nanosecond < 2000000000

namespace TimeOfDay

variable {time : TimeOfDay}

theorem IsTime.writtenSecond_le (h : time.IsTime) : time.writtenSecond ≤ 60 := by
  have hsecond := h.second_le
  have hnanosecond := h.nanosecond_lt
  rw [writtenSecond]
  omega

end TimeOfDay

namespace Calendar

/-- The pattern for times is filled by a written time, before its fraction. -/
theorem readFields_fullTime {fields : Fields} {time : TimeOfDay} (h : time.IsTime)
    (rest : List Char) :
    readFields fields fullTime (time.chars ++ rest) =
      readFields { fields with hour := some time.hour, minute := some time.minute,
                               second := some time.writtenSecond } [.fraction] rest := by
  rw [fullTime, TimeOfDay.chars, List.append_assoc, List.append_assoc,
    readFields_small isSmall_hour (by decide) h.hour_le, List.cons_append, List.cons_append,
    readFields_literal, readFields_small isSmall_minute (by decide) h.minute_le,
    readFields_literal, readFields_small isSmall_second (by decide) h.writtenSecond_le]

end Calendar

end DocumentMapping
