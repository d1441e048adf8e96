import DocumentMapping.Proofs.Calendar.Fields

/-!
# Written dates and moments are read back

A written date is read as itself, in all years. A written moment is read as itself, with its offset
and the fraction of its second, when its year is written with four digits: the strict form knows no
sign in front of a year. What is read is always a time on a clock at an offset of whole minutes.
-/

namespace DocumentMapping

/-- An offset from universal time: whole minutes, and less than a day. -/
structure Moment.IsOffset (offset : Int) : Prop where
  sixty_dvd : 60 ∣ offset
  natAbs_lt : offset.natAbs < 86400

/-- A moment with a time on a clock and an offset of whole minutes. -/
structure Moment.IsProper (moment : Moment) : Prop where
  isTime : moment.time.IsTime
  isOffset : Moment.IsOffset moment.offset

theorem Option.bind_of_eq_some {α β : Type} {x : Option α} {a : α} {f : α → Option β}
    (h : x = some a) : (x >>= f) = f a := by
  rw [h]
  rfl

namespace Calendar

/-! ## Fractions and offsets -/

section

variable {rest : List Char}

theorem takeFraction_of_ne {text : List Char} (h : ∀ rest, text ≠ '.' :: rest) :
    takeFraction text = some (0, text) := by
  unfold takeFraction
  split
  · exact absurd rfl (h _)
  · rfl

theorem takeNanoseconds_paddedNat {width n : Nat} (hpos : 0 < width) (hwidth : width ≤ 9)
    (hn : n < 10 ^ width) (hrest : ∀ c ∈ rest.head?, c.isDigit = false) :
    takeNanoseconds (paddedNat width n ++ rest) = some (n * 10 ^ (9 - width), rest) := by
  have hdigits : ∀ c ∈ paddedNat width n, c.isDigit = true :=
    fun c hc => isDigit_of_mem_paddedNat hc
  have hlength := length_paddedNat hpos hn
  have hne : (paddedNat width n).isEmpty = false := by
    rw [List.isEmpty_eq_false_iff, ← List.length_pos_iff]
    omega
  rw [takeNanoseconds, takeWhile_append_of_stop hdigits hrest,
    dropWhile_append_of_stop hdigits hrest, List.take_of_length_le (by omega)]
  simp only [hne, Bool.false_eq_true, if_false, digitsValue_paddedNat, hlength]

/-- A written fraction has no digits, or as many of three, six and nine as it needs. -/
theorem fractionChars_cases (time : TimeOfDay) :
    time.writtenNanosecond = 0 ∧ time.fractionChars = [] ∨
      ∃ width n, 0 < width ∧ width ≤ 9 ∧ n < 10 ^ width ∧
        n * 10 ^ (9 - width) = time.writtenNanosecond ∧
        time.fractionChars = '.' :: paddedNat width n := by
  have hlt : time.writtenNanosecond < 1000000000 := Nat.mod_lt _ (by decide)
  unfold TimeOfDay.fractionChars
  dsimp only
  split
  · rename_i hzero
    exact .inl ⟨hzero, rfl⟩
  split
  · exact .inr ⟨3, _, by decide, by decide, by omega, by omega, rfl⟩
  split
  · exact .inr ⟨6, _, by decide, by decide, by omega, by omega, rfl⟩
  · exact .inr ⟨9, _, by decide, by decide, by omega, by omega, rfl⟩

/-- A written fraction is taken back. -/
theorem takeFraction_fractionChars (time : TimeOfDay)
    (hrest : ∀ c ∈ rest.head?, c.isDigit = false ∧ c ≠ '.') :
    takeFraction (time.fractionChars ++ rest) = some (time.writtenNanosecond, rest) := by
  obtain ⟨hzero, hchars⟩ | ⟨width, n, hpos, hwidth, hn, hvalue, hchars⟩ := fractionChars_cases time
  · rw [hchars, hzero, List.nil_append]
    refine takeFraction_of_ne fun more hmore => ?_
    rw [hmore] at hrest
    exact (hrest '.' rfl).2 rfl
  · rw [hchars, List.cons_append, takeFraction,
      takeNanoseconds_paddedNat hpos hwidth hn fun c hc => (hrest c hc).1, hvalue]

/-- A written offset is taken back. -/
theorem takeOffset_offsetChars {offset : Int} (h : Moment.IsOffset offset) :
    takeOffset (Moment.offsetChars offset) = some (offset, []) := by
  have hdvd := h.sixty_dvd
  have hlt := h.natAbs_lt
  obtain ⟨minutes, hminutes⟩ : ∃ minutes, (offset.natAbs + 30) / 60 = minutes := ⟨_, rfl⟩
  have hwhole : offset.natAbs = 60 * minutes := by omega
  have hbounds : ¬(23 < minutes / 60 ∨ 59 < minutes % 60) := by omega
  have hhour := takeDigits_paddedNat (by decide) (by omega : minutes / 60 < 10 ^ 2)
    (':' :: paddedNat 2 (minutes % 60))
  have hminute := takeDigits_paddedNat (by decide) (by omega : minutes % 60 < 10 ^ 2) []
  rw [List.append_nil] at hminute
  rw [Moment.offsetChars, hminutes]
  by_cases hnegative : offset < 0
  · simp [takeOffset, isWest?, hnegative, hhour, hminute, takeChar, hbounds]
    omega
  · simp [takeOffset, isWest?, hnegative, hhour, hminute, takeChar, hbounds]
    omega

end

/-! ## The strict form -/

section

variable {date : Date} {time : TimeOfDay}

theorem date?_of_date (fields : Fields) (date : Date) :
    ({ fields with year := some date.year, month := some date.month,
                   day := some date.day } : Fields).date? = some date := by
  simp [Fields.date?, Date.of?, date.isDate]

/-- A written time with its nanoseconds is the time that was written. -/
theorem time?_of_time (fields : Fields) (h : time.IsTime) :
    ({ fields with hour := some time.hour, minute := some time.minute,
                   second := some time.writtenSecond,
                   nanosecond := some time.writtenNanosecond } : Fields).time? = some time := by
  have hsecond := h.second_le
  have hnanosecond := h.nanosecond_lt
  by_cases hleap : time.nanosecond < 1000000000
  · have hwritten : time.writtenSecond = time.second ∧
        time.writtenNanosecond = time.nanosecond := by
      unfold TimeOfDay.writtenSecond TimeOfDay.writtenNanosecond
      omega
    have hne : time.second ≠ 60 := by omega
    simp [Fields.time?, hwritten, hne]
  · have hwritten : time.writtenSecond = 60 ∧
        time.writtenNanosecond + 1000000000 = time.nanosecond ∧ 59 = time.second := by
      unfold TimeOfDay.writtenSecond TimeOfDay.writtenNanosecond
      omega
    simp [Fields.time?, hwritten]

theorem exists_time? (hour minute : Nat) (fields : Fields) :
    ∃ time, ({ fields with hour := some hour, minute := some minute } : Fields).time? =
      some time := by
  simp only [Fields.time?, Option.bind_eq_bind, Option.bind_some]
  split <;> exact ⟨_, rfl⟩

/-- After a date and a time the strict form takes a fraction and an offset. -/
theorem strictMoment?_append (hlower : 0 ≤ date.year) (hupper : date.year ≤ 9999) (h : time.IsTime)
    (rest : List Char) :
    strictMoment? (date.chars ++ 'T' :: time.chars ++ rest) =
      (takeFraction rest).bind fun fraction => (takeOffset fraction.2).bind fun offset =>
        if !offset.2.isEmpty then none
        else
          ({ hour := some time.hour, minute := some time.minute, second := some time.writtenSecond,
             nanosecond := some fraction.1 } : Fields).time?.bind fun clock =>
            some ⟨date, clock, offset.1⟩ := by
  have hyear : Date.yearChars date.year = paddedNat 4 date.year.natAbs := if_pos ⟨hlower, hupper⟩
  have hvalue : ((date.year.natAbs : Nat) : Int) = date.year := by omega
  have hmonth := date.month_bounds.2
  have hday := Nat.le_trans date.day_le_daysInMonth.2 (daysInMonth_le _ _)
  have hhour := h.hour_le
  have hminute := h.minute_le
  have hsecond := h.writtenSecond_le
  have htwo {n : Nat} (hn : n < 100) (rest : List Char) :
      takeDigits 2 2 (paddedNat 2 n ++ rest) = some (n, rest) :=
    takeDigits_paddedNat (by decide) hn rest
  have hfour (rest : List Char) :
      takeDigits 4 4 (paddedNat 4 date.year.natAbs ++ rest) = some (date.year.natAbs, rest) :=
    takeDigits_paddedNat (by decide) (by omega) rest
  have hchar (c : Char) (rest : List Char) : takeChar c (c :: rest) = some rest := if_pos rfl
  have hmark (rest : List Char) : takeTimeMark ('T' :: rest) = some rest := by
    simp [takeTimeMark]
  have hnot : ¬(23 < time.hour ∨ 59 < time.minute ∨ 60 < time.writtenSecond) := by omega
  have hdate (nanosecond : Nat) :
      ({ year := some date.year, month := some date.month, day := some date.day,
         hour := some time.hour, minute := some time.minute, second := some time.writtenSecond,
         nanosecond := some nanosecond } : Fields).date? = some date :=
    date?_of_date { hour := some time.hour } date
  rw [Date.chars, hyear, TimeOfDay.chars]
  simp only [List.append_assoc, List.cons_append]
  -- the fields in their order, each taken from the text that the one before it leaves
  refine (Option.bind_of_eq_some (hfour _)).trans ?_
  refine (Option.bind_of_eq_some (hchar '-' _)).trans ?_
  refine (Option.bind_of_eq_some (htwo (by omega) _)).trans ?_
  refine (Option.bind_of_eq_some (hchar '-' _)).trans ?_
  refine (Option.bind_of_eq_some (htwo (by omega) _)).trans ?_
  refine (Option.bind_of_eq_some (hmark _)).trans ?_
  refine (Option.bind_of_eq_some (htwo (by omega) _)).trans ?_
  refine (Option.bind_of_eq_some (hchar ':' _)).trans ?_
  refine (Option.bind_of_eq_some (htwo (by omega) _)).trans ?_
  refine (Option.bind_of_eq_some (hchar ':' _)).trans ?_
  refine (Option.bind_of_eq_some (htwo (by omega) _)).trans ?_
  refine bind_congr fun fraction => bind_congr fun offset => ?_
  dsimp only
  simp only [hnot, or_false, hvalue, hdate, Option.bind_eq_bind, Option.bind_some]
  rfl

end

end Calendar

/-! ## Moments -/

namespace Moment

open Calendar

/-- A moment in a year of four digits is read back, with its offset and its fraction of a second. -/
theorem read?_chars {moment : Moment} (h : moment.IsProper) (hlower : 0 ≤ moment.date.year)
    (hupper : moment.date.year ≤ 9999) : read? moment.chars = some moment := by
  have hsign : ∀ c ∈ (offsetChars moment.offset).head?, c.isDigit = false ∧ c ≠ '.' := by
    intro c hc
    cases hc
    split <;> decide
  have hstrict : strictMoment? moment.chars = some moment := by
    rw [chars, List.append_assoc, strictMoment?_append hlower hupper h.isTime,
      takeFraction_fractionChars moment.time hsign]
    have htime := time?_of_time {} h.isTime
    rw [Option.bind_some, takeOffset_offsetChars h.isOffset, Option.bind_some, if_neg (by simp),
      htime, Option.bind_some]
  rw [read?, hstrict, Option.some_or]

end Moment

/-! ## Dates -/

namespace Date

open Calendar

/-- The pattern for dates is filled by a written date and leaves what follows. -/
theorem readFields_chars (date : Date) (rest : List Char) :
    readFields {} isoDate (date.chars ++ rest) =
      readFields { year := some date.year, month := some date.month, day := some date.day } []
        rest := by
  rw [← List.append_nil isoDate, readFields_isoDate]

theorem readDate?_chars (date : Date) : readDate? isoDate date.chars = some date := by
  have hdate := date?_of_date {} date
  rw [readDate?, ← List.append_nil date.chars, readFields_chars]
  exact hdate

/-- A text that goes on after a date is no date. -/
theorem readDate?_chars_append (date : Date) {rest : List Char} (h : rest ≠ []) :
    readDate? isoDate (date.chars ++ rest) = none := by
  rw [readDate?, readFields_chars]
  cases rest with
  | nil => exact absurd rfl h
  | cons c more => rfl

/-- A written date is read back, in all years. -/
theorem read?_chars (date : Date) : read? date.chars = some date := by
  rw [read?, readDate?_chars, Option.some_or]

/-- The text of a moment is read as its date. -/
theorem read?_momentChars {moment : Moment} (h : moment.IsProper) (hlower : 0 ≤ moment.date.year)
    (hupper : moment.date.year ≤ 9999) : read? moment.chars = some moment.date := by
  have hmoment := Moment.read?_chars h hlower hupper
  have hdate : readDate? isoDate moment.chars = none := by
    rw [Moment.chars, List.append_assoc, List.append_assoc]
    exact readDate?_chars_append moment.date (by simp)
  rw [read?, hdate, hmoment]
  rfl

/-- A date with a time behind it is read as that date. -/
theorem read?_append_time {date : Date} {time : TimeOfDay} (hlower : 0 ≤ date.year)
    (hupper : date.year ≤ 9999) (h : time.IsTime) :
    read? (date.chars ++ 'T' :: time.chars) = some date := by
  have hdate : readDate? isoDate (date.chars ++ 'T' :: time.chars) = none :=
    readDate?_chars_append date (by simp)
  have hstrict : strictMoment? (date.chars ++ 'T' :: time.chars) = none := by
    rw [← List.append_nil (date.chars ++ 'T' :: time.chars),
      strictMoment?_append hlower hupper h]
    rfl
  have hfields : readFields {} (isoDate ++ .literal 'T' :: fullTime)
      (date.chars ++ 'T' :: time.chars) =
        some { year := some date.year, month := some date.month, day := some date.day,
               hour := some time.hour, minute := some time.minute,
               second := some time.writtenSecond } := by
    rw [readFields_isoDate, readFields_literal, ← List.append_nil time.chars,
      readFields_fullTime h]
    rfl
  have hmoment : ∃ moment, readMoment? (isoDate ++ .literal 'T' :: fullTime)
      (date.chars ++ 'T' :: time.chars) = some moment ∧ moment.date = date := by
    obtain ⟨clock, hclock⟩ := exists_time? time.hour time.minute
      { year := some date.year, month := some date.month, day := some date.day,
        second := some time.writtenSecond }
    have hday := date?_of_date
      { hour := some time.hour, minute := some time.minute, second := some time.writtenSecond } date
    refine ⟨⟨date, clock, 0⟩, ?_, rfl⟩
    simp only [readMoment?, hfields, Option.bind_eq_bind, Option.bind_some, hday, hclock]
  obtain ⟨moment, hmoment, hsame⟩ := hmoment
  rw [read?, hdate, Moment.read?, hstrict, momentPatterns, List.findSome?_cons, hmoment]
  exact congrArg some hsame

/-- A date with slashes is read as that date, since no form with hyphens reads it. -/
theorem read?_slashChars (date : Date) :
    read? (paddedNat 2 date.month ++ '/' :: paddedNat 2 date.day ++
      '/' :: yearChars date.year) = some date := by
  have hmonth : date.month < 100 := by
    have hbound := date.month_bounds.2
    omega
  have hslash := date?_of_date {} date
  have hread : readDate? slashDate (paddedNat 2 date.month ++ '/' :: paddedNat 2 date.day ++
      '/' :: yearChars date.year) = some date := by
    rw [readDate?, readFields_slashDate]
    exact hslash
  have hhyphens (parts : List Part) (rest : List Char) :
      readFields {} (isoDate ++ parts) (paddedNat 2 date.month ++ '/' :: rest) = none :=
    readFields_isoDate_eq_none hmonth rest
  have hiso (rest : List Char) : readFields {} isoDate (paddedNat 2 date.month ++ '/' :: rest) =
      none := by
    rw [← List.append_nil isoDate, hhyphens]
  have hstrict (rest : List Char) :
      strictMoment? (paddedNat 2 date.month ++ '/' :: rest) = none := by
    have hlength : (paddedNat 2 date.month).length = 2 := length_paddedNat (by decide) hmonth
    rw [strictMoment?, takeDigits_eq_none (fun c hc => isDigit_of_mem_paddedNat hc) (by simp)
      (by omega)]
    rfl
  rw [List.append_assoc, List.cons_append] at hread ⊢
  rw [read?, Moment.read?, hstrict]
  simpa [readDate?, readMoment?, momentPatterns, hiso, hhyphens] using hread

end Date

/-! ## Years with a sign -/

namespace Calendar

section

variable {fields : Fields} {rest : List Char}

/-- What follows a fraction is left over by a pattern that ends in it. -/
theorem readFields_fraction_eq_none (time : TimeOfDay)
    (hne : rest ≠ []) (hrest : ∀ c ∈ rest.head?, c.isDigit = false ∧ c ≠ '.') :
    readFields fields [.fraction] (time.fractionChars ++ rest) = none := by
  obtain ⟨c, more, rfl⟩ := List.exists_cons_of_ne_nil hne
  obtain ⟨hdigit, hpoint⟩ := hrest c rfl
  obtain ⟨-, hchars⟩ | ⟨width, n, hpos, hwidth, hn, -, hchars⟩ := fractionChars_cases time
  · have hkept : readPart fields .fraction (c :: more) = some (fields, c :: more) := by
      unfold readPart
      dsimp only
      split
      · rename_i heq
        cases heq
        exact absurd rfl hpoint
      · rfl
    rw [hchars, List.nil_append, readFields, hkept]
    rfl
  · have hstop : ∀ first ∈ (c :: more).head?, first.isDigit = false := by
      simpa using hdigit
    have htaken := takeNanoseconds_paddedNat hpos hwidth hn hstop
    rw [hchars, List.cons_append]
    simp only [readFields, readPart, htaken, Option.bind_eq_bind, Option.bind_some]

/-- The letter between a date and a time is no white space and begins no time. -/
theorem readFields_blank_fullTime_eq_none :
    readFields fields (.blank :: fullTime) ('T' :: rest) = none := by
  have hkept : ('T' :: rest).dropWhile Text.isBlank = 'T' :: rest :=
    Text.dropWhile_isBlank fun c hc => by
      cases hc
      exact Text.IsVisible.isBlank_eq_false (by decide)
  have hnone : takeSmall 23 ('T' :: rest) = none := by simp [takeSmall, takeDigits]
  simp only [fullTime, readFields, readPart, hkept, hnone, Option.bind_eq_bind, Option.bind_some,
    Option.bind_none]

/-- A pattern of hours and minutes leaves the seconds over. -/
theorem readFields_minutes_eq_none {time : TimeOfDay} (h : time.IsTime) (rest : List Char) :
    readFields fields [.literal 'T', .hour, .literal ':', .minute] ('T' :: time.chars ++ rest) =
      none := by
  rw [TimeOfDay.chars, List.cons_append, List.append_assoc, List.append_assoc, readFields_literal,
    readFields_small isSmall_hour (by decide) h.hour_le, List.cons_append, readFields_literal,
    readFields_small isSmall_minute (by decide) h.minute_le]
  rfl

end

/-- The patterns leave the offset of a written moment over. -/
theorem readMoment?_chars_eq_none {moment : Moment} (h : moment.IsProper) {pattern : List Part}
    (hpattern : pattern ∈ momentPatterns) : readMoment? pattern moment.chars = none := by
  have hoffset : ∀ c ∈ (Moment.offsetChars moment.offset).head?, c.isDigit = false ∧ c ≠ '.' := by
    intro c hc
    cases hc
    split <;> decide
  have hne : Moment.offsetChars moment.offset ≠ [] := List.cons_ne_nil _ _
  have hfields (fields : Fields) : readFields fields [.fraction]
      (moment.time.fractionChars ++ Moment.offsetChars moment.offset) = none :=
    readFields_fraction_eq_none moment.time hne hoffset
  have hnone : readFields {} pattern moment.chars = none := by
    rw [Moment.chars, List.append_assoc, List.append_assoc]
    simp only [momentPatterns, List.mem_cons, List.not_mem_nil, or_false] at hpattern
    obtain rfl | rfl | rfl := hpattern
    · rw [readFields_isoDate, List.cons_append, readFields_literal,
        readFields_fullTime h.isTime, hfields]
    · rw [readFields_isoDate, List.cons_append, readFields_blank_fullTime_eq_none]
    · rw [readFields_isoDate, readFields_minutes_eq_none h.isTime]
  rw [readMoment?, hnone]
  rfl

/-- The strict form knows no sign in front of a year. -/
theorem strictMoment?_eq_none {year : Int} (hyear : year < 0 ∨ 9999 < year) (rest : List Char) :
    strictMoment? (Date.yearChars year ++ rest) = none := by
  have hsign {sign : Char} (hsign : sign.isDigit = false) (text : List Char) :
      strictMoment? (sign :: text) = none := by
    have hnone : takeDigits 4 4 (sign :: text) = none := by simp [takeDigits, hsign]
    rw [strictMoment?, hnone]
    rfl
  obtain ⟨hlower, hupper, -⟩ | ⟨-, hchars⟩ | ⟨-, hchars⟩ := yearChars_cases year
  · omega
  · rw [hchars]
    exact hsign (by decide) _
  · rw [hchars]
    exact hsign (by decide) _

end Calendar

open Calendar in
/-- The text of a moment in a year with a sign is not read as a moment. -/
theorem Moment.read?_chars_eq_none {moment : Moment} (h : moment.IsProper)
    (hyear : moment.date.year < 0 ∨ 9999 < moment.date.year) : read? moment.chars = none := by
  have hstrict : strictMoment? moment.chars = none := by
    rw [chars, Date.chars]
    simp only [List.append_assoc]
    exact strictMoment?_eq_none hyear _
  have hpatterns : momentPatterns.findSome? (readMoment? · moment.chars) = none :=
    List.findSome?_eq_none_iff.mpr fun _ hpattern => readMoment?_chars_eq_none h hpattern
  have hdate : readDate? isoDate moment.chars = none := by
    rw [chars, List.append_assoc, List.append_assoc]
    exact Date.readDate?_chars_append moment.date (by simp)
  rw [read?, hstrict, hpatterns, hdate]
  rfl

/-! ## Written moments are visible -/

section

open Text

theorem allVisible_paddedNat (width n : Nat) : AllVisible (paddedNat width n) :=
  .of_digits fun _ hc => isDigit_of_mem_paddedNat hc

theorem Date.allVisible_yearChars (year : Int) : AllVisible (yearChars year) := by
  obtain ⟨-, -, hyear⟩ | ⟨-, hyear⟩ | ⟨-, hyear⟩ := Calendar.yearChars_cases year
  · rw [hyear]
    exact allVisible_paddedNat 4 _
  · rw [hyear]
    exact (allVisible_paddedNat 4 _).cons (by decide)
  · rw [hyear]
    exact (allVisible_paddedNat 4 _).cons (by decide)

theorem Date.allVisible_chars (date : Date) : AllVisible date.chars :=
  ((allVisible_yearChars _).append ((allVisible_paddedNat 2 _).cons (by decide))).append
    ((allVisible_paddedNat 2 _).cons (by decide))

theorem TimeOfDay.allVisible_chars (time : TimeOfDay) : AllVisible time.chars :=
  ((allVisible_paddedNat 2 _).append ((allVisible_paddedNat 2 _).cons (by decide))).append
    ((allVisible_paddedNat 2 _).cons (by decide))

theorem TimeOfDay.allVisible_fractionChars (time : TimeOfDay) : AllVisible time.fractionChars := by
  obtain ⟨-, hchars⟩ | ⟨width, n, -, -, -, -, hchars⟩ := Calendar.fractionChars_cases time
  · rw [hchars]
    exact .nil
  · rw [hchars]
    exact (allVisible_paddedNat width n).cons (by decide)

theorem Moment.allVisible_offsetChars (offset : Int) : AllVisible (offsetChars offset) := by
  refine .append (.cons ?_ (allVisible_paddedNat 2 _)) ?_
  · split <;> decide
  · exact .cons (by decide) (allVisible_paddedNat 2 _)

theorem Moment.allVisible_chars (moment : Moment) : AllVisible moment.chars :=
  ((moment.date.allVisible_chars.append (moment.time.allVisible_chars.cons (by decide))).append
    moment.time.allVisible_fractionChars).append (allVisible_offsetChars _)

end

end DocumentMapping
