import DocumentMapping.Proofs.Calendar.Reading

/-!
# Moments that are read are proper

Whatever text is read as a moment, the moment has a time on a clock and an offset of whole minutes.
The strict form checks this itself, and each part of a pattern fills its field within its range.
-/

namespace DocumentMapping

theorem TimeOfDay.isTime_midnight : IsTime .midnight :=
  ⟨by decide, by decide, by decide, .inl (by decide)⟩

theorem Moment.isOffset_zero : IsOffset 0 :=
  ⟨by decide, by decide⟩

namespace Calendar

/-! ## Fields -/

/-- The fields of a time are those of a clock, where they are filled. -/
structure Fields.InRange (fields : Fields) : Prop where
  hour_le : ∀ hour ∈ fields.hour, hour ≤ 23
  minute_le : ∀ minute ∈ fields.minute, minute ≤ 59
  second_le : ∀ second ∈ fields.second, second ≤ 60
  nanosecond_lt : ∀ nanosecond ∈ fields.nanosecond, nanosecond < 1000000000

theorem takeNanoseconds_lt {text rest : List Char} {nanosecond : Nat}
    (h : takeNanoseconds text = some (nanosecond, rest)) : nanosecond < 1000000000 := by
  obtain ⟨digits, hdigits⟩ : ∃ digits, (text.takeWhile Char.isDigit).take 9 = digits := ⟨_, rfl⟩
  have hall : ∀ c ∈ digits, c.isDigit = true := by
    intro c hc
    rw [← hdigits] at hc
    exact List.mem_takeWhile_imp (List.mem_of_mem_take hc)
  have hlength : digits.length ≤ 9 := by
    rw [← hdigits]
    exact List.length_take_le 9 _
  rw [takeNanoseconds, hdigits] at h
  split at h
  · cases h
  · obtain ⟨rfl, -⟩ := Prod.mk.inj (Option.some.inj h)
    calc digitsValue digits * 10 ^ (9 - digits.length)
        < 10 ^ digits.length * 10 ^ (9 - digits.length) :=
          Nat.mul_lt_mul_of_pos_right (digitsValue_lt hall) (Nat.pow_pos (by decide))
      _ = 10 ^ 9 := by rw [← Nat.pow_add, Nat.add_sub_cancel' hlength]
      _ = 1000000000 := by decide

theorem takeFraction_lt {text rest : List Char} {nanosecond : Nat}
    (h : takeFraction text = some (nanosecond, rest)) : nanosecond < 1000000000 := by
  unfold takeFraction at h
  split at h
  · exact takeNanoseconds_lt h
  · cases h
    decide

theorem takeSmall_le {bound value : Nat} {text rest : List Char}
    (h : takeSmall bound text = some (value, rest)) : value ≤ bound := by
  obtain ⟨taken, -, hbound⟩ := Option.bind_eq_some_iff.mp h
  dsimp only at hbound
  split at hbound
  · cases hbound
    assumption
  · cases hbound

/-- Each part of a pattern fills its field within its range. -/
theorem readPart_inRange {fields filled : Fields} {part : Part} {text rest : List Char}
    (hfields : fields.InRange) (h : readPart fields part text = some (filled, rest)) :
    filled.InRange := by
  cases part with
  | year =>
    obtain ⟨_, -, hfilled⟩ := Option.bind_eq_some_iff.mp h
    cases hfilled
    exact { hfields with }
  | month =>
    obtain ⟨_, -, hfilled⟩ := Option.bind_eq_some_iff.mp h
    cases hfilled
    exact { hfields with }
  | day =>
    obtain ⟨_, -, hfilled⟩ := Option.bind_eq_some_iff.mp h
    cases hfilled
    exact { hfields with }
  | hour =>
    obtain ⟨_, htaken, hfilled⟩ := Option.bind_eq_some_iff.mp h
    cases hfilled
    exact { hfields with hour_le := by simpa using takeSmall_le htaken }
  | minute =>
    obtain ⟨_, htaken, hfilled⟩ := Option.bind_eq_some_iff.mp h
    cases hfilled
    exact { hfields with minute_le := by simpa using takeSmall_le htaken }
  | second =>
    obtain ⟨_, htaken, hfilled⟩ := Option.bind_eq_some_iff.mp h
    cases hfilled
    exact { hfields with second_le := by simpa using takeSmall_le htaken }
  | fraction =>
    unfold readPart at h
    dsimp only at h
    split at h
    · obtain ⟨_, htaken, hfilled⟩ := Option.bind_eq_some_iff.mp h
      cases hfilled
      exact { hfields with nanosecond_lt := by simpa using takeNanoseconds_lt htaken }
    · cases h
      exact hfields
  | blank =>
    cases h
    exact hfields
  | literal character =>
    unfold readPart at h
    dsimp only at h
    split at h
    · split at h
      · cases h
        exact hfields
      · cases h
    · cases h

theorem readFields_inRange {fields filled : Fields} {parts : List Part} {text : List Char}
    (hfields : fields.InRange) (h : readFields fields parts text = some filled) :
    filled.InRange := by
  induction parts generalizing fields text with
  | nil =>
    cases text with
    | nil =>
      cases h
      exact hfields
    | cons c rest => cases h
  | cons part parts ih =>
    obtain ⟨⟨next, rest⟩, hpart, hrest⟩ := Option.bind_eq_some_iff.mp h
    exact ih (readPart_inRange hfields hpart) hrest

/-- A time of fields in their ranges is a time on a clock. -/
theorem Fields.InRange.isTime {fields : Fields} {time : TimeOfDay} (h : fields.InRange)
    (htime : fields.time? = some time) : time.IsTime := by
  obtain ⟨hour, hhour, htime⟩ := Option.bind_eq_some_iff.mp htime
  obtain ⟨minute, hminute, htime⟩ := Option.bind_eq_some_iff.mp htime
  have hhour := h.hour_le hour hhour
  have hminute := h.minute_le minute hminute
  have hsecond : fields.second.getD 0 ≤ 60 := by
    cases hfield : fields.second with
    | none => decide
    | some second => exact h.second_le second hfield
  have hnanosecond : fields.nanosecond.getD 0 < 1000000000 := by
    cases hfield : fields.nanosecond with
    | none => decide
    | some nanosecond => exact h.nanosecond_lt nanosecond hfield
  dsimp only at htime
  split at htime
  · cases htime
    exact ⟨hhour, hminute, Nat.le_refl 59, .inr ⟨rfl, by dsimp only; omega⟩⟩
  · cases htime
    exact ⟨hhour, hminute, by dsimp only; omega, .inl hnanosecond⟩

/-! ## Forms -/

/-- Hours and minutes within their bounds are an offset, on either side of universal time. -/
theorem isOffset_of_bounds {hours minutes : Nat} (negative : Bool) (hhours : hours ≤ 23)
    (hminutes : minutes ≤ 59) :
    Moment.IsOffset (if negative then -((hours : Int) * 3600 + minutes * 60)
      else hours * 3600 + minutes * 60) := by
  cases negative with
  | false =>
    simp only [Bool.false_eq_true, if_false]
    exact ⟨by omega, by omega⟩
  | true =>
    simp only [if_true]
    exact ⟨by omega, by omega⟩

theorem takeOffset_isOffset {text rest : List Char} {offset : Int}
    (h : takeOffset text = some (offset, rest)) : Moment.IsOffset offset := by
  unfold takeOffset at h
  split at h
  · cases h
  split at h
  · obtain ⟨rfl, -⟩ := Prod.mk.inj (Option.some.inj h)
    exact Moment.isOffset_zero
  obtain ⟨negative, -, h⟩ := Option.bind_eq_some_iff.mp h
  obtain ⟨⟨hours, _⟩, -, h⟩ := Option.bind_eq_some_iff.mp h
  obtain ⟨_, -, h⟩ := Option.bind_eq_some_iff.mp h
  obtain ⟨⟨minutes, _⟩, -, h⟩ := Option.bind_eq_some_iff.mp h
  dsimp only at h
  split at h
  · cases h
  · rename_i hbounds
    obtain ⟨rfl, -⟩ := Prod.mk.inj (Option.some.inj h)
    exact isOffset_of_bounds negative (by omega) (by omega)

/-- The strict form checks the bounds of its fields itself. -/
theorem isProper_of_strictMoment? {text : List Char} {moment : Moment}
    (h : strictMoment? text = some moment) : moment.IsProper := by
  obtain ⟨⟨year, _⟩, -, h⟩ := Option.bind_eq_some_iff.mp h
  obtain ⟨_, -, h⟩ := Option.bind_eq_some_iff.mp h
  obtain ⟨⟨month, _⟩, -, h⟩ := Option.bind_eq_some_iff.mp h
  obtain ⟨_, -, h⟩ := Option.bind_eq_some_iff.mp h
  obtain ⟨⟨day, _⟩, -, h⟩ := Option.bind_eq_some_iff.mp h
  obtain ⟨_, -, h⟩ := Option.bind_eq_some_iff.mp h
  obtain ⟨⟨hour, _⟩, -, h⟩ := Option.bind_eq_some_iff.mp h
  obtain ⟨_, -, h⟩ := Option.bind_eq_some_iff.mp h
  obtain ⟨⟨minute, _⟩, -, h⟩ := Option.bind_eq_some_iff.mp h
  obtain ⟨_, -, h⟩ := Option.bind_eq_some_iff.mp h
  obtain ⟨⟨second, _⟩, -, h⟩ := Option.bind_eq_some_iff.mp h
  obtain ⟨⟨nanosecond, _⟩, hfraction, h⟩ := Option.bind_eq_some_iff.mp h
  obtain ⟨⟨offset, _⟩, hoffset, h⟩ := Option.bind_eq_some_iff.mp h
  have hnanosecond := takeFraction_lt hfraction
  dsimp only at h
  split at h
  · cases h
  rename_i hbounds
  obtain ⟨date, -, h⟩ := Option.bind_eq_some_iff.mp h
  obtain ⟨time, htime, h⟩ := Option.bind_eq_some_iff.mp h
  cases h
  have hrange : Fields.InRange
      { year := some year, month := some month, day := some day, hour := some hour,
        minute := some minute, second := some second, nanosecond := some nanosecond } :=
    ⟨by simp; omega, by simp; omega, by simp; omega, by simpa using hnanosecond⟩
  exact ⟨hrange.isTime htime, takeOffset_isOffset hoffset⟩

/-- A moment by a pattern is in universal time. -/
theorem isProper_of_readMoment? {pattern : List Part} {text : List Char} {moment : Moment}
    (h : readMoment? pattern text = some moment) : moment.IsProper := by
  obtain ⟨fields, hfields, h⟩ := Option.bind_eq_some_iff.mp h
  obtain ⟨date, -, h⟩ := Option.bind_eq_some_iff.mp h
  obtain ⟨time, htime, h⟩ := Option.bind_eq_some_iff.mp h
  cases h
  have hempty : Fields.InRange {} := ⟨by simp, by simp, by simp, by simp⟩
  have hrange := readFields_inRange hempty hfields
  exact ⟨hrange.isTime htime, Moment.isOffset_zero⟩

end Calendar

namespace Moment

open Calendar

/-- The start of a day is proper. -/
theorem isProper_ofDate (date : Date) : (ofDate date).IsProper :=
  ⟨TimeOfDay.isTime_midnight, isOffset_zero⟩

/-- A moment that has been read has a time on a clock and an offset of whole minutes. -/
theorem isProper_of_read? {text : List Char} {moment : Moment} (h : read? text = some moment) :
    moment.IsProper := by
  rw [read?, Option.or_eq_some_iff, Option.or_eq_some_iff] at h
  obtain hstrict | ⟨-, hpattern | ⟨-, hdate⟩⟩ := h
  · exact isProper_of_strictMoment? hstrict
  · obtain ⟨pattern, -, hmoment⟩ := List.exists_of_findSome?_eq_some hpattern
    exact isProper_of_readMoment? hmoment
  · obtain ⟨date, -, rfl⟩ := Option.map_eq_some_iff.mp hdate
    exact isProper_ofDate date

end Moment

end DocumentMapping
