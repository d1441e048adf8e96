import DocumentMapping.Proofs.Calendar.Properness
import DocumentMapping.Proofs.Coercion.Basic
import DocumentMapping.Proofs.Format.Segments

/-!
# Formatted dates and moments are read back

The short formats and the picture of a date with hyphens write texts that are converted back to the
date. The full form of a moment is converted back to the moment with its offset, and its form
without an offset to its date.
-/

namespace DocumentMapping

/-! ## Templates of one placeholder -/

open Format in
/-- A template of nothing but a placeholder gives the written value. -/
theorem Scalar.format_placeholder {value : Scalar} {template : String} {spec : Option (List Char)}
    {text : List Char}
    (htemplate : template.toList = '\x7b' :: '0' :: (specChars spec ++ ['\x7d']))
    (isUnbraced : ∀ text ∈ spec, ∀ c ∈ text, isBrace c = false)
    (hwritten : valueChars value (spec.getD []) = .ok text) :
    value.format template = .ok (String.ofList text) := by
  have hsegment : template = Segment.template [.placeholder none spec isUnbraced] := by
    rw [← String.ofList_toList (s := template), htemplate]
    simp [Segment.template, Segment.chars, WrittenPlaceholder.chars, Segment.written,
      WrittenAlignment.chars]
  have hscan := scans_iff.mp (Segment.scans_template [.placeholder none spec isUnbraced])
  have hrender : (Segment.placeholder none spec isUnbraced).render value = .ok text := hwritten
  rw [format, renderTemplate, hsegment, hscan, Segment.renderPieces_flatMap, List.mapM_cons,
    hrender]
  simp [Except.map, Except.mapError, bind, Except.bind, pure, Except.pure]

namespace Format

/-! ## Written forms -/

/-- The parts of the picture of a date with hyphens. -/
theorem pictureParts_isoDate :
    pictureParts ['y', 'y', 'y', 'y', '-', 'M', 'M', '-', 'd', 'd'] =
      [.run 'y' 4, .run '-' 1, .run 'M' 2, .run '-' 1, .run 'd' 2] := by
  simp [pictureParts]

/-- In a year of four digits the picture of a date with hyphens is the date as it is written. -/
theorem momentChars_isoDate {fields : Fields} (hlower : 0 ≤ fields.date.year)
    (hupper : fields.date.year ≤ 9999) :
    momentChars fields ['y', 'y', 'y', 'y', '-', 'M', 'M', '-', 'd', 'd'] = fields.date.chars := by
  have hyear : Date.yearChars fields.date.year = paddedNat 4 fields.date.year.natAbs :=
    if_pos ⟨hlower, hupper⟩
  have hsigned : paddedInt 4 fields.date.year = paddedNat 4 fields.date.year.natAbs :=
    if_neg (Int.not_lt.mpr hlower)
  simp [momentChars, pictureParts_isoDate, PicturePart.chars, runChars, hsigned, Date.chars, hyear]

end Format

/-! ## Reading back -/

namespace Scalar

open Format

/-- A value written by a template is converted back: its text is converted to the result. -/
def ReadsBack (value : Scalar) (template : String) (target : SourceType) (result : Scalar) : Prop :=
  ∃ text, value.format template = .ok text ∧ (string text).coerce target = .ok result

/-- A placeholder whose text is visible and denotes the result. -/
theorem readsBack_placeholder {value result : Scalar} {target : SourceType} {template : String}
    {text : List Char} (spec : Option (List Char))
    (htemplate : template.toList = '\x7b' :: '0' :: (specChars spec ++ ['\x7d']))
    (isUnbraced : ∀ text ∈ spec, ∀ c ∈ text, isBrace c = false) (htarget : target ≠ .string)
    (hwritten : valueChars value (spec.getD []) = .ok text) (hvisible : Text.AllVisible text)
    (hread : ofText? text target = some result) : value.ReadsBack template target result := by
  refine ⟨String.ofList text, format_placeholder htemplate isUnbraced hwritten, ?_⟩
  rwa [coerce_string_eq_ok_iff htarget, String.toList_ofList, hvisible.trimChars_eq]

/-- The templates that write a date in a form that is converted back to it. -/
def dateTemplates : List String :=
  ["\x7b0\x7d", "\x7b0:d\x7d", "\x7b0:s\x7d", "\x7b0:o\x7d", "\x7b0:yyyy-MM-dd\x7d"]

/-- The templates that write a moment in full. -/
def momentTemplates : List String :=
  ["\x7b0\x7d", "\x7b0:o\x7d"]

theorem readsBack_date {day : Date} (hlower : 0 ≤ day.year) (hupper : day.year ≤ 9999)
    {template : String} (htemplate : template ∈ dateTemplates) :
    (date day).ReadsBack template .date (.date day) := by
  have hread {text : List Char} (h : Date.read? text = some day) :
      ofText? text .date = some (.date day) := by
    rw [ofText?, h, Option.map_some]
  have hmidnight := Moment.isProper_ofDate day
  simp only [dateTemplates, List.mem_cons, List.not_mem_nil, or_false] at htemplate
  obtain rfl | rfl | rfl | rfl | rfl := htemplate
  · exact readsBack_placeholder none rfl (by simp) (by decide) rfl day.allVisible_chars
      (hread day.read?_chars)
  · have hvisible : Text.AllVisible (paddedNat 2 day.month ++ '/' :: paddedNat 2 day.day ++
        '/' :: Date.yearChars day.year) :=
      ((allVisible_paddedNat 2 _).append ((allVisible_paddedNat 2 _).cons (by decide))).append
        ((Date.allVisible_yearChars _).cons (by decide))
    exact readsBack_placeholder (some ['d']) rfl (by simp [isBrace]) (by decide) rfl hvisible
      (hread day.read?_slashChars)
  · have hvisible : Text.AllVisible (day.chars ++ 'T' :: TimeOfDay.midnight.chars) :=
      day.allVisible_chars.append ((TimeOfDay.allVisible_chars _).cons (by decide))
    exact readsBack_placeholder (some ['s']) rfl (by simp [isBrace]) (by decide) rfl hvisible
      (hread (Date.read?_append_time hlower hupper TimeOfDay.isTime_midnight))
  · exact readsBack_placeholder (some ['o']) rfl (by simp [isBrace]) (by decide) rfl
      (Moment.ofDate day).allVisible_chars (hread (Date.read?_momentChars hmidnight hlower hupper))
  · have hwritten : valueChars (date day) ['y', 'y', 'y', 'y', '-', 'M', 'M', '-', 'd', 'd'] =
        .ok day.chars := by
      rw [valueChars, momentChars_isoDate hlower hupper]
      rfl
    exact readsBack_placeholder (some ['y', 'y', 'y', 'y', '-', 'M', 'M', '-', 'd', 'd']) rfl
      (by simp [isBrace]) (by decide) hwritten day.allVisible_chars (hread day.read?_chars)

section

variable {instant : Moment}

theorem readsBack_moment (h : instant.IsProper) (hlower : 0 ≤ instant.date.year)
    (hupper : instant.date.year ≤ 9999) {template : String}
    (htemplate : template ∈ momentTemplates) :
    (moment instant).ReadsBack template .moment (.moment instant) := by
  have hread : ofText? instant.chars .moment = some (.moment instant) := by
    rw [ofText?, Moment.read?_chars h hlower hupper, Option.map_some]
  simp only [momentTemplates, List.mem_cons, List.not_mem_nil, or_false] at htemplate
  obtain rfl | rfl := htemplate
  · exact readsBack_placeholder none rfl (by simp) (by decide) rfl instant.allVisible_chars hread
  · exact readsBack_placeholder (some ['o']) rfl (by simp [isBrace]) (by decide) rfl
      instant.allVisible_chars hread

/-- Without its offset a moment is converted back to its date. -/
theorem readsBack_localDate (h : instant.IsProper) (hlower : 0 ≤ instant.date.year)
    (hupper : instant.date.year ≤ 9999) :
    (moment instant).ReadsBack "\x7b0:s\x7d" .date (.date instant.date) := by
  have hvisible : Text.AllVisible (instant.date.chars ++ 'T' :: instant.time.chars) :=
    instant.date.allVisible_chars.append (instant.time.allVisible_chars.cons (by decide))
  have hread : ofText? (instant.date.chars ++ 'T' :: instant.time.chars) .date =
      some (.date instant.date) := by
    rw [ofText?, Date.read?_append_time hlower hupper h.isTime, Option.map_some]
  exact readsBack_placeholder (some ['s']) rfl (by simp [isBrace]) (by decide) rfl hvisible hread

end

end Scalar

open Scalar in
/-- Formatted dates and moments are read back. A date in a year of four digits that is written by
one of the templates for dates is converted back to that date. A moment whose local year has four
digits, at an offset of whole minutes, is converted back with its offset when it is written in
full, and to its local date when it is written without an offset. -/
theorem formatted_moments_read_back :
    (∀ date : Date, 0 ≤ date.year → date.year ≤ 9999 → ∀ template ∈ dateTemplates,
      (Scalar.date date).ReadsBack template .date (.date date)) ∧
    ∀ moment : Moment, moment.IsProper → 0 ≤ moment.date.year → moment.date.year ≤ 9999 →
      (∀ template ∈ momentTemplates,
        (Scalar.moment moment).ReadsBack template .moment (.moment moment)) ∧
      (Scalar.moment moment).ReadsBack "\x7b0:s\x7d" .date (.date moment.date) := by
  constructor
  · intro date hlower hupper template htemplate
    exact readsBack_date hlower hupper htemplate
  · intro moment h hlower hupper
    constructor
    · intro template htemplate
      exact readsBack_moment h hlower hupper htemplate
    · exact readsBack_localDate h hlower hupper

/-- The leap day of year zero with slashes, and a leap second at an offset to the west. -/
theorem formatted_moments_read_back_of_leaps :
    (Scalar.date ⟨0, 2, 29, by decide⟩).ReadsBack "\x7b0:d\x7d" .date
      (.date ⟨0, 2, 29, by decide⟩) ∧
    (Scalar.moment ⟨⟨2016, 12, 31, by decide⟩, ⟨23, 59, 59, 1500000000⟩, -1800⟩).ReadsBack
      "\x7b0:o\x7d" .moment
      (.moment ⟨⟨2016, 12, 31, by decide⟩, ⟨23, 59, 59, 1500000000⟩, -1800⟩) := by
  constructor
  · exact formatted_moments_read_back.1 ⟨0, 2, 29, by decide⟩ (by decide) (by decide) _
      (by simp [Scalar.dateTemplates])
  · have hproper : Moment.IsProper
        ⟨⟨2016, 12, 31, by decide⟩, ⟨23, 59, 59, 1500000000⟩, -1800⟩ :=
      ⟨⟨by decide, by decide, by decide, .inr (by decide)⟩, ⟨by decide, by decide⟩⟩
    exact (formatted_moments_read_back.2 _ hproper (by decide) (by decide)).1 _
      (by simp [Scalar.momentTemplates])

end DocumentMapping
