import DocumentMapping.Proofs.Calendar.Properness
import DocumentMapping.Proofs.Coercion.Basic
import DocumentMapping.Proofs.Coercion.Identifiers
import DocumentMapping.Proofs.Format.Segments
import DocumentMapping.Proofs.Number.DecimalRange
import DocumentMapping.Proofs.Uri.Ascii

/-!
# Converted values and their texts

A converted value is converted to itself, and its text is converted back to it. Two things are lost:
a decimal zero its sign, and a moment everything when its year is not one of four digits, since the
form with an offset knows no sign in front of a year.
-/

namespace DocumentMapping

/-! ## Numbers -/

theorem allVisible_signChars (negative : Bool) : Text.AllVisible (Double.signChars negative) := by
  cases negative with
  | true => exact .cons (by decide) .nil
  | false => exact .nil

/-- A written integer is read back. -/
theorem integerOfText?_integerChars (value : Int64) :
    Scalar.integerOfText? (Json.integerChars value.toInt) = some value := by
  have hsigned : value.toInt =
      Format.signedValue (decide (value.toInt < 0)) (digitChars value.toInt.natAbs) :=
    (Format.FieldAlignment.ofInt64 value).value_eq
  have hread : readInt64? (Json.integerChars value.toInt) = some value :=
    Format.readInt64?_minusChars (isDigits_digitChars _) hsigned
  rw [Scalar.integerOfText?, hread, Option.some_or]

theorem allVisible_integerChars (value : Int) : Text.AllVisible (Json.integerChars value) :=
  (allVisible_signChars _).append (.of_digits fun _ hc => isDigit_of_mem_digitChars hc)

namespace Decimal

/-- A written decimal is read back with its places, a zero without its sign. -/
theorem read?_chars (x : Decimal) : read? x.chars = some x.unsignedZero := by
  rw [read?, ofPositional?_chars, Option.some_or]

theorem allVisible_chars (x : Decimal) : Text.AllVisible x.chars := by
  have hwhole : Text.AllVisible x.numeral.whole := .of_digits (isDigits_iff.mp x.numeral.isWhole).2
  have hplaces : Text.AllVisible x.numeral.places := .of_digits x.numeral.arePlaces
  have hpoint : Text.AllVisible
      (if x.numeral.places.isEmpty then [] else '.' :: x.numeral.places) := by
    split
    · exact .nil
    · exact hplaces.cons (by decide)
  exact ((allVisible_signChars _).append hwhole).append hpoint

end Decimal

namespace Scalar

/-! ## Types of values -/

/-- The type that a value has; nothing and wide numbers have none. -/
def type? : Scalar → Option SourceType
  | .null => none
  | .number _ => none
  | .boolean _ => some .boolean
  | .integer _ => some .integer
  | .decimal _ => some .decimal
  | .date _ => some .date
  | .moment _ => some .moment
  | .guid _ => some .guid
  | .uri _ => some .uri
  | .string _ => some .string

variable {value result : Scalar} {target : SourceType}

/-- A converted value has the type that was asked for. -/
theorem type?_of_convert? (h : value.convert? target = some result) :
    result.type? = some target := by
  cases target with
  | string =>
    cases h
    rfl
  | integer =>
    obtain ⟨_, -, rfl⟩ := Option.map_eq_some_iff.mp h
    rfl
  | decimal =>
    obtain ⟨_, -, rfl⟩ := Option.map_eq_some_iff.mp h
    rfl
  | boolean =>
    obtain ⟨_, -, rfl⟩ := Option.map_eq_some_iff.mp h
    rfl
  | date =>
    obtain ⟨_, -, rfl⟩ := Option.map_eq_some_iff.mp h
    rfl
  | moment =>
    obtain ⟨_, -, rfl⟩ := Option.map_eq_some_iff.mp h
    rfl
  | guid =>
    obtain ⟨_, -, rfl⟩ := Option.map_eq_some_iff.mp h
    rfl
  | uri =>
    obtain ⟨_, -, rfl⟩ := Option.map_eq_some_iff.mp h
    rfl

/-- A value of a type is converted to itself. -/
theorem coerce?_of_type? (h : value.type? = some target) : value.coerce? target = some value := by
  cases value with
  | null => cases h
  | number _ => cases h
  | boolean _ => cases h; rfl
  | integer _ => cases h; rfl
  | decimal _ => cases h; rfl
  | date _ => cases h; rfl
  | moment _ => cases h; rfl
  | guid _ => cases h; rfl
  | uri _ => cases h; rfl
  | string _ => cases h; rfl

/-- Conversion gives nothing for nothing, and a value of the type otherwise. -/
theorem coerce?_cases (h : value.coerce? target = some result) :
    value = .null ∧ result = .null ∨ value.convert? target = some result ∧ result ≠ .null ∧
      result.type? = some target := by
  unfold coerce? at h
  split at h
  · rename_i hnull
    cases h
    exact .inl ⟨hnull, rfl⟩
  · have htype := type?_of_convert? h
    refine .inr ⟨h, ?_, htype⟩
    rintro rfl
    cases htype

/-! ## Reading texts back -/

/-- A moment of a value is proper: it has a time on a clock and an offset of whole minutes. -/
def IsProper : Scalar → Prop
  | .moment value => value.IsProper
  | _ => True

theorem isProper_of_toMoment? (hvalue : value.IsProper) {instant : Moment}
    (h : value.toMoment? = some instant) : instant.IsProper := by
  unfold toMoment? at h
  split at h
  · cases h
    exact hvalue
  · cases h
    exact Moment.isProper_ofDate _
  · obtain ⟨text, -, hread⟩ := Option.bind_eq_some_iff.mp h
    exact Moment.isProper_of_read? hread

/-- Conversion gives proper moments. -/
theorem IsProper.convert (hvalue : value.IsProper) (h : value.convert? target = some result) :
    result.IsProper := by
  cases result with
  | moment instant =>
    cases type?_of_convert? h
    obtain ⟨_, hinstant, heq⟩ := Option.map_eq_some_iff.mp h
    cases heq
    exact isProper_of_toMoment? hvalue hinstant
  | _ => trivial

/-- The text of a value can be read: a moment is in a year of four digits, and an address is read
from its own canonical text. -/
def IsReadable : Scalar → Prop
  | .moment value => 0 ≤ value.date.year ∧ value.date.year ≤ 9999
  | .uri value => Uri.read? value.text.toList = some value
  | _ => True

theorem isReadable_uri {address : Uri} :
    (uri address).IsReadable ↔ Uri.read? address.text.toList = some address :=
  Iff.rfl

/-- The same value, a decimal zero without its sign. -/
def unsignedZero : Scalar → Scalar
  | .decimal value => .decimal value.unsignedZero
  | value => value

/-- A visible text is read as it is written. -/
theorem ofText?_written {text : List Char} (hvisible : Text.AllVisible text)
    (hread : ofText? text target = some result) :
    ofText? (Text.trimChars (String.ofList text).toList) target = some result := by
  rwa [String.toList_ofList, hvisible.trimChars_eq]

/-- The text of a value denotes it. -/
theorem ofText?_text (htype : value.type? = some target) (htarget : target ≠ .string)
    (hproper : value.IsProper) (hreadable : value.IsReadable) :
    ofText? (Text.trimChars value.text.toList) target = some value.unsignedZero := by
  cases value with
  | null => cases htype
  | number _ => cases htype
  | string _ =>
    cases htype
    exact absurd rfl htarget
  | boolean value =>
    cases htype
    have hboth : ∀ value : Bool, booleanOfText? (Text.trimChars
        (String.ofList (Json.booleanChars value)).toList) = some value := by
      decide +kernel
    show ofText? (Text.trimChars (String.ofList (Json.booleanChars value)).toList) .boolean = _
    rw [ofText?, hboth, Option.map_some]
    rfl
  | integer value =>
    cases htype
    apply ofText?_written (allVisible_integerChars value.toInt)
    rw [ofText?, integerOfText?_integerChars, Option.map_some]
    rfl
  | decimal value =>
    cases htype
    apply ofText?_written value.allVisible_chars
    rw [ofText?, value.read?_chars, Option.map_some]
    rfl
  | date value =>
    cases htype
    apply ofText?_written value.allVisible_chars
    rw [ofText?, value.read?_chars, Option.map_some]
    rfl
  | moment value =>
    cases htype
    apply ofText?_written value.allVisible_chars
    rw [ofText?, Moment.read?_chars hproper hreadable.1 hreadable.2, Option.map_some]
    rfl
  | guid value =>
    cases htype
    apply ofText?_written value.allVisible_chars
    rw [ofText?, value.read?_chars, Option.map_some]
    rfl
  | uri value =>
    obtain rfl : SourceType.uri = target := Option.some.inj htype
    -- the text of an address may hold what is not visible, so it is the reader that trims it
    have hlibrary := isReadable_uri.mp hreadable
    have htext : (uri value).text.toList = value.text.toList := by
      show (String.ofList value.text.toList).toList = value.text.toList
      rw [String.ofList_toList]
    have hread : Uri.read? (Text.trimChars value.text.toList) = some value := by
      rw [Uri.read?_trimChars (Uri.allAscii_text hlibrary), hlibrary]
    rw [htext, ofText?, hread, Option.map_some]
    rfl

/-- The text of a value that can be read is converted back to it. -/
theorem coerce_text (htype : value.type? = some target) (hproper : value.IsProper)
    (hreadable : value.IsReadable) :
    (string value.text).coerce target = .ok value.unsignedZero := by
  by_cases htarget : target = .string
  · subst htarget
    cases value with
    | string text => rfl
    | _ => cases htype
  · rw [coerce_string_eq_ok_iff htarget]
    exact ofText?_text htype htarget hproper hreadable

/-- The text of a moment in a year with a sign is not converted back. -/
theorem coerce_text_of_signed_year {instant : Moment} (hproper : instant.IsProper)
    (hyear : instant.date.year < 0 ∨ 9999 < instant.date.year) :
    (string (moment instant).text).coerce .moment =
      .error (.conversion (.string (moment instant).text) .moment) := by
  have hnone : (string (moment instant).text).coerce? .moment = none := by
    have htrim : Text.trimChars (moment instant).text.toList = instant.chars := by
      show Text.trimChars (String.ofList instant.chars).toList = instant.chars
      rw [String.toList_ofList, instant.allVisible_chars.trimChars_eq]
    rw [coerce?_string (by decide), htrim, ofText?, Moment.read?_chars_eq_none hproper hyear,
      Option.map_none]
  rw [coerce, hnone]

end Scalar

/-- Conversion is idempotent, and nothing is lost through texts but the sign of a zero, as long as
the text can be read. A converted value is converted to itself. If it is not nothing, its text is
converted back to it, a decimal with its places and a moment with its offset and fraction of a
second; for an address this rests on its canonical text being read as itself. The text of a moment
in a year with a sign is refused. -/
theorem conversion_through_text {value result : Scalar} {target : SourceType}
    (hproper : value.IsProper) (h : value.coerce target = .ok result) :
    result.coerce target = .ok result ∧
      (result ≠ .null →
        result.coerce .string = .ok (.string result.text) ∧
        (result.IsReadable →
          (Scalar.string result.text).coerce target = .ok result.unsignedZero) ∧
        ∀ moment : Moment, result = .moment moment →
          moment.date.year < 0 ∨ 9999 < moment.date.year →
            (Scalar.string result.text).coerce target =
              .error (.conversion (.string result.text) target)) := by
  obtain ⟨-, rfl⟩ | ⟨hconvert, hnull, htype⟩ :=
    Scalar.coerce?_cases (Scalar.coerce_eq_ok_iff.mp h)
  · exact ⟨rfl, fun hne => absurd rfl hne⟩
  · have hresult := hproper.convert hconvert
    refine ⟨Scalar.coerce_eq_ok_iff.mpr (Scalar.coerce?_of_type? htype), fun _ => ⟨?_, ?_, ?_⟩⟩
    · rw [Scalar.coerce_eq_ok_iff, Scalar.coerce?, if_neg hnull]
      rfl
    · exact Scalar.coerce_text htype hresult
    · rintro moment rfl hyear
      cases htype
      exact Scalar.coerce_text_of_signed_year hresult hyear

/-- A leap second at an offset to the west, and an address that is written in lower case. -/
theorem conversion_through_text_of_leap_second :
    (Scalar.string "2016-12-31T23:59:60.500-00:30").coerce .moment =
        .ok (.moment ⟨⟨2016, 12, 31, by decide⟩, ⟨23, 59, 59, 1500000000⟩, -1800⟩) ∧
      (Scalar.string "urn:isbn:12 b").coerce .uri = .ok (.uri ⟨"urn:isbn:12 b"⟩) := by
  constructor
  · have h : (Scalar.string "2016-12-31 23:59:60.5-00:30 ").coerce .moment =
        .ok (.moment ⟨⟨2016, 12, 31, by decide⟩, ⟨23, 59, 59, 1500000000⟩, -1800⟩) := by
      rw [Scalar.coerce_eq_ok_iff]
      decide +kernel
    have hproper : (Scalar.string "2016-12-31 23:59:60.5-00:30 ").IsProper := trivial
    exact ((conversion_through_text hproper h).2 (by simp)).2.1 ⟨by decide, by decide⟩
  · have h : (Scalar.string "URN:isbn:12 b").coerce .uri = .ok (.uri ⟨"urn:isbn:12 b"⟩) := by
      rw [Scalar.coerce_eq_ok_iff]
      decide +kernel
    have hproper : (Scalar.string "URN:isbn:12 b").IsProper := trivial
    have hreadable : (Scalar.uri ⟨"urn:isbn:12 b"⟩).IsReadable := by
      rw [Scalar.isReadable_uri]
      decide +kernel
    exact ((conversion_through_text hproper h).2 (by simp)).2.1 hreadable

/-- The first day of the year 12345 is converted to a moment, whose text is not converted back. -/
theorem moment_of_signed_year_is_lost :
    (Scalar.string "+12345-01-01").coerce .moment =
        .ok (.moment ⟨⟨12345, 1, 1, by decide⟩, .midnight, 0⟩) ∧
      (Scalar.moment ⟨⟨12345, 1, 1, by decide⟩, .midnight, 0⟩).coerce .string =
        .ok (.string "+12345-01-01T00:00:00+00:00") ∧
      (Scalar.string "+12345-01-01T00:00:00+00:00").coerce .moment =
        .error (.conversion (.string "+12345-01-01T00:00:00+00:00") .moment) := by
  have hread : (Scalar.string "+12345-01-01").coerce? .moment =
      some (.moment ⟨⟨12345, 1, 1, by decide⟩, .midnight, 0⟩) := by
    decide +kernel
  have htext : (Scalar.moment ⟨⟨12345, 1, 1, by decide⟩, .midnight, 0⟩).text =
      "+12345-01-01T00:00:00+00:00" := by
    decide +kernel
  have hrefused := Scalar.coerce_text_of_signed_year
    (Moment.isProper_ofDate ⟨12345, 1, 1, by decide⟩) (.inr (by decide))
  refine ⟨Scalar.coerce_eq_ok_iff.mpr hread, ?_, ?_⟩
  · rw [Scalar.coerce_eq_ok_iff, ← htext]
    rfl
  · rw [← htext]
    exact hrefused

end DocumentMapping
