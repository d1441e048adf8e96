import DocumentMapping.Mapping.Formatting

/-!
# Conversions of texts

A text that is converted to another type is trimmed and read in the notations of that type.
-/

namespace DocumentMapping.Scalar

theorem coerce_eq_ok_iff {value result : Scalar} {target : SourceType} :
    value.coerce target = .ok result ↔ value.coerce? target = some result := by
  unfold coerce
  cases value.coerce? target <;> simp

/-- The value of a type that a text denotes without white space around it. -/
def ofText? (text : List Char) : SourceType → Option Scalar
  | .string => some (.string (String.ofList text))
  | .integer => (integerOfText? text).map .integer
  | .decimal => (Decimal.read? text).map .decimal
  | .boolean => (booleanOfText? text).map .boolean
  | .date => (Date.read? text).map .date
  | .moment => (Moment.read? text).map .moment
  | .guid => (Guid.read? text).map .guid
  | .uri => (Uri.read? text).map .uri

/-- A text is converted to the value that it denotes when it is trimmed. -/
theorem coerce?_string {target : SourceType} (htarget : target ≠ .string) (text : String) :
    (string text).coerce? target = ofText? (Text.trimChars text.toList) target := by
  rw [coerce?, if_neg (by simp)]
  cases target with
  | string => exact absurd rfl htarget
  | integer => rfl
  | decimal => rfl
  | boolean => rfl
  | date => rfl
  | moment => rfl
  | guid => rfl
  | uri => rfl

theorem coerce_string_eq_ok_iff {target : SourceType} (htarget : target ≠ .string) {text : String}
    {result : Scalar} :
    (string text).coerce target = .ok result ↔
      ofText? (Text.trimChars text.toList) target = some result := by
  rw [coerce_eq_ok_iff, coerce?_string htarget]

end DocumentMapping.Scalar
