import DocumentMapping.Expression.Call
import DocumentMapping.Proofs.Coercion.Basic
import DocumentMapping.Proofs.Expression.IntegerArithmetic
import DocumentMapping.Proofs.Number.DecimalReading

/-!
# From texts to integers

A text is converted to an integer directly or by way of a decimal. Whatever text the direct way
reads is read as a decimal of the same value, so both ways give the same integers. The functions
`number` and `integer` of expressions agree with them.
-/

namespace DocumentMapping

/-! ## Texts of integers -/

/-- A text that is read as an integer is a sign and digits, which are read as a decimal. -/
theorem exists_digits_of_readInt64? {text : List Char} {value : Int64}
    (h : readInt64? text = some value) :
    ∃ negative digits, isDigits digits = true ∧
      value.toInt = (if negative then -(digitsValue digits : Int) else digitsValue digits) ∧
      Decimal.ofPositional? text = Decimal.readDigits negative ⟨0, none, false⟩ digits := by
  unfold readInt64? at h
  split at h
  rename_i negative digits hsign
  by_cases hdigits : isDigits digits = true
  · simp only [hdigits, Bool.not_true, Bool.false_eq_true, if_false] at h
    have hvalue := Expression.toInt_of_int64? h
    refine ⟨negative, digits, hdigits, hvalue, ?_⟩
    split at hsign
    · cases hsign
      rfl
    · cases hsign
      rfl
    · cases hsign
      have hread := Decimal.ofPositional?_signChars false hdigits []
      rwa [List.append_nil, List.append_nil] at hread
  · simp [hdigits] at h

/-- A text that is read as an integer is read as a decimal of that value. -/
theorem read?_of_readInt64? {text : List Char} {value : Int64}
    (h : readInt64? text = some value) :
    ∃ x, Decimal.read? text = some x ∧ x.IsWhole value.toInt := by
  obtain ⟨negative, digits, hdigits, hvalue, hread⟩ := exists_digits_of_readInt64? h
  obtain ⟨hne, hall⟩ := isDigits_iff.mp hdigits
  have hlower := value.le_toInt
  have hupper := value.toInt_lt
  have hmagnitude : value.toInt.natAbs = digitsValue digits := by
    rw [hvalue]
    cases negative <;> simp
  have hfits : digitsValue digits < 2 ^ 96 := by omega
  have hfinish : Decimal.readDigits negative ⟨0, none, false⟩ digits =
      Decimal.ofParts? (negative && digitsValue digits != 0) (digitsValue digits) 0 := by
    rw [← List.append_nil digits, Decimal.readDigits_whole hall [] false (Nat.two_pow_pos 96),
      Nat.zero_mul, Nat.zero_add, if_pos hfits, Decimal.readDigits, if_pos (by simpa using hne)]
    simp [Decimal.Reading.finish]
  obtain ⟨x, hx, hwhole⟩ :=
    Decimal.ofParts?_isWhole (negative && digitsValue digits != 0) hfits
  refine ⟨x, by rw [Decimal.read?, hread, hfinish, hx, Option.some_or], ?_⟩
  have hsigned : (if (negative && digitsValue digits != 0) = true then
      -(digitsValue digits : Int) else digitsValue digits) = value.toInt := by
    rw [hvalue]
    by_cases hzero : digitsValue digits = 0
    · simp [hzero]
    · simp [hzero]
  rwa [hsigned] at hwhole

/-- A decimal that stands for an integer of 64 bits is converted to it, whatever its places. -/
theorem integralInt64?_of_value {x : Decimal} {value : Int64} (h : x.value = value.toInt) :
    Scalar.integralInt64? x = some value := by
  have hpow : 0 < 10 ^ x.scale := Nat.pow_pos (by decide)
  have hsigned : x.signed = value.toInt * 10 ^ x.scale := by
    rw [Decimal.value_eq_signed, div_eq_iff (by positivity)] at h
    exact_mod_cast h
  have hmantissa : x.mantissa = value.toInt.natAbs * 10 ^ x.scale := by
    rw [← x.natAbs_signed, hsigned, Int.natAbs_mul, Int.natAbs_pow]
    rfl
  have hintegral : x.isIntegral = true := by
    simp [Decimal.isIntegral, hmantissa]
  have hpart : x.wholePart = value.toInt.natAbs := by
    rw [Decimal.wholePart, hmantissa, Nat.mul_div_cancel _ hpow]
  have hwhole : (if x.negative then -(x.wholePart : Int) else x.wholePart) = value.toInt := by
    refine mul_right_cancel₀ (by positivity : (10 : Int) ^ x.scale ≠ 0) ?_
    rw [← hsigned, Decimal.signed, hmantissa, hpart]
    push_cast
    split <;> ring
  rw [Scalar.integralInt64?, if_pos hintegral, Decimal.toInt64?, hwhole,
    if_pos ⟨value.le_toInt, value.toInt_lt⟩, Int64.ofInt_toInt]

/-- A decimal is converted to the integer of 64 bits that it stands for. -/
theorem integralInt64?_eq_some_iff {x : Decimal} {value : Int64} :
    Scalar.integralInt64? x = some value ↔ x.value = value.toInt := by
  refine ⟨fun h => ?_, integralInt64?_of_value⟩
  unfold Scalar.integralInt64? at h
  split at h
  · rename_i hintegral
    have hwhole : Scalar.int64? (if x.negative then -(x.wholePart : Int) else x.wholePart) =
        some value := h
    have hmantissa : x.mantissa = x.wholePart * 10 ^ x.scale :=
      (Nat.div_mul_cancel (Nat.dvd_of_mod_eq_zero (beq_iff_eq.mp hintegral))).symm
    rw [Expression.toInt_of_int64? hwhole, Decimal.value, hmantissa]
    push_cast
    rw [← mul_assoc, mul_div_cancel_right₀ _ (by positivity)]
    split <;> simp
  · cases h

/-- The integer that a text denotes is that of its decimal. -/
theorem integerOfText?_eq (text : List Char) :
    Scalar.integerOfText? text = (Decimal.read? text).bind Scalar.integralInt64? := by
  unfold Scalar.integerOfText?
  cases hread : readInt64? text with
  | none => rw [Option.none_or]
  | some value =>
    obtain ⟨x, hx, hwhole⟩ := read?_of_readInt64? hread
    rw [Option.some_or, hx, Option.bind_some, integralInt64?_of_value hwhole.value_eq]

/-- The number that a text denotes in an expression is that of its decimal. -/
theorem numeric_read?_eq (text : List Char) :
    (Expression.Numeric.read? text).map (·.value) = (Decimal.read? text).map (·.value) := by
  unfold Expression.Numeric.read?
  cases hread : readInt64? text with
  | none =>
    cases Decimal.read? text <;> rfl
  | some value =>
    obtain ⟨x, hx, hwhole⟩ := read?_of_readInt64? hread
    rw [hx]
    exact congrArg some hwhole.value_eq.symm

/-! ## Conversions -/

namespace Scalar

theorem coerce_string_integer {text : String} {value : Int64} :
    (string text).coerce .integer = .ok (.integer value) ↔
      integerOfText? (Text.trimChars text.toList) = some value := by
  simp [coerce_string_eq_ok_iff, ofText?]

theorem coerce_string_decimal {text : String} {x : Decimal} :
    (string text).coerce .decimal = .ok (.decimal x) ↔
      Decimal.read? (Text.trimChars text.toList) = some x := by
  simp [coerce_string_eq_ok_iff, ofText?]

theorem coerce_decimal_integer {x : Decimal} {value : Int64} :
    (decimal x).coerce .integer = .ok (.integer value) ↔ integralInt64? x = some value := by
  rw [coerce_eq_ok_iff]
  simp [coerce?, convert?, toInteger?]

end Scalar

namespace Expression

/-- What `number` gives for a text: the number that the text denotes. -/
theorem call_number_text (text : String) (cache : Cache) :
    (Function.number.call [ofText text] cache).1 =
      (Numeric.read? (Text.trimChars text.toList)).elim
        (.error (.function .number (.textToNumber text))) fun number =>
          .ok (ofNumeric number) := by
  show (numberCall [ofText text]).mapError (Fault.function .number) = _
  have hnumber : numberCall [ofText text] =
      (toNumber (.string text)).bind fun number =>
        number.elim (.ok .placeholder) fun number => .ok (ofNumeric number) := by
    refine congrArg (Except.bind (toNumber (.string text))) (funext fun number => ?_)
    cases number <;> rfl
  rw [hnumber, toNumber]
  cases Numeric.read? (Text.trimChars text.toList) <;> rfl

/-- The number of a text that denotes an integer of 64 bits is that integer when it is cut off. -/
theorem exists_read?_of_integerOfText? {text : List Char} {value : Int64}
    (h : Scalar.integerOfText? text = some value) :
    ∃ number, Numeric.read? text = some number ∧
      toInteger number = .ok (.scalar (.integer value)) := by
  unfold Scalar.integerOfText? at h
  unfold Numeric.read?
  cases hread : readInt64? text with
  | some direct =>
    rw [hread, Option.some_or] at h
    cases h
    exact ⟨.integer value, rfl, rfl⟩
  | none =>
    rw [hread, Option.none_or] at h
    obtain ⟨x, hx, hintegral⟩ := Option.bind_eq_some_iff.mp h
    have hwhole : x.toInt64? = some value := by
      unfold Scalar.integralInt64? at hintegral
      split at hintegral
      · exact hintegral
      · cases hintegral
    refine ⟨.decimal x, by rw [hx, Option.map_some], ?_⟩
    rw [toInteger, hwhole]

/-- What `integer` gives for a text that denotes an integer of 64 bits. -/
theorem call_integer_text {text : String} {value : Int64}
    (h : Scalar.integerOfText? (Text.trimChars text.toList) = some value) (cache : Cache) :
    Function.integer.call [ofText text] cache = (.ok (.scalar (.integer value)), cache) := by
  obtain ⟨number, hnumber, hinteger⟩ := exists_read?_of_integerOfText? h
  have hconverted : toNumber (.string text) = .ok (some number) := by
    rw [toNumber, hnumber]
  have hcall : integerCall [ofText text] =
      ((toNumber (.string text)).mapError .forInteger).bind fun number =>
        number.elim (.ok .placeholder) toInteger := by
    refine congrArg (Except.bind ((toNumber (.string text)).mapError FunctionProblem.forInteger))
      (funext fun number => ?_)
    cases number <;> rfl
  show ((integerCall [ofText text]).mapError (Fault.function .integer), cache) = _
  rw [hcall, hconverted]
  show ((toInteger number).mapError (Fault.function .integer), cache) = _
  rw [hinteger]
  rfl

end Expression

open Expression Scalar in
/-- Two ways from texts to integers agree. A text is converted to an integer exactly when the
decimal that it is converted to is converted to that integer. The function `number` gives a number
for a text exactly when the text is converted to a decimal, and then one of the same value, and the
function `integer` gives the integer of every text that is converted to one. -/
theorem two_ways_to_integers_agree (text : String) (cache : Cache) :
    (∀ value, (string text).coerce .integer = .ok (.integer value) ↔
      ∃ x, (string text).coerce .decimal = .ok (.decimal x) ∧
        (decimal x).coerce .integer = .ok (.integer value)) ∧
    ((∃ node, (Function.number.call [ofText text] cache).1 = .ok node) ↔
      ∃ x, (string text).coerce .decimal = .ok (.decimal x)) ∧
    (∀ node x, (Function.number.call [ofText text] cache).1 = .ok node →
      (string text).coerce .decimal = .ok (.decimal x) →
        ∃ number, node = ofNumeric number ∧ number.value = x.value) ∧
    ∀ value, (string text).coerce .integer = .ok (.integer value) →
      Function.integer.call [ofText text] cache = (.ok (.scalar (.integer value)), cache) := by
  have hvalues := numeric_read?_eq (Text.trimChars text.toList)
  refine ⟨fun value => ?_, ?_, fun node x hnode hx => ?_, fun value hvalue => ?_⟩
  · rw [coerce_string_integer, integerOfText?_eq, Option.bind_eq_some_iff]
    simp only [coerce_string_decimal, coerce_decimal_integer]
  · simp only [call_number_text, coerce_string_decimal]
    cases hnumber : Numeric.read? (Text.trimChars text.toList) <;>
      cases hdecimal : Decimal.read? (Text.trimChars text.toList) <;>
      simp [hnumber, hdecimal] at hvalues ⊢
  · rw [coerce_string_decimal] at hx
    rw [call_number_text] at hnode
    cases hnumber : Numeric.read? (Text.trimChars text.toList) with
    | none => simp [hnumber] at hnode
    | some number =>
      rw [hnumber, hx] at hvalues
      rw [hnumber] at hnode
      cases hnode
      exact ⟨number, rfl, Option.some.inj hvalues⟩
  · exact call_integer_text (coerce_string_integer.mp hvalue) cache

end DocumentMapping
