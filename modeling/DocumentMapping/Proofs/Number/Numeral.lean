import Mathlib.Algebra.Order.Field.Basic
import DocumentMapping.Proofs.Number.Digits
import DocumentMapping.Proofs.Number.Shortest
import DocumentMapping.Number.DecimalText

/-!
# Numbers in decimal notation

A number is written with digits around a point, and with a power of ten where that is shorter. The
text of a decimal and both texts of a double are in this notation, and they denote what they are
written for.
-/

namespace DocumentMapping

/-- A number in decimal notation; without a power of ten the notation is positional. -/
structure Numeral where
  negative : Bool
  whole : List Char
  places : List Char
  power : Option Int
  isWhole : isDigits whole = true
  arePlaces : ∀ c ∈ places, c.isDigit = true

namespace Numeral

/-- The sign and the digits of a number. -/
def mainChars (n : Numeral) : List Char :=
  Double.signChars n.negative ++ n.whole ++ if n.places.isEmpty then [] else '.' :: n.places

/-- A power of ten, which always has its sign. -/
def powerChars : Option Int → List Char
  | none => []
  | some power => 'e' :: (if power < 0 then '-' else '+') :: digitChars power.natAbs

/-- The text of a number. -/
def chars (n : Numeral) : List Char :=
  n.mainChars ++ powerChars n.power

/-- The number that the digits write without sign, point and power. -/
def digits (n : Numeral) : Nat :=
  digitsValue (n.whole ++ n.places)

/-- The number that is meant. -/
def value (n : Numeral) : ℚ :=
  (if n.negative then -1 else 1) * n.digits * 10 ^ (n.power.getD 0 - n.places.length)

end Numeral

/-- The sign of a number does not change its magnitude. -/
theorem abs_sign_mul (negative : Bool) {q : ℚ} (h : 0 ≤ q) :
    |(if negative then -1 else 1) * q| = q := by
  split
  · rw [neg_one_mul, abs_neg, abs_of_nonneg h]
  · rw [one_mul, abs_of_nonneg h]

/-- A positive magnitude has different values under different signs. -/
theorem sign_eq_of_mul_eq {first second : Bool} {q : ℚ} (hq : 0 < q)
    (h : (if first then -1 else 1) * q = (if second then -1 else 1) * q) : first = second := by
  have hsign := mul_right_cancel₀ hq.ne' h
  cases first <;> cases second
  · rfl
  · norm_num at hsign
  · norm_num at hsign
  · rfl

/-- A text denotes a number in decimal notation. -/
def Denotes (text : List Char) (number : ℚ) : Prop :=
  ∃ n : Numeral, n.chars = text ∧ n.value = number

/-- The number that a decimal stands for. -/
def Decimal.value (x : Decimal) : ℚ :=
  (if x.negative then -1 else 1) * x.mantissa / 10 ^ x.scale

theorem Decimal.value_eq_signed (x : Decimal) : x.value = (x.signed : ℚ) / 10 ^ x.scale := by
  unfold Decimal.value Decimal.signed
  split <;> simp

theorem Decimal.sameValue_iff {x y : Decimal} : x.sameValue y = true ↔ x.value = y.value := by
  rw [value_eq_signed, value_eq_signed, div_eq_div_iff (by positivity) (by positivity),
    Decimal.sameValue, beq_iff_eq]
  exact_mod_cast Iff.rfl

/-! ## Decimals -/

namespace Decimal

theorem abs_value (x : Decimal) : |x.value| = x.mantissa / 10 ^ x.scale := by
  rw [value, mul_div_assoc]
  exact abs_sign_mul _ (by positivity)

theorem abs_value_lt (x : Decimal) : |x.value| < 2 ^ 96 := by
  have hmantissa : (x.mantissa : ℚ) < 2 ^ 96 := by exact_mod_cast x.mantissa_lt
  have hscale : (1 : ℚ) ≤ 10 ^ x.scale := one_le_pow₀ (by norm_num)
  rw [abs_value]
  exact (div_le_self (Nat.cast_nonneg _) hscale).trans_lt hmantissa

theorem length_paddedDigits (x : Decimal) : x.scale < x.paddedDigits.length := by
  rw [paddedDigits, List.length_append, List.length_replicate]
  omega

theorem isDigit_of_mem_paddedDigits {x : Decimal} {c : Char} (h : c ∈ x.paddedDigits) :
    c.isDigit = true := by
  rcases List.mem_append.mp h with hzero | hdigit
  · rw [List.eq_of_mem_replicate hzero]
    decide
  · exact isDigit_of_mem_digitChars hdigit

theorem digitsValue_paddedDigits (x : Decimal) : digitsValue x.paddedDigits = x.mantissa := by
  rw [paddedDigits, digitsValue_append, digitsValue_replicate_zero, Nat.zero_mul, Nat.zero_add,
    digitsValue_digitChars]

/-- The notation of a decimal. -/
def numeral (x : Decimal) : Numeral where
  negative := x.negative
  whole := x.paddedDigits.take (x.paddedDigits.length - x.scale)
  places := x.paddedDigits.drop (x.paddedDigits.length - x.scale)
  power := none
  isWhole := by
    have hlength := x.length_paddedDigits
    refine isDigits_iff.mpr ⟨?_, fun c hc => isDigit_of_mem_paddedDigits (List.mem_of_mem_take hc)⟩
    rw [ne_eq, ← List.length_eq_zero_iff, List.length_take]
    omega
  arePlaces := fun c hc => isDigit_of_mem_paddedDigits (List.mem_of_mem_drop hc)

@[simp] theorem length_numeral_places (x : Decimal) : x.numeral.places.length = x.scale := by
  have hlength := x.length_paddedDigits
  rw [numeral, List.length_drop]
  omega

@[simp] theorem digits_numeral (x : Decimal) : x.numeral.digits = x.mantissa := by
  rw [Numeral.digits, numeral, List.take_append_drop, digitsValue_paddedDigits]

/-- The text of a decimal denotes it exactly. -/
theorem denotes_chars (x : Decimal) : Denotes x.chars x.value := by
  refine ⟨x.numeral, ?_, ?_⟩
  · simp [Numeral.chars, Numeral.mainChars, Numeral.powerChars, numeral, chars]
  · have hpower : x.numeral.power = none := rfl
    rw [Numeral.value, digits_numeral, length_numeral_places, hpower, Option.getD_none, zero_sub,
      zpow_neg, zpow_natCast, value, div_eq_mul_inv]
    rfl

end Decimal

/-! ## Doubles -/

namespace DecimalDigits

variable (d : DecimalDigits)

/-- The number of places after the point that the number needs. -/
def places : Nat :=
  (-d.exponent).toNat

/-- The digits of a positional notation before and after the point; `wholePlaces` stands after the
point of a number without a fraction. -/
def parts (wholePlaces : List Char) : List Char × List Char :=
  let digits := digitChars d.digits
  if 0 ≤ d.exponent then (digits ++ List.replicate d.exponent.toNat '0', wholePlaces)
  else if 0 < d.point then (digits.take d.point.toNat, digits.drop d.point.toNat)
  else (['0'], List.replicate (-d.point).toNat '0' ++ digits)

theorem isDigits_parts_fst (wholePlaces : List Char) : isDigits (d.parts wholePlaces).1 = true := by
  have hlength := digitChars_length_pos d.digits
  unfold parts
  split
  · refine isDigits_iff.mpr ⟨?_, ?_⟩
    · intro hnil
      have := congrArg List.length hnil
      rw [List.length_append, List.length_nil] at this
      omega
    · intro c hc
      rcases List.mem_append.mp hc with hdigit | hzero
      · exact isDigit_of_mem_digitChars hdigit
      · rw [List.eq_of_mem_replicate hzero]
        decide
  · split
    · refine isDigits_iff.mpr ⟨?_, fun c hc => isDigit_of_mem_digitChars (List.mem_of_mem_take hc)⟩
      rw [ne_eq, ← List.length_eq_zero_iff, List.length_take]
      omega
    · rfl

theorem isDigit_of_mem_parts_snd {wholePlaces : List Char}
    (hwhole : ∀ c ∈ wholePlaces, c.isDigit = true) {c : Char} (h : c ∈ (d.parts wholePlaces).2) :
    c.isDigit = true := by
  unfold parts at h
  split at h
  · exact hwhole c h
  · split at h
    · exact isDigit_of_mem_digitChars (List.mem_of_mem_drop h)
    · rcases List.mem_append.mp h with hzero | hdigit
      · rw [List.eq_of_mem_replicate hzero]
        decide
      · exact isDigit_of_mem_digitChars hdigit

/-- The length of the fraction of a positional notation. -/
theorem length_parts_snd (wholePlaces : List Char) :
    (d.parts wholePlaces).2.length =
      if 0 ≤ d.exponent then wholePlaces.length else d.places := by
  unfold parts places
  split
  · rfl
  · split
    · rename_i hpoint
      rw [point] at hpoint
      rw [List.length_drop, point]
      omega
    · rename_i hpoint
      rw [point] at hpoint
      rw [List.length_append, List.length_replicate, point]
      omega

/-- The digits of a positional notation write the digits of the number and the zeros behind it. -/
theorem digitsValue_parts {wholePlaces : List Char} (hzero : digitsValue wholePlaces = 0) :
    digitsValue ((d.parts wholePlaces).1 ++ (d.parts wholePlaces).2) =
      if 0 ≤ d.exponent then d.digits * 10 ^ d.exponent.toNat * 10 ^ wholePlaces.length
      else d.digits := by
  unfold parts
  split
  · rw [digitsValue_append, digitsValue_append, digitsValue_digitChars, digitsValue_replicate_zero,
      hzero, List.length_replicate, Nat.add_zero, Nat.add_zero]
  · split
    · rw [List.take_append_drop, digitsValue_digitChars]
    · rw [digitsValue_append, digitsValue_append, digitsValue_digitChars,
        digitsValue_replicate_zero]
      simp [digitsValue]

/-- The positional notation of a number with a sign. -/
def positionalNumeral (negative : Bool) (wholePlaces : List Char)
    (hwhole : ∀ c ∈ wholePlaces, c.isDigit = true) : Numeral where
  negative := negative
  whole := (d.parts wholePlaces).1
  places := (d.parts wholePlaces).2
  power := none
  isWhole := d.isDigits_parts_fst wholePlaces
  arePlaces := fun _ hc => d.isDigit_of_mem_parts_snd hwhole hc

theorem positionalNumeral_chars (negative : Bool) (wholePlaces : List Char)
    (hwhole : ∀ c ∈ wholePlaces, c.isDigit = true) :
    (d.positionalNumeral negative wholePlaces hwhole).chars =
      Double.signChars negative ++
        d.positional (if wholePlaces.isEmpty then [] else '.' :: wholePlaces) := by
  have hlength := d.length_parts_snd wholePlaces
  show Double.signChars negative ++ (d.parts wholePlaces).1 ++
    (if (d.parts wholePlaces).2.isEmpty then [] else '.' :: (d.parts wholePlaces).2) ++ [] = _
  rw [List.append_nil, List.append_assoc]
  congr 1
  unfold positional
  by_cases hexponent : 0 ≤ d.exponent
  · simp only [parts, if_pos hexponent]
  · rw [if_neg hexponent] at hlength
    have hempty : (d.parts wholePlaces).2.isEmpty = false := by
      rw [List.isEmpty_eq_false_iff, ← List.length_pos_iff, hlength, places]
      omega
    rw [hempty]
    simp only [parts, if_neg hexponent, Bool.false_eq_true, if_false]
    split <;> rfl

section

variable (negative : Bool) {wholePlaces : List Char}
  (hwhole : ∀ c ∈ wholePlaces, c.isDigit = true)

@[simp] theorem positionalNumeral_power :
    (d.positionalNumeral negative wholePlaces hwhole).power = none :=
  rfl

theorem positionalNumeral_digits (hzero : digitsValue wholePlaces = 0) :
    (d.positionalNumeral negative wholePlaces hwhole).digits =
      if 0 ≤ d.exponent then d.digits * 10 ^ d.exponent.toNat * 10 ^ wholePlaces.length
      else d.digits :=
  d.digitsValue_parts hzero

theorem length_places_positionalNumeral :
    (d.positionalNumeral negative wholePlaces hwhole).places.length =
      if 0 ≤ d.exponent then wholePlaces.length else d.places :=
  d.length_parts_snd wholePlaces

theorem positionalNumeral_value (hzero : digitsValue wholePlaces = 0) :
    (d.positionalNumeral negative wholePlaces hwhole).value =
      (if negative then -1 else 1) * d.value := by
  rw [Numeral.value, d.positionalNumeral_digits negative hwhole hzero,
    length_places_positionalNumeral, positionalNumeral_power, Option.getD_none, zero_sub, mul_assoc]
  congr 1
  unfold value
  split
  · rename_i hexponent
    obtain ⟨n, hn⟩ := Int.eq_ofNat_of_zero_le hexponent
    rw [hn]
    push_cast
    rw [mul_assoc, ← zpow_natCast, ← zpow_natCast, ← zpow_add₀ (by norm_num), mul_assoc,
      ← zpow_add₀ (by norm_num)]
    simp
  · rw [places]
    congr 2
    omega

end

/-- The notation of a number with a sign and a power of ten. -/
def scientificNumeral (negative : Bool) : Numeral where
  negative := negative
  whole := (digitChars d.digits).take 1
  places := (digitChars d.digits).drop 1
  power := some (d.point - 1)
  isWhole := by
    have hlength := digitChars_length_pos d.digits
    refine isDigits_iff.mpr ⟨?_, fun c hc => isDigit_of_mem_digitChars (List.mem_of_mem_take hc)⟩
    rw [ne_eq, ← List.length_eq_zero_iff, List.length_take]
    omega
  arePlaces := fun _ hc => isDigit_of_mem_digitChars (List.mem_of_mem_drop hc)

theorem scientificNumeral_chars (negative : Bool) :
    (d.scientificNumeral negative).chars = Double.signChars negative ++ d.scientific := by
  have hempty : ((digitChars d.digits).drop 1).isEmpty =
      decide ((digitChars d.digits).length ≤ 1) := by
    rw [Bool.eq_iff_iff, List.isEmpty_iff, List.drop_eq_nil_iff, decide_eq_true_iff]
  show Double.signChars negative ++ (digitChars d.digits).take 1 ++
    (if ((digitChars d.digits).drop 1).isEmpty then [] else '.' :: (digitChars d.digits).drop 1) ++
    Numeral.powerChars (some (d.point - 1)) = _
  rw [hempty]
  simp [Numeral.powerChars, scientific]

@[simp] theorem scientificNumeral_power (negative : Bool) :
    (d.scientificNumeral negative).power = some (d.point - 1) :=
  rfl

theorem scientificNumeral_digits (negative : Bool) :
    (d.scientificNumeral negative).digits = d.digits := by
  rw [Numeral.digits, scientificNumeral, List.take_append_drop, digitsValue_digitChars]

theorem length_places_scientificNumeral (negative : Bool) :
    (d.scientificNumeral negative).places.length = (digitChars d.digits).length - 1 :=
  List.length_drop

theorem scientificNumeral_value (negative : Bool) :
    (d.scientificNumeral negative).value = (if negative then -1 else 1) * d.value := by
  have hlength := digitChars_length_pos d.digits
  have hpower : d.point - 1 - (((digitChars d.digits).length - 1 : ℕ) : ℤ) = d.exponent := by
    rw [point]
    omega
  rw [Numeral.value, scientificNumeral_digits, length_places_scientificNumeral,
    scientificNumeral_power, Option.getD_some, hpower, mul_assoc]
  rfl

end DecimalDigits

namespace Double

/-- The number that the shortest decimal of a double stands for. -/
def decimalValue (tie : TieRule) (x : Double) : ℚ :=
  (if x.negative then -1 else 1) * (shortest tie x).value

theorem isDigit_of_mem_nil : ∀ c ∈ ([] : List Char), c.isDigit = true :=
  List.forall_mem_nil _

theorem isDigit_of_mem_zero : ∀ c ∈ ['0'], c.isDigit = true :=
  List.forall_mem_singleton.mpr rfl

/-- The notation of the JSON form. -/
def jsonNumeral (x : Double) : Numeral :=
  if x.isZero || (-5 < (shortest .even x).point && (shortest .even x).point ≤ 16) then
    (shortest .even x).positionalNumeral x.negative ['0'] isDigit_of_mem_zero
  else (shortest .even x).scientificNumeral x.negative

/-- The JSON form is positional for zeros and when the point is near the first digit. -/
theorem jsonNumeral_cases (x : Double) :
    (x.mantissa = 0 ∨ -5 < (shortest .even x).point ∧ (shortest .even x).point ≤ 16) ∧
        x.jsonNumeral = (shortest .even x).positionalNumeral x.negative ['0'] isDigit_of_mem_zero ∨
      x.mantissa ≠ 0 ∧ ((shortest .even x).point ≤ -5 ∨ 16 < (shortest .even x).point) ∧
        x.jsonNumeral = (shortest .even x).scientificNumeral x.negative := by
  unfold jsonNumeral
  split
  · rename_i hpositional
    exact .inl ⟨by simpa [isZero] using hpositional, rfl⟩
  · rename_i hscientific
    simp only [isZero, Bool.or_eq_true, beq_iff_eq, Bool.and_eq_true,
      decide_eq_true_eq] at hscientific
    exact .inr ⟨by omega, by omega, rfl⟩

theorem jsonNumeral_chars (x : Double) : x.jsonNumeral.chars = x.jsonChars := by
  unfold jsonNumeral jsonChars
  dsimp only
  split
  · rw [DecimalDigits.positionalNumeral_chars]
    rfl
  · rw [DecimalDigits.scientificNumeral_chars]

theorem jsonNumeral_value (x : Double) : x.jsonNumeral.value = x.decimalValue .even := by
  unfold jsonNumeral
  split
  · exact DecimalDigits.positionalNumeral_value _ _ _ rfl
  · exact DecimalDigits.scientificNumeral_value _ _

/-- The JSON form of a double denotes its shortest decimal. -/
theorem denotes_jsonChars (x : Double) : Denotes x.jsonChars (x.decimalValue .even) :=
  ⟨x.jsonNumeral, x.jsonNumeral_chars, x.jsonNumeral_value⟩

/-- The notation of the plain form. -/
def plainNumeral (x : Double) : Numeral :=
  (shortest .up x).positionalNumeral x.negative [] isDigit_of_mem_nil

theorem plainNumeral_chars (x : Double) : x.plainNumeral.chars = x.plainChars := by
  rw [plainNumeral, DecimalDigits.positionalNumeral_chars]
  rfl

theorem plainNumeral_value (x : Double) : x.plainNumeral.value = x.decimalValue .up :=
  DecimalDigits.positionalNumeral_value _ _ _ rfl

end Double

end DocumentMapping
