import DocumentMapping.Proofs.Number.DecimalReading

/-!
# The range of decimals

A written double is read as a decimal unless its magnitude is too large for a mantissa without
places, or so small that its power of ten has more places than a decimal.
-/

namespace DocumentMapping

/-- The power of ten of the first digit bounds a number from both sides. -/
theorem DecimalDigits.value_bounds {d : DecimalDigits} (hne : d.digits ≠ 0) :
    10 ^ (d.point - 1) ≤ d.value ∧ d.value < 10 ^ d.point := by
  have hpow : (0 : ℚ) < 10 ^ d.exponent := zpow_pos (by norm_num) _
  have hlength := digitChars_length_pos d.digits
  have hlower : (10 : ℚ) ^ ((digitChars d.digits).length - 1) ≤ d.digits := by
    exact_mod_cast ten_pow_pred_length_le (Nat.pos_of_ne_zero hne)
  have hupper : (d.digits : ℚ) < 10 ^ (digitChars d.digits).length := by
    exact_mod_cast lt_ten_pow_length d.digits
  have hpoint : d.point - 1 = (((digitChars d.digits).length - 1 : ℕ) : ℤ) + d.exponent := by
    rw [point]
    omega
  constructor
  · rw [value, hpoint, zpow_add₀ (by norm_num), zpow_natCast]
    exact mul_le_mul_of_nonneg_right hlower hpow.le
  · rw [value, point, zpow_add₀ (by norm_num), zpow_natCast]
    exact mul_lt_mul_of_pos_right hupper hpow

namespace Double

variable {x : Double}

theorem abs_decimalValue (tie : TieRule) (x : Double) :
    |x.decimalValue tie| = (shortest tie x).value :=
  abs_sign_mul _ (mul_nonneg (Nat.cast_nonneg _) (zpow_nonneg (by norm_num) _))

theorem decimalValue_eq_zero_iff {tie : TieRule} (hx : x.Canonical) :
    x.decimalValue tie = 0 ↔ x.mantissa = 0 := by
  rw [← abs_eq_zero, abs_decimalValue]
  constructor
  · intro hvalue
    by_contra hne
    exact (shortest_value_pos tie hx (Nat.pos_of_ne_zero hne)).ne' hvalue
  · intro hzero
    rw [shortest_zero tie hzero]
    norm_num [DecimalDigits.value]

end Double

namespace Decimal

section

variable {n : Numeral} {x : Decimal}

/-- A number whose digits fit is read when it has no power of ten. -/
theorem exists_ofPositional?_mainChars (hfits : Fits n) (hdigits : n.digits < 2 ^ 96) :
    ∃ x, ofPositional? n.mainChars = some x ∧ x.mantissa = n.digits ∧
      x.scale = n.places.length := by
  have hwhole : digitsValue n.whole < 2 ^ 96 := by
    have hgrow := le_mul_ten_pow (digitsValue n.whole) n.places.length
    rw [Numeral.digits, digitsValue_append] at hdigits
    omega
  have hread : ofPositional? n.mainChars =
      Reading.finish n.negative n.digits n.places.length := by
    rw [← List.append_nil n.mainChars, ofPositional?_mainChars hfits, if_pos hwhole, readDigits,
      if_pos rfl]
    cases n.places <;> rfl
  rw [hread, Reading.finish, ofParts?, dif_pos ⟨hdigits, hfits.places_le⟩]
  exact ⟨_, rfl, rfl, rfl⟩

theorem read?_isSome_of_no_power (hfits : Fits n) (hdigits : n.digits < 2 ^ 96)
    (hpower : n.power = none) : (read? n.chars).isSome = true := by
  obtain ⟨x, hread, -⟩ := exists_ofPositional?_mainChars hfits hdigits
  rw [read?, Numeral.chars, hpower, Numeral.powerChars, List.append_nil, hread]
  rfl

theorem pointLeft?_eq_none_iff {count : Nat} : x.pointLeft? count = none ↔ 28 < count := by
  unfold pointLeft?
  split
  · rename_i hcount
    exact iff_of_true rfl hcount
  · rename_i hcount
    have hscale : (x.reduceScale (28 - count)).scale ≤ 28 - count := by
      unfold reduceScale
      split
      · exact le_rfl
      · omega
    dsimp only
    rw [ofParts?, dif_pos ⟨(x.reduceScale (28 - count)).mantissa_lt, by omega⟩]
    exact iff_of_false (by simp) hcount

theorem pointRight?_eq_none_iff {count : Nat} :
    x.pointRight? count = none ↔ 28 < count ∨ 2 ^ 96 ≤ x.mantissa * 10 ^ (count - x.scale) := by
  have hscale := x.scale_le
  unfold pointRight?
  split
  · rename_i hcount
    exact iff_of_true rfl (.inl hcount)
  · rename_i hcount
    unfold ofParts?
    split
    · rename_i hparts
      exact iff_of_false (by simp) (by omega)
    · rename_i hparts
      exact iff_of_true rfl (by omega)

/-- A number with a power of ten is not read when the power is too small, or when the power or the
number is too large. -/
theorem read?_eq_none_iff_of_power (hfits : Fits n) (hdigits : n.digits < 2 ^ 96) {power : Int}
    (hpower : n.power = some power) :
    read? n.chars = none ↔
      28 < power.natAbs ∨
        0 ≤ power ∧ 2 ^ 96 ≤ n.digits * 10 ^ (power.natAbs - n.places.length) := by
  obtain ⟨base, hbase, hmantissa, hscale⟩ := exists_ofPositional?_mainChars hfits hdigits
  rw [read?_of_power hfits hpower, hbase, Option.bind_some, ← hmantissa, ← hscale]
  split
  · rw [pointLeft?_eq_none_iff]
    omega
  · rw [pointRight?_eq_none_iff]
    omega

end

theorem eq_of_parts {x y : Decimal} (hnegative : x.negative = y.negative)
    (hmantissa : x.mantissa = y.mantissa) (hscale : x.scale = y.scale) : x = y := by
  cases x
  cases y
  simp_all

theorem negative_unsignedZero (x : Decimal) :
    x.unsignedZero.negative = (x.negative && x.mantissa != 0) := by
  by_cases hzero : x.mantissa = 0
  · simp [unsignedZero, isZero, abs, hzero]
  · simp [unsignedZero, isZero, hzero]

@[simp] theorem mantissa_unsignedZero (x : Decimal) : x.unsignedZero.mantissa = x.mantissa := by
  unfold unsignedZero
  split <;> rfl

@[simp] theorem scale_unsignedZero (x : Decimal) : x.unsignedZero.scale = x.scale := by
  unfold unsignedZero
  split <;> rfl

theorem unsignedZero_of_positive {x : Decimal} (h : x.negative = false) : x.unsignedZero = x :=
  eq_of_parts (by rw [negative_unsignedZero, h, Bool.false_and]) x.mantissa_unsignedZero
    x.scale_unsignedZero

/-- A written decimal is read in positional notation with its places, a zero without its sign. -/
theorem ofPositional?_chars (x : Decimal) : ofPositional? x.chars = some x.unsignedZero := by
  have hfits : Fits x.numeral :=
    ⟨x.length_numeral_places ▸ x.scale_le, fun _ => x.digits_numeral ▸ x.mantissa_lt⟩
  obtain ⟨y, hread, hmantissa, hscale⟩ :=
    exists_ofPositional?_mainChars hfits (x.digits_numeral ▸ x.mantissa_lt)
  have hnegative := (parts_of_mainChars hfits hread).1
  rw [digits_numeral] at hmantissa hnegative
  rw [length_numeral_places] at hscale
  have hy : y = x.unsignedZero :=
    eq_of_parts (hnegative.trans x.negative_unsignedZero.symm)
      (hmantissa.trans x.mantissa_unsignedZero.symm) (hscale.trans x.scale_unsignedZero.symm)
  have hchars : x.chars = x.numeral.mainChars := rfl
  rw [hchars, hread, hy]

section

variable {x : Double}

/-- With at most eighteen digits and the point behind the sixteenth, the digits and the zeros behind
them are too many exactly when the number is too large. -/
theorem two_pow_le_digits_iff {d : DecimalDigits} (hne : d.digits ≠ 0)
    (hlength : (digitChars d.digits).length ≤ 18) (hpoint : 16 < d.point) :
    2 ^ 96 ≤ d.digits * 10 ^ ((d.point - 1).natAbs - ((digitChars d.digits).length - 1)) ↔
      (2 : ℚ) ^ 96 ≤ d.value := by
  have hpositive := digitChars_length_pos d.digits
  have hzeros : (d.point - 1).natAbs - ((digitChars d.digits).length - 1) = d.exponent.toNat := by
    rw [DecimalDigits.point] at *
    omega
  rw [hzeros]
  obtain hexponent | hexponent := lt_or_ge d.exponent 0
  · -- only eighteen digits reach that far, and their number is small
    have hlt : d.value < 2 ^ 96 :=
      calc d.value < 10 ^ d.point := (DecimalDigits.value_bounds hne).2
        _ ≤ 10 ^ (18 : ℤ) := by
          refine zpow_le_zpow_right₀ (by norm_num) ?_
          rw [DecimalDigits.point]
          omega
        _ < 2 ^ 96 := by norm_num
    have hdigits := lt_ten_pow_length d.digits
    have hgrow : 10 ^ (digitChars d.digits).length ≤ 10 ^ 18 :=
      Nat.pow_le_pow_right (by decide) hlength
    rw [Int.toNat_of_nonpos hexponent.le, Nat.pow_zero, Nat.mul_one]
    exact iff_of_false (by omega) (not_le.mpr hlt)
  · obtain ⟨e, he⟩ := Int.eq_ofNat_of_zero_le hexponent
    rw [DecimalDigits.value, he, zpow_natCast, Int.toNat_natCast]
    exact_mod_cast Iff.rfl

/-- A number in the notation with a power of ten is not read when it is too large or too small. -/
theorem read?_scientificNumeral_eq_none_iff {d : DecimalDigits} (hne : d.digits ≠ 0)
    (hlength : (digitChars d.digits).length ≤ 18) (hpoint : d.point ≤ -5 ∨ 16 < d.point)
    (negative : Bool) :
    read? (d.scientificNumeral negative).chars = none ↔
      2 ^ 96 ≤ d.value ∨ d.value < 10 ^ (-28 : ℤ) := by
  obtain ⟨hlower, hupper⟩ := DecimalDigits.value_bounds hne
  have hten {m n : ℤ} (h : m ≤ n) : (10 : ℚ) ^ m ≤ 10 ^ n := zpow_le_zpow_right₀ (by norm_num) h
  have hdigits : (d.scientificNumeral negative).digits < 2 ^ 96 := by
    have hlt := lt_ten_pow_length d.digits
    have hgrow : 10 ^ (digitChars d.digits).length ≤ 10 ^ 18 :=
      Nat.pow_le_pow_right (by decide) hlength
    rw [DecimalDigits.scientificNumeral_digits]
    omega
  have hfits : Fits (d.scientificNumeral negative) := by
    refine ⟨?_, fun _ => hdigits⟩
    rw [DecimalDigits.length_places_scientificNumeral]
    omega
  rw [read?_eq_none_iff_of_power hfits hdigits (d.scientificNumeral_power negative),
    DecimalDigits.scientificNumeral_digits, DecimalDigits.length_places_scientificNumeral]
  obtain hsmall | hlarge := hpoint
  · have hnotLarge : d.value < 2 ^ 96 :=
      (hupper.trans_le (hten (by omega : d.point ≤ 16))).trans (by norm_num)
    constructor
    · rintro (hpower | ⟨hpower, -⟩)
      · exact .inr (hupper.trans_le (hten (by omega)))
      · omega
    · rintro (hge | hlt)
      · exact absurd hge (not_le.mpr hnotLarge)
      · have hpower := (zpow_lt_zpow_iff_right₀ (by norm_num)).mp (hlower.trans_lt hlt)
        exact .inl (by omega)
  · have hnotSmall : 10 ^ (-28 : ℤ) ≤ d.value := (hten (by omega)).trans hlower
    rw [two_pow_le_digits_iff hne hlength hlarge]
    constructor
    · rintro (hpower | ⟨-, hge⟩)
      · have hwide : (2 : ℚ) ^ 96 ≤ 10 ^ (29 : ℤ) := by norm_num
        exact .inl (hwide.trans ((hten (by omega)).trans hlower))
      · exact .inl hge
    · rintro (hge | hlt)
      · exact .inr ⟨by omega, hge⟩
      · exact absurd hlt (not_lt.mpr hnotSmall)

/-- A written double is not read as a decimal when its magnitude is at least `2 ^ 96`, or when its
first digit stands behind the twenty-eighth place. -/
theorem read?_jsonChars_eq_none_iff (hx : x.Canonical) :
    read? x.jsonChars = none ↔
      2 ^ 96 ≤ |x.decimalValue .even| ∨
        x.decimalValue .even ≠ 0 ∧ |x.decimalValue .even| < 10 ^ (-28 : ℤ) := by
  rw [← x.jsonNumeral_chars, ne_eq, Double.decimalValue_eq_zero_iff hx, Double.abs_decimalValue]
  obtain ⟨hpoint, hnumeral⟩ | ⟨hne, hpoint, hnumeral⟩ := x.jsonNumeral_cases
  · have hpower : x.jsonNumeral.power = none := by
      rw [hnumeral, DecimalDigits.positionalNumeral_power]
    refine iff_of_false (Option.isSome_iff_ne_none.mp
      (read?_isSome_of_no_power (fits_jsonNumeral hx) (digits_jsonNumeral_lt hx) hpower)) ?_
    by_cases hzero : x.mantissa = 0
    · rw [Double.shortest_zero .even hzero]
      norm_num [DecimalDigits.value, hzero]
    · obtain ⟨hbehind, hbefore⟩ := hpoint.resolve_left hzero
      obtain ⟨hlower, hupper⟩ := DecimalDigits.value_bounds
        (Double.shortest_spec .even hx (Nat.pos_of_ne_zero hzero)).1
      have hten {m n : ℤ} (h : m ≤ n) : (10 : ℚ) ^ m ≤ 10 ^ n :=
        zpow_le_zpow_right₀ (by norm_num) h
      have hnarrow : (10 : ℚ) ^ (16 : ℤ) < 2 ^ 96 := by norm_num
      rw [not_or, not_and_or, not_le, not_lt]
      exact ⟨(hupper.trans_le (hten hbefore)).trans hnarrow,
        .inr ((hten (by omega)).trans hlower)⟩
  · have hdigits := (Double.shortest_spec .even hx (Nat.pos_of_ne_zero hne)).1
    rw [hnumeral, read?_scientificNumeral_eq_none_iff hdigits
      (length_digitChars_shortest .even hx) hpoint, and_iff_right hne]

end

/-- A written integer is read when it is small enough. -/
theorem read?_integerChars_ne_none {value : Int} (h : value.natAbs < 2 ^ 96) :
    read? (Json.integerChars value) ≠ none := by
  rw [← integerNumeral_chars]
  refine Option.isSome_iff_ne_none.mp (read?_isSome_of_no_power (fits_integerNumeral value) ?_ rfl)
  rwa [integerNumeral_digits]

end Decimal

end DocumentMapping
