import Mathlib.Algebra.Order.Floor.Semifield
import Mathlib.Data.Rat.Floor
import DocumentMapping.Proofs.Number.DecimalReading
import DocumentMapping.Proofs.Number.WholeDecimals

/-!
# Rounded decimals

Rounding a decimal to a number of places gives the number rounded half away from zero. Taking off
zeros at the end changes no number, and a percentage is exact when there is one.
-/

namespace DocumentMapping

/-- A number rounded to a number of decimal places, a half going away from zero. -/
def roundedTo (places : Nat) (number : ℚ) : ℚ :=
  (if number < 0 then -1 else 1) * ⌊|number| * 10 ^ places + 1 / 2⌋₊ / 10 ^ places

/-- Adding a half to a natural number does not reach the next one. -/
theorem floor_natCast_add_half (n : Nat) : ⌊(n : ℚ) + 1 / 2⌋₊ = n := by
  rw [Nat.floor_eq_iff (by positivity)]
  constructor <;> linarith

namespace Decimal

/-- The sign of a decimal is that of its value, unless it is zero. -/
theorem sign_value_mul (x : Decimal) {magnitude : ℚ} (h : x.mantissa = 0 → magnitude = 0) :
    (if x.value < 0 then -1 else 1) * magnitude = (if x.negative then -1 else 1) * magnitude := by
  by_cases hzero : x.mantissa = 0
  · rw [h hzero, mul_zero, mul_zero]
  · have hpos : (0 : ℚ) < x.mantissa / 10 ^ x.scale := by
      have hmantissa : (0 : ℚ) < x.mantissa := by exact_mod_cast Nat.pos_of_ne_zero hzero
      positivity
    rw [value, mul_div_assoc]
    cases x.negative with
    | true => simp [hpos]
    | false => simp [hpos.le]

theorem roundedTo_value (x : Decimal) {places rounded : Nat}
    (h : ⌊|x.value| * 10 ^ places + 1 / 2⌋₊ = rounded) :
    roundedTo places x.value = (if x.negative then -1 else 1) * rounded / 10 ^ places := by
  have hzero : x.mantissa = 0 → (rounded : ℚ) = 0 := by
    intro hmantissa
    have hhalf := floor_natCast_add_half 0
    rw [Nat.cast_zero] at hhalf
    rw [abs_value, hmantissa, Nat.cast_zero, zero_div, zero_mul, hhalf] at h
    rw [← h, Nat.cast_zero]
  rw [roundedTo, h, x.sign_value_mul hzero]

/-- The magnitude is rounded, and the sign stays. -/
theorem value_reduceScale (x : Decimal) (places : Nat) :
    (x.reduceScale places).value = roundedTo places x.value := by
  unfold reduceScale
  split
  · rename_i hlt
    obtain ⟨k, hk⟩ := Nat.exists_eq_add_of_le hlt.le
    have hcut : x.scale - places = k := by omega
    have hfloor : ⌊|x.value| * 10 ^ places + 1 / 2⌋₊ =
        (2 * x.mantissa + 10 ^ (x.scale - places)) / (2 * 10 ^ (x.scale - places)) := by
      have hscaled : |x.value| * 10 ^ places + 1 / 2 =
          ((2 * x.mantissa + 10 ^ k : ℕ) : ℚ) / ((2 * 10 ^ k : ℕ) : ℚ) := by
        rw [abs_value, hk, pow_add]
        push_cast
        field_simp
      rw [hscaled, Nat.floor_div_eq_div, hcut]
    rw [x.roundedTo_value hfloor]
    rfl
  · rename_i hle
    obtain ⟨k, hk⟩ := Nat.exists_eq_add_of_le (Nat.not_lt.mp hle)
    have hfloor : ⌊|x.value| * 10 ^ places + 1 / 2⌋₊ = x.mantissa * 10 ^ k := by
      have hscaled : |x.value| * 10 ^ places = (x.mantissa * 10 ^ k : ℕ) := by
        rw [abs_value, hk, pow_add]
        push_cast
        field_simp
      rw [hscaled, floor_natCast_add_half]
    rw [x.roundedTo_value hfloor, value, hk, pow_add]
    push_cast
    field_simp

theorem value_unsignedZero (x : Decimal) : x.unsignedZero.value = x.value := by
  unfold unsignedZero
  split
  · rename_i hzero
    have hmantissa : x.mantissa = 0 := by simpa [isZero] using hzero
    simp [value, abs, hmantissa]
  · rfl

/-- Rounding a decimal rounds the number that it stands for. -/
theorem value_roundHalfAway (x : Decimal) (places : Nat) :
    (x.roundHalfAway places).value = roundedTo places x.value := by
  unfold roundHalfAway
  split
  · exact x.value_reduceScale places
  · rw [value_unsignedZero, value_reduceScale]

theorem scale_reduceScale_le (x : Decimal) (places : Nat) :
    (x.reduceScale places).scale ≤ places := by
  unfold reduceScale
  split
  · exact le_rfl
  · omega

theorem scale_roundHalfAway_le (x : Decimal) (places : Nat) :
    (x.roundHalfAway places).scale ≤ places := by
  have hscale := x.scale_reduceScale_le places
  unfold roundHalfAway unsignedZero
  split
  · exact hscale
  split
  · exact hscale
  · exact hscale

/-! ## Zeros at the end -/

theorem value_stripZeros (mantissa scale : Nat) :
    ((stripZeros mantissa scale).1 : ℚ) / 10 ^ (stripZeros mantissa scale).2 =
      mantissa / 10 ^ scale := by
  induction scale generalizing mantissa with
  | zero => rfl
  | succ scale ih =>
    rw [stripZeros]
    split
    · rename_i hzero
      obtain ⟨rest, rfl⟩ := Nat.dvd_of_mod_eq_zero hzero
      rw [ih, Nat.mul_div_cancel_left rest (by decide), pow_succ]
      push_cast
      field_simp
    · rfl

theorem value_normalize (x : Decimal) : x.normalize.value = x.value := by
  unfold normalize
  split
  · rename_i hzero
    have hmantissa : x.mantissa = 0 := by simpa [isZero] using hzero
    simp [value, zero, hmantissa]
  · rw [value, value, mul_div_assoc, mul_div_assoc, value_stripZeros]

/-! ## Percentages -/

theorem roundQuotient_mul_self (n : Nat) {den : Nat} (hden : 0 < den) :
    Double.roundQuotient (n * den) den = n := by
  simp [Double.roundQuotient, Nat.mul_div_cancel n hden, hden]

theorem value_of_ofParts? {negative : Bool} {mantissa scale : Nat} {y : Decimal}
    (h : ofParts? negative mantissa scale = some y) :
    y.value = (if negative then -1 else 1) * (mantissa / 10 ^ scale) := by
  obtain ⟨hnegative, hmantissa, hscale⟩ := ofParts?_eq_some h
  rw [value, hnegative, hmantissa, hscale, mul_div_assoc]

/-- A hundredfold can give up its two zeros. -/
theorem roundQuotient_mul_hundred (mantissa : Nat) {zeros : Nat} (h : zeros ≤ 2) :
    Double.roundQuotient (mantissa * 100) (10 ^ zeros) = mantissa * 10 ^ (2 - zeros) := by
  have hsplit : mantissa * 100 = mantissa * 10 ^ (2 - zeros) * 10 ^ zeros := by
    rw [Nat.mul_assoc, ← Nat.pow_add, Nat.sub_add_cancel h]
  rw [hsplit, roundQuotient_mul_self _ (Nat.pow_pos (by decide))]

/-- With its zeros cut off a hundredfold is the same number. -/
theorem value_of_ofParts?_mul_hundred {negative : Bool} {mantissa scale zeros : Nat} {y : Decimal}
    (hzeros : zeros ≤ 2) (hle : zeros ≤ scale)
    (h : ofParts? negative (Double.roundQuotient (mantissa * 100) (10 ^ zeros)) (scale - zeros) =
      some y) :
    y.value = (if negative then -1 else 1) * (100 * (mantissa / 10 ^ scale)) := by
  obtain ⟨rest, rfl⟩ := Nat.exists_eq_add_of_le hle
  rw [roundQuotient_mul_hundred mantissa hzeros, Nat.add_sub_cancel_left] at h
  have hpow : (10 : ℚ) ^ (2 - zeros) * 10 ^ zeros = 100 := by
    rw [← pow_add, Nat.sub_add_cancel hzeros]
    norm_num
  rw [value_of_ofParts? h, ← hpow, pow_add]
  push_cast
  field_simp

/-- A hundredfold is exact: no more is cut off than the two zeros. -/
theorem value_of_fit?_mul_hundred {negative : Bool} {mantissa scale : Nat} {y : Decimal}
    (hmantissa : mantissa < 2 ^ 96) (hscale : scale ≤ 28)
    (h : fit? negative (mantissa * 100) scale = some y) :
    y.value = (if negative then -1 else 1) * (100 * (mantissa / 10 ^ scale)) := by
  obtain hsmall | hlarge := Nat.lt_or_ge scale 2
  · obtain ⟨zeros, hzeros, hparts⟩ := List.exists_of_findSome?_eq_some h
    have hle := List.mem_range.mp hzeros
    exact value_of_ofParts?_mul_hundred (by omega) (by omega) hparts
  · obtain ⟨rest, rfl⟩ := Nat.exists_eq_add_of_le hlarge
    have hrange : List.range (2 + rest + 1) = List.range 3 ++ (List.range rest).map (3 + ·) := by
      rw [← List.range_add]
      congr 1
      omega
    -- two zeros can always be cut off
    have hfits : (ofParts? negative (Double.roundQuotient (mantissa * 100) (10 ^ 2))
        (2 + rest - 2)).isSome = true := by
      rw [roundQuotient_mul_hundred mantissa le_rfl, ofParts?, dif_pos ⟨by omega, by omega⟩,
        Option.isSome_some]
    have hfirst : ((List.range 3).findSome? fun dropped =>
        ofParts? negative (Double.roundQuotient (mantissa * 100) (10 ^ dropped))
          (2 + rest - dropped)).isSome = true :=
      List.findSome?_isSome_iff.mpr ⟨2, List.mem_range.mpr (by decide), hfits⟩
    obtain ⟨z, hz⟩ := Option.isSome_iff_exists.mp hfirst
    rw [fit?, hrange, List.findSome?_append, hz, Option.some_or] at h
    cases h
    obtain ⟨zeros, hzeros, hparts⟩ := List.exists_of_findSome?_eq_some hz
    have hle := List.mem_range.mp hzeros
    exact value_of_ofParts?_mul_hundred (by omega) (by omega) hparts

/-- The hundredfold of a decimal, as it is or without the sign of a zero. -/
theorem mul?_hundred_eq_or (x : Decimal) :
    (x.isZero = true ∧ x.mul? .hundred = some zero) ∨
      x.mul? .hundred = fit? x.negative (x.mantissa * 100) x.scale ∨
      x.mul? .hundred = (fit? x.negative (x.mantissa * 100) x.scale).map unsignedZero := by
  have hplaces : ¬47 < x.scale + hundred.scale := by
    have hscale := x.scale_le
    have hnone : hundred.scale = 0 := rfl
    omega
  have hproduct : fit? (x.negative != hundred.negative) (x.mantissa * hundred.mantissa)
      (x.scale + hundred.scale) = fit? x.negative (x.mantissa * 100) x.scale := by
    rw [show hundred.negative = false from rfl, Bool.bne_false]
    rfl
  have hnonzero : hundred.isZero = false := rfl
  rw [mul?, hproduct, hnonzero, Bool.or_false, if_neg hplaces]
  split
  · rename_i hzero
    exact .inl ⟨hzero, rfl⟩
  split
  · exact .inr (.inr rfl)
  · exact .inr (.inl rfl)

/-- A percentage is exact. -/
theorem value_of_mul?_hundred {x y : Decimal} (h : x.mul? .hundred = some y) :
    y.value = 100 * x.value := by
  have hfit {z : Decimal} (hz : fit? x.negative (x.mantissa * 100) x.scale = some z) :
      z.value = 100 * x.value := by
    rw [value_of_fit?_mul_hundred x.mantissa_lt x.scale_le hz, value]
    ring
  obtain ⟨hzero, hmul⟩ | hmul | hmul := x.mul?_hundred_eq_or
  · have hmantissa : x.mantissa = 0 := beq_iff_eq.mp hzero
    rw [hmul] at h
    cases h
    simp [value, zero, hmantissa]
  · exact hfit (hmul.symm.trans h)
  · rw [hmul] at h
    obtain ⟨z, hz, rfl⟩ := Option.map_eq_some_iff.mp h
    rw [value_unsignedZero]
    exact hfit hz

/-- There is a percentage as long as a decimal has room for it. -/
theorem exists_mul?_hundred {x : Decimal} (h : |100 * x.value| < 2 ^ 96) :
    ∃ y, x.mul? .hundred = some y := by
  have hfit : (fit? x.negative (x.mantissa * 100) x.scale).isSome = true := by
    refine List.findSome?_isSome_iff.mpr ⟨min 2 x.scale, List.mem_range.mpr (by omega), ?_⟩
    have hroom : x.mantissa * 10 ^ (2 - min 2 x.scale) < 2 ^ 96 := by
      rw [abs_mul, abs_of_pos (by norm_num : (0 : ℚ) < 100), x.abs_value] at h
      obtain hlarge | hsmall := Nat.lt_or_ge 1 x.scale
      · rw [Nat.min_eq_left hlarge, Nat.sub_self, Nat.pow_zero, Nat.mul_one]
        exact x.mantissa_lt
      · have hpow : (10 : ℚ) ^ (2 - x.scale) * 10 ^ x.scale = 100 := by
          rw [← pow_add, Nat.sub_add_cancel (by omega)]
          norm_num
        have hvalue : (100 * (x.mantissa / 10 ^ x.scale) : ℚ) =
            (x.mantissa * 10 ^ (2 - x.scale) : ℕ) := by
          rw [← hpow]
          push_cast
          field_simp
        rw [Nat.min_eq_right (by omega)]
        rw [hvalue] at h
        exact_mod_cast h
    have hscale := x.scale_le
    rw [roundQuotient_mul_hundred _ (Nat.min_le_left _ _), ofParts?, dif_pos ⟨hroom, by omega⟩,
      Option.isSome_some]
  obtain ⟨y, hy⟩ := Option.isSome_iff_exists.mp hfit
  obtain ⟨-, hmul⟩ | hmul | hmul := x.mul?_hundred_eq_or
  · exact ⟨_, hmul⟩
  · exact ⟨y, hmul.trans hy⟩
  · exact ⟨y.unsignedZero, by rw [hmul, hy, Option.map_some]⟩

end Decimal

end DocumentMapping
