import DocumentMapping.Proofs.Number.Shortest
import DocumentMapping.Number.DecimalArithmetic

/-!
# Arithmetic gives canonical doubles

Rounding a quotient scales it so that its integral part has 53 bits, or fewer at the least exponent.
So the double of a decimal is canonical.
-/

namespace DocumentMapping

namespace Double

section

variable {num den : Nat}

theorem scaleRatio_pos (exponent : Int) (hden : 0 < den) :
    0 < (scaleRatio num den exponent).2 := by
  unfold scaleRatio
  split
  · exact Nat.mul_pos hden (Nat.two_pow_pos _)
  · exact hden

theorem scaleRatio_eq (num den : Nat) (exponent : Int) :
    ((scaleRatio num den exponent).1 : ℚ) / (scaleRatio num den exponent).2 =
      num / den / 2 ^ exponent := by
  unfold scaleRatio
  split
  · rename_i hpos
    obtain ⟨n, rfl⟩ := Int.eq_ofNat_of_zero_le hpos
    rw [div_div]
    simp
  · rename_i hneg
    obtain ⟨n, hn⟩ := Int.eq_ofNat_of_zero_le (by omega : 0 ≤ -exponent)
    rw [hn, show exponent = -(n : ℤ) by omega, zpow_neg, div_inv_eq_mul, div_mul_eq_mul_div]
    simp

/-- A scaled quotient is below a bound when the quotient is below the scaled bound. -/
theorem scaleRatio_lt_iff (exponent : Int) (hden : 0 < den) (bound : Nat) :
    (scaleRatio num den exponent).1 < (scaleRatio num den exponent).2 * bound ↔
      (num : ℚ) / den < bound * 2 ^ exponent := by
  have hpos : (0 : ℚ) < (scaleRatio num den exponent).2 := by
    exact_mod_cast scaleRatio_pos exponent hden
  rw [← div_lt_iff₀ (zpow_pos (by norm_num) _), ← scaleRatio_eq, div_lt_iff₀ hpos, mul_comm]
  exact_mod_cast Iff.rfl

theorem log2_bounds {n : Nat} (hn : 0 < n) :
    (2 : ℚ) ^ (n.log2 : ℤ) ≤ n ∧ (n : ℚ) < 2 ^ ((n.log2 : ℤ) + 1) := by
  constructor
  · rw [zpow_natCast]
    exact_mod_cast Nat.log2_self_le hn.ne'
  · rw [← Nat.cast_succ, zpow_natCast]
    exact_mod_cast Nat.lt_log2_self

/-- Under its normal exponent a quotient has an integral part of 53 bits. -/
theorem normalExponent_bounds (hnum : 0 < num) (hden : 0 < den) :
    (2 : ℚ) ^ 52 * 2 ^ normalExponent num den ≤ num / den ∧
      (num : ℚ) / den < 2 ^ 53 * 2 ^ normalExponent num den := by
  obtain ⟨hnumLower, hnumUpper⟩ := log2_bounds hnum
  obtain ⟨hdenLower, hdenUpper⟩ := log2_bounds hden
  have hden' : (0 : ℚ) < den := by exact_mod_cast hden
  have hsum (i j : ℤ) : (2 : ℚ) ^ i * 2 ^ j = 2 ^ (i + j) := (zpow_add₀ (by norm_num) i j).symm
  have hunfold : normalExponent num den =
      if (scaleRatio num den (num.log2 - den.log2 - 52)).1 <
          (scaleRatio num den (num.log2 - den.log2 - 52)).2 * 2 ^ 52 then
        (num.log2 : ℤ) - den.log2 - 52 - 1
      else (num.log2 : ℤ) - den.log2 - 52 := rfl
  have hmiddle : (scaleRatio num den (num.log2 - den.log2 - 52)).1 <
      (scaleRatio num den (num.log2 - den.log2 - 52)).2 * 2 ^ 52 ↔
        (num : ℚ) / den < (2 ^ 52 : ℕ) * 2 ^ ((num.log2 : ℤ) - den.log2 - 52) :=
    scaleRatio_lt_iff _ hden (2 ^ 52)
  generalize hestimate : (num.log2 : ℤ) - den.log2 - 52 = estimate at hunfold hmiddle
  have hlower : (2 : ℚ) ^ 51 * 2 ^ estimate ≤ num / den := by
    rw [le_div_iff₀ hden', ← zpow_natCast, hsum]
    calc (2 : ℚ) ^ (((51 : ℕ) : ℤ) + estimate) * den
        ≤ 2 ^ (((51 : ℕ) : ℤ) + estimate) * 2 ^ ((den.log2 : ℤ) + 1) :=
          mul_le_mul_of_nonneg_left hdenUpper.le (zpow_pos (by norm_num) _).le
      _ = 2 ^ (num.log2 : ℤ) := by rw [hsum]; congr 1; push_cast; omega
      _ ≤ num := hnumLower
  have hupper : (num : ℚ) / den < 2 ^ 53 * 2 ^ estimate := by
    rw [div_lt_iff₀ hden', ← zpow_natCast, hsum]
    calc (num : ℚ) < 2 ^ ((num.log2 : ℤ) + 1) := hnumUpper
      _ = 2 ^ (((53 : ℕ) : ℤ) + estimate) * 2 ^ (den.log2 : ℤ) := by
        rw [hsum]; congr 1; push_cast; omega
      _ ≤ 2 ^ (((53 : ℕ) : ℤ) + estimate) * den :=
        mul_le_mul_of_nonneg_left hdenLower (zpow_pos (by norm_num) _).le
  rw [hunfold]
  push_cast at hmiddle
  split
  · rename_i hsmall
    rw [zpow_sub_one₀ (by norm_num)]
    have hlt := hmiddle.mp hsmall
    constructor <;> linarith
  · rename_i hlarge
    exact ⟨not_lt.mp (mt hmiddle.mpr hlarge), hupper⟩

/-- A quotient below a number of 53 bits is rounded to such a number, or to the next one. -/
theorem roundQuotient_le {bound : Nat} (hden : 0 < den) (h : num < den * bound) :
    roundQuotient num den ≤ bound := by
  have hupper := (roundQuotient_bounds num hden).1
  have hlt : den * roundQuotient num den < den * (bound + 1) := by
    rw [Nat.mul_add]
    omega
  exact Nat.lt_add_one_iff.mp (Nat.lt_of_mul_lt_mul_left hlt)

theorem le_roundQuotient {bound : Nat} (hden : 0 < den) (h : den * bound ≤ num) :
    bound ≤ roundQuotient num den := by
  have hlower := (roundQuotient_bounds num hden).2
  have hlt : den * bound < den * (roundQuotient num den + 1) := by
    rw [Nat.mul_add]
    omega
  exact Nat.lt_add_one_iff.mp (Nat.lt_of_mul_lt_mul_left hlt)

/-- The mantissa of a quotient at an exponent. -/
def roundedAt (num den : Nat) (exponent : Int) : Nat :=
  roundQuotient (scaleRatio num den exponent).1 (scaleRatio num den exponent).2

theorem ofRatio_eq (negative : Bool) (hnum : num ≠ 0) {exponent : Int}
    (hexponent : exponent = max (normalExponent num den) leastExponent) :
    ofRatio negative num den =
      if roundedAt num den exponent = 2 ^ 53 then
        if exponent + 1 ≤ greatestExponent then some ⟨negative, 2 ^ 52, exponent + 1⟩ else none
      else if exponent ≤ greatestExponent then some ⟨negative, roundedAt num den exponent, exponent⟩
      else none := by
  rw [ofRatio, if_neg hnum, ← hexponent, roundedAt]
  -- The exponent is a variable from here on: its definition must not be computed with.
  clear hexponent
  dsimp only
  generalize roundQuotient _ _ = rounded
  by_cases hcarry : rounded = 2 ^ 53
  · rw [if_pos hcarry, if_pos hcarry]
  · rw [if_neg hcarry, if_neg hcarry]

/-- The mantissa of a rounded quotient has 53 bits or is the next power of two; only at the least
exponent it may have fewer bits. -/
theorem roundedAt_bounds (hnum : 0 < num) (hden : 0 < den) {exponent : Int}
    (hexponent : exponent = max (normalExponent num den) leastExponent) :
    roundedAt num den exponent ≤ 2 ^ 53 ∧
      (2 ^ 52 ≤ roundedAt num den exponent ∨ exponent = leastExponent) := by
  obtain ⟨hlower, hupper⟩ := normalExponent_bounds hnum hden
  have hle : normalExponent num den ≤ exponent := hexponent ▸ le_max_left _ _
  constructor
  · refine roundQuotient_le (scaleRatio_pos exponent hden)
      ((scaleRatio_lt_iff exponent hden _).mpr ?_)
    push_cast
    exact hupper.trans_le
      (mul_le_mul_of_nonneg_left (zpow_le_zpow_right₀ (by norm_num) hle) (by norm_num))
  · obtain hnormal | hleast := max_choice (normalExponent num den) leastExponent
    · left
      rw [hexponent, hnormal]
      refine le_roundQuotient (scaleRatio_pos _ hden) (not_lt.mp ?_)
      rw [scaleRatio_lt_iff _ hden]
      push_cast
      exact hlower.not_gt
    · exact .inr (hexponent.trans hleast)

/-- The double of a quotient is canonical. -/
theorem ofRatio_canonical {negative : Bool} {x : Double} (hden : 0 < den)
    (h : ofRatio negative num den = some x) : x.Canonical := by
  by_cases hnum : num = 0
  · rw [ofRatio, if_pos hnum] at h
    cases h
    exact ⟨Nat.two_pow_pos 53, le_rfl, .inr rfl⟩
  · obtain ⟨hle, hnormal⟩ := roundedAt_bounds (Nat.pos_of_ne_zero hnum) hden rfl
    rw [ofRatio_eq negative hnum rfl] at h
    have hleast : leastExponent ≤ max (normalExponent num den) leastExponent := le_max_right _ _
    generalize max (normalExponent num den) leastExponent = exponent at h hle hnormal hleast
    split at h
    · split at h
      · cases h
        exact ⟨Nat.pow_lt_pow_right (by decide) (by decide),
          hleast.trans (Int.le_add_one le_rfl), .inl (Nat.le_refl _)⟩
      · cases h
    · rename_i hcarry
      split at h
      · cases h
        exact ⟨lt_of_le_of_ne hle hcarry, hleast, hnormal⟩
      · cases h

end

/-! ## Doubles of decimals -/

theorem Canonical.with_sign {x : Double} (h : x.Canonical) (negative : Bool) :
    ({ x with negative } : Double).Canonical :=
  ⟨h.mantissa_lt, h.leastExponent_le, h.isNormal⟩

theorem ofNat?_canonical {n : Nat} {x : Double} (h : ofNat? n = some x) : x.Canonical :=
  ofRatio_canonical Nat.one_pos h

theorem div_canonical {x y z : Double} (h : x.div y = some z) : z.Canonical := by
  unfold div at h
  dsimp only at h
  split at h
  · cases h
  · rename_i hne
    exact ofRatio_canonical (Nat.mul_pos (ratio_pos x) (Nat.pos_of_ne_zero hne)) h

end Double

namespace Decimal

open Double

/-- The double of a decimal is canonical. -/
theorem toDouble?_canonical {x : Decimal} {y : Double} (h : x.toDouble? = some y) :
    y.Canonical := by
  unfold toDouble? at h
  dsimp only at h
  split at h
  · obtain ⟨magnitude, hmagnitude, hy⟩ := Option.bind_eq_some_iff.mp h
    cases hy
    exact (ofNat?_canonical hmagnitude).with_sign _
  · obtain ⟨whole, hwhole, hrest⟩ := Option.bind_eq_some_iff.mp h
    obtain ⟨power, hpower, hrest⟩ := Option.bind_eq_some_iff.mp hrest
    obtain ⟨fraction, hfraction, hrest⟩ := Option.bind_eq_some_iff.mp hrest
    obtain ⟨places, hplaces, hrest⟩ := Option.bind_eq_some_iff.mp hrest
    split at hrest
    · cases hrest
      exact (ofNat?_canonical hwhole).with_sign _
    · obtain ⟨sum, hsum, hrest⟩ := Option.bind_eq_some_iff.mp hrest
      obtain ⟨product, hproduct, hrest⟩ := Option.bind_eq_some_iff.mp hrest
      obtain ⟨rounded, hrounded, hrest⟩ := Option.bind_eq_some_iff.mp hrest
      obtain ⟨magnitude, hmagnitude, hy⟩ := Option.bind_eq_some_iff.mp hrest
      cases hy
      exact (div_canonical hmagnitude).with_sign _

end Decimal

end DocumentMapping
