import DocumentMapping.Number.DecimalArithmetic
import DocumentMapping.Proofs.Number.Numeral

/-!
# Decimals without places

A decimal without places stands for an integer. Sums, differences, products and remainders of such
decimals are those of the integers, as long as the mantissa has room for the result.
-/

namespace DocumentMapping.Decimal

/-- A decimal has no places and stands for an integer. -/
structure IsWhole (x : Decimal) (number : Int) : Prop where
  scale_eq : x.scale = 0
  signed_eq : x.signed = number

theorem natAbs_signed (x : Decimal) : x.signed.natAbs = x.mantissa := by
  unfold signed
  split <;> omega

theorem signed_neg (x : Decimal) : x.neg.signed = -x.signed := by
  unfold signed neg
  cases x.negative <;> simp

theorem isWhole_zero : zero.IsWhole 0 :=
  ⟨rfl, rfl⟩

theorem isWhole_ofInt64 (i : Int64) : (ofInt64 i).IsWhole i.toInt := by
  refine ⟨rfl, ?_⟩
  simp only [signed, ofInt64, decide_eq_true_eq]
  split <;> omega

namespace IsWhole

variable {x y : Decimal} {a b : Int}

theorem value_eq (hx : x.IsWhole a) : x.value = a := by
  rw [value_eq_signed, hx.scale_eq, hx.signed_eq, pow_zero, div_one]

theorem mantissa_eq (hx : x.IsWhole a) : x.mantissa = a.natAbs := by
  rw [← x.natAbs_signed, hx.signed_eq]

theorem negative_eq (hx : x.IsWhole a) (ha : a ≠ 0) : x.negative = decide (a < 0) := by
  obtain rfl := hx.signed_eq
  unfold signed at ha ⊢
  cases hnegative : x.negative <;> simp [hnegative] at ha ⊢
  omega

theorem isZero_eq (hx : x.IsWhole a) : x.isZero = decide (a = 0) := by
  rw [isZero, hx.mantissa_eq, Bool.eq_iff_iff, beq_iff_eq, decide_eq_true_iff, Int.natAbs_eq_zero]

theorem neg (hx : x.IsWhole a) : x.neg.IsWhole (-a) :=
  ⟨hx.scale_eq, by rw [signed_neg, hx.signed_eq]⟩

theorem abs (hx : x.IsWhole a) : x.abs.IsWhole a.natAbs :=
  ⟨hx.scale_eq, congrArg Nat.cast hx.mantissa_eq⟩

theorem unsignedZero (hx : x.IsWhole a) : x.unsignedZero.IsWhole a := by
  unfold Decimal.unsignedZero
  split
  · rename_i hzero
    obtain rfl : a = 0 := by simpa [hx.isZero_eq] using hzero
    exact hx.abs
  · exact hx

end IsWhole

/-! ## Results that fit -/

theorem fit?_zero (negative : Bool) (mantissa : Nat) :
    fit? negative mantissa 0 = ofParts? negative mantissa 0 := by
  have hexact : Double.roundQuotient mantissa 1 = mantissa := by
    simp [Double.roundQuotient, Nat.mod_one]
  simp [fit?, hexact]

/-- A sign and a mantissa make a decimal without places when the mantissa has room. -/
theorem ofParts?_isWhole (negative : Bool) {mantissa : Nat} (h : mantissa < 2 ^ 96) :
    ∃ x, ofParts? negative mantissa 0 = some x ∧
      x.IsWhole (if negative then -mantissa else mantissa) := by
  rw [ofParts?, dif_pos ⟨h, Nat.zero_le 28⟩]
  exact ⟨_, rfl, rfl, rfl⟩

theorem ofSigned?_isWhole {number : Int} (h : number.natAbs < 2 ^ 96) :
    ∃ x, ofSigned? number 0 = some x ∧ x.IsWhole number := by
  obtain ⟨x, hx, hwhole⟩ := ofParts?_isWhole (number < 0) h
  have hsigned : (if decide (number < 0) = true then -(number.natAbs : Int) else number.natAbs) =
      number := by
    simp only [decide_eq_true_eq]
    split <;> omega
  exact ⟨x, by rw [ofSigned?, fit?_zero, hx], hsigned ▸ hwhole⟩

/-! ## Operations -/

theorem tmod_eq_sign_mod (a b : Int) :
    a.tmod b = if a < 0 then -((a.natAbs % b.natAbs : ℕ) : Int) else (a.natAbs % b.natAbs : ℕ) := by
  cases a <;> cases b <;> simp [Int.tmod]

section

variable {x y : Decimal} {a b : Int} (hx : x.IsWhole a) (hy : y.IsWhole b)

include hx hy

theorem add?_isWhole (h : (a + b).natAbs < 2 ^ 96) :
    ∃ z, add? x y = some z ∧ z.IsWhole (a + b) := by
  rw [add?, hx.isZero_eq, hy.isZero_eq]
  by_cases ha : a = 0
  · exact ⟨y, by simp [ha], by simpa [ha] using hy⟩
  by_cases hb : b = 0
  · exact ⟨x, by simp [ha, hb], by simpa [hb] using hx⟩
  · obtain ⟨z, hz, hwhole⟩ := ofSigned?_isWhole h
    refine ⟨z, ?_, hwhole⟩
    simpa [ha, hb, hx.scale_eq, hy.scale_eq, hx.signed_eq, hy.signed_eq] using hz

theorem sub?_isWhole (h : (a - b).natAbs < 2 ^ 96) :
    ∃ z, sub? x y = some z ∧ z.IsWhole (a - b) := by
  rw [sub?, hx.isZero_eq, hy.isZero_eq]
  by_cases ha : a = 0
  · by_cases hb : b = 0
    · exact ⟨y, by simp [ha, hb], by simpa [ha, hb] using hy⟩
    · exact ⟨y.neg, by simp [ha, hb], by simpa [ha] using hy.neg⟩
  by_cases hb : b = 0
  · exact ⟨x, by simp [ha, hb], by simpa [hb] using hx⟩
  · obtain ⟨z, hz, hwhole⟩ := ofSigned?_isWhole h
    refine ⟨z, ?_, hwhole⟩
    simpa [ha, hb, hx.scale_eq, hy.scale_eq, hx.signed_eq, hy.signed_eq] using hz

/-- The product of factors other than zero is that of the mantissas, if it fits. -/
theorem mul?_eq_or (hne : ¬(a = 0 ∨ b = 0)) :
    let product := ofParts? (x.negative != y.negative) (a * b).natAbs 0
    mul? x y = product ∨ mul? x y = product.map Decimal.unsignedZero := by
  intro product
  have hproduct : fit? (x.negative != y.negative) (x.mantissa * y.mantissa) (x.scale + y.scale) =
      product := by
    rw [hx.scale_eq, hy.scale_eq, hx.mantissa_eq, hy.mantissa_eq, ← Int.natAbs_mul, fit?_zero]
  have hplaces : ¬47 < x.scale + y.scale := by
    rw [hx.scale_eq, hy.scale_eq]
    decide
  rw [mul?, hproduct, hx.isZero_eq, hy.isZero_eq, if_neg (by simpa using hne), if_neg hplaces]
  split
  · exact .inr rfl
  · exact .inl rfl

theorem mul?_isWhole (h : (a * b).natAbs < 2 ^ 96) :
    ∃ z, mul? x y = some z ∧ z.IsWhole (a * b) := by
  by_cases hzero : a = 0 ∨ b = 0
  · have hproduct : a * b = 0 := mul_eq_zero.mpr hzero
    refine ⟨zero, ?_, hproduct ▸ isWhole_zero⟩
    rw [mul?, hx.isZero_eq, hy.isZero_eq, if_pos (by simpa using hzero)]
  · obtain ⟨z, hz, hwhole⟩ := ofParts?_isWhole (x.negative != y.negative) h
    have hsigned : (if (x.negative != y.negative) = true then -((a * b).natAbs : Int)
        else (a * b).natAbs) = a * b := by
      rw [← hx.signed_eq, ← hy.signed_eq, Int.natAbs_mul, natAbs_signed, natAbs_signed, signed,
        signed]
      cases x.negative <;> cases y.negative <;> simp
    rw [hsigned] at hwhole
    rcases mul?_eq_or hx hy hzero with hmul | hmul
    · exact ⟨z, hmul.trans hz, hwhole⟩
    · exact ⟨z.unsignedZero, by rw [hmul, hz, Option.map_some], hwhole.unsignedZero⟩

theorem mul?_eq_none (h : 2 ^ 96 ≤ (a * b).natAbs) : mul? x y = none := by
  have hnone : ofParts? (x.negative != y.negative) (a * b).natAbs 0 = none :=
    dif_neg fun hfits => absurd hfits.1 (not_lt.mpr h)
  have hne : ¬(a = 0 ∨ b = 0) := by
    intro hzero
    rw [mul_eq_zero.mpr hzero] at h
    exact absurd h (by decide)
  rcases mul?_eq_or hx hy hne with hmul | hmul
  · exact hmul.trans hnone
  · rw [hmul, hnone, Option.map_none]

/-- A remainder has the sign of the dividend. -/
theorem rem?_isWhole (hb : b ≠ 0) (hsmall : b.natAbs < 2 ^ 64) :
    ∃ z, rem? x y = some z ∧ z.IsWhole (a.tmod b) := by
  by_cases ha : a = 0
  · refine ⟨zero, by simp [rem?, hx.isZero_eq, hy.isZero_eq, ha, hb], ?_⟩
    rw [ha, Int.zero_tmod]
    exact isWhole_zero
  have hrem : rem? x y =
      if a.natAbs = b.natAbs then some zero
      else if a.natAbs < b.natAbs then some x
      else (ofParts? x.negative (a.natAbs % b.natAbs) 0).map Decimal.unsignedZero := by
    simp [rem?, hx.isZero_eq, hy.isZero_eq, ha, hb, hx.scale_eq, hy.scale_eq, hx.mantissa_eq,
      hy.mantissa_eq, hsmall]
  have hmod : a.tmod b = if x.negative then -((a.natAbs % b.natAbs : ℕ) : Int)
      else (a.natAbs % b.natAbs : ℕ) := by
    rw [tmod_eq_sign_mod, hx.negative_eq ha]
    simp only [decide_eq_true_eq]
  rw [hrem]
  split
  · rename_i heq
    refine ⟨zero, rfl, ?_⟩
    rw [hmod, heq, Nat.mod_self]
    simpa using isWhole_zero
  split
  · rename_i hlt
    have hself : a.tmod b = a := by
      rw [hmod, Nat.mod_eq_of_lt hlt, ← hx.mantissa_eq]
      exact hx.signed_eq
    refine ⟨x, rfl, ?_⟩
    rw [hself]
    exact hx
  · have hrest : a.natAbs % b.natAbs < 2 ^ 96 := by
      have := Nat.mod_lt a.natAbs (Int.natAbs_pos.mpr hb)
      omega
    obtain ⟨z, hz, hwhole⟩ := ofParts?_isWhole x.negative hrest
    refine ⟨z.unsignedZero, by rw [hz, Option.map_some], ?_⟩
    rw [hmod]
    exact hwhole.unsignedZero

end

end DocumentMapping.Decimal
