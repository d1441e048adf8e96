import Mathlib.Algebra.Order.Field.Power
import Mathlib.Algebra.Order.Field.Rat
import Mathlib.Tactic.FieldSimp
import Mathlib.Tactic.Linarith
import Mathlib.Tactic.NormNum
import Mathlib.Tactic.Ring
import DocumentMapping.Number.Shortest

/-!
# The numbers that round to a double

A positive double is the nearest one to all numbers between the midpoints to its two neighbours. The
midpoints themselves belong to the neighbour with an even mantissa, so each number belongs to one
double at most.
-/

namespace DocumentMapping.Double

/-- A double in the form that arithmetic gives: the mantissa has 53 bits, or fewer at the least
exponent. -/
structure Canonical (x : Double) : Prop where
  mantissa_lt : x.mantissa < 2 ^ 53
  leastExponent_le : leastExponent ≤ x.exponent
  isNormal : 2 ^ 52 ≤ x.mantissa ∨ x.exponent = leastExponent

/-- The magnitude of a double as a rational number. -/
def magnitude (x : Double) : ℚ :=
  x.mantissa * 2 ^ x.exponent

/-- The midpoint between a positive double and the next greater one. -/
def upperMidpoint (x : Double) : ℚ :=
  (2 * x.mantissa + 1) * 2 ^ (x.exponent - 1)

/-- The midpoint between a positive double and the next smaller one, which is only half as far away
where the exponent changes. -/
def lowerMidpoint (x : Double) : ℚ :=
  if x.mantissa = 2 ^ 52 ∧ leastExponent < x.exponent then
    (4 * x.mantissa - 1) * 2 ^ (x.exponent - 2)
  else
    (2 * x.mantissa - 1) * 2 ^ (x.exponent - 1)

/-- A number rounds to a positive double. -/
def Contains (x : Double) (q : ℚ) : Prop :=
  if x.mantissa % 2 = 0 then x.lowerMidpoint ≤ q ∧ q ≤ x.upperMidpoint
  else x.lowerMidpoint < q ∧ q < x.upperMidpoint

/-! ## Quotients of naturals -/

section

variable (mantissa : Nat) (exponent : Int) (digits : Nat)

/-- A decimal as a quotient of naturals. -/
def decimalRatio : Nat × Nat :=
  if 0 ≤ exponent then (digits * 10 ^ exponent.toNat, 1) else (digits, 10 ^ (-exponent).toNat)

theorem decimalRatio_pos : 0 < (decimalRatio exponent digits).2 := by
  unfold decimalRatio
  split
  · exact Nat.one_pos
  · exact Nat.pow_pos (by decide)

theorem decimalRatio_eq :
    ((decimalRatio exponent digits).1 : ℚ) / (decimalRatio exponent digits).2 =
      digits * 10 ^ exponent := by
  unfold decimalRatio
  split
  · rename_i hpos
    obtain ⟨n, rfl⟩ := Int.eq_ofNat_of_zero_le hpos
    simp
  · rename_i hneg
    obtain ⟨n, hn⟩ := Int.eq_ofNat_of_zero_le (by omega : 0 ≤ -exponent)
    rw [hn, show exponent = -(n : ℤ) by omega, zpow_neg, div_eq_mul_inv]
    simp

end

theorem ratio_pos (x : Double) : 0 < x.ratio.2 := by
  unfold ratio
  split
  · exact Nat.one_pos
  · exact Nat.two_pow_pos _

theorem magnitude_eq_ratio (x : Double) : x.magnitude = x.ratio.1 / x.ratio.2 := by
  unfold ratio magnitude
  split
  · rename_i hpos
    obtain ⟨n, hn⟩ := Int.eq_ofNat_of_zero_le hpos
    rw [hn]
    simp
  · rename_i hneg
    obtain ⟨n, hn⟩ := Int.eq_ofNat_of_zero_le (by omega : 0 ≤ -x.exponent)
    rw [hn, show x.exponent = -(n : ℤ) by omega, zpow_neg, div_eq_mul_inv]
    simp

theorem le_iff_mul_le_mul {a b c d : Nat} (hb : 0 < b) (hd : 0 < d) :
    a * d ≤ c * b ↔ (a : ℚ) / b ≤ (c : ℚ) / d := by
  rw [div_le_div_iff₀ (by exact_mod_cast hb) (by exact_mod_cast hd)]
  exact_mod_cast Iff.rfl

theorem lt_iff_mul_lt_mul {a b c d : Nat} (hb : 0 < b) (hd : 0 < d) :
    a * d < c * b ↔ (a : ℚ) / b < (c : ℚ) / d := by
  rw [div_lt_div_iff₀ (by exact_mod_cast hb) (by exact_mod_cast hd)]
  exact_mod_cast Iff.rfl

/-! ## Reading back -/

section

variable {x : Double}

/-- The double whose magnitude is the lower midpoint. -/
def below (x : Double) : Double :=
  if x.mantissa = 2 ^ 52 ∧ leastExponent < x.exponent then
    ⟨false, 4 * x.mantissa - 1, x.exponent - 2⟩
  else
    ⟨false, 2 * x.mantissa - 1, x.exponent - 1⟩

theorem magnitude_below (hpos : 0 < x.mantissa) : x.below.magnitude = x.lowerMidpoint := by
  unfold below lowerMidpoint magnitude
  split
  · push_cast [show 1 ≤ 4 * x.mantissa by omega]
    rfl
  · push_cast [show 1 ≤ 2 * x.mantissa by omega]
    rfl

/-- The double whose magnitude is the upper midpoint. -/
def above (x : Double) : Double :=
  ⟨false, 2 * x.mantissa + 1, x.exponent - 1⟩

theorem magnitude_above (x : Double) : x.above.magnitude = x.upperMidpoint := by
  simp [above, magnitude, upperMidpoint]

theorem roundsBack_iff (hpos : 0 < x.mantissa) (digits : Nat) (exponent : Int) :
    x.roundsBack digits exponent = true ↔ x.Contains (digits * 10 ^ exponent) := by
  have hq := decimalRatio_pos exponent digits
  have ha := ratio_pos x.above
  have hb := ratio_pos x.below
  have hunfold : x.roundsBack digits exponent =
      if x.mantissa % 2 = 0 then
        decide ((decimalRatio exponent digits).1 * x.above.ratio.2 ≤
          x.above.ratio.1 * (decimalRatio exponent digits).2) &&
        decide (x.below.ratio.1 * (decimalRatio exponent digits).2 ≤
          (decimalRatio exponent digits).1 * x.below.ratio.2)
      else
        decide ((decimalRatio exponent digits).1 * x.above.ratio.2 <
          x.above.ratio.1 * (decimalRatio exponent digits).2) &&
        decide (x.below.ratio.1 * (decimalRatio exponent digits).2 <
          (decimalRatio exponent digits).1 * x.below.ratio.2) := rfl
  rw [hunfold, Contains, ← decimalRatio_eq, ← magnitude_below hpos, ← magnitude_above,
    magnitude_eq_ratio, magnitude_eq_ratio, ← le_iff_mul_le_mul hb hq, ← le_iff_mul_le_mul hq ha,
    ← lt_iff_mul_lt_mul hb hq, ← lt_iff_mul_lt_mul hq ha]
  split
  · simp [and_comm]
  · simp [and_comm]

end

/-! ## The bounds of an interval -/

section

variable {x : Double} {q : ℚ}

theorem upperMidpoint_eq (x : Double) : x.upperMidpoint = x.magnitude + 2 ^ x.exponent / 2 := by
  rw [upperMidpoint, magnitude, zpow_sub_one₀ (by norm_num)]
  ring

theorem lowerMidpoint_eq (x : Double) :
    x.lowerMidpoint = if x.mantissa = 2 ^ 52 ∧ leastExponent < x.exponent then
      x.magnitude - 2 ^ x.exponent / 4 else x.magnitude - 2 ^ x.exponent / 2 := by
  unfold lowerMidpoint magnitude
  split
  · rw [zpow_sub₀ (by norm_num)]
    ring
  · rw [zpow_sub_one₀ (by norm_num)]
    ring

theorem le_lowerMidpoint (x : Double) : x.magnitude - 2 ^ x.exponent / 2 ≤ x.lowerMidpoint := by
  have hpow : (0 : ℚ) < 2 ^ x.exponent := zpow_pos (by norm_num) _
  rw [lowerMidpoint_eq]
  split <;> linarith

theorem lowerMidpoint_pos (hpos : 0 < x.mantissa) : 0 < x.lowerMidpoint := by
  have hm : (1 : ℚ) ≤ x.mantissa := by exact_mod_cast hpos
  unfold lowerMidpoint
  split
  · exact mul_pos (by linarith) (zpow_pos (by norm_num) _)
  · exact mul_pos (by linarith) (zpow_pos (by norm_num) _)

theorem Contains.lower_le (h : x.Contains q) : x.lowerMidpoint ≤ q := by
  unfold Contains at h
  split at h
  · exact h.1
  · exact h.1.le

theorem Contains.le_upper (h : x.Contains q) : q ≤ x.upperMidpoint := by
  unfold Contains at h
  split at h
  · exact h.2
  · exact h.2.le

theorem Contains.pos (h : x.Contains q) (hpos : 0 < x.mantissa) : 0 < q :=
  (lowerMidpoint_pos hpos).trans_le h.lower_le

theorem contains_of_lt (hlower : x.lowerMidpoint < q) (hupper : q < x.upperMidpoint) :
    x.Contains q := by
  unfold Contains
  split
  · exact ⟨hlower.le, hupper.le⟩
  · exact ⟨hlower, hupper⟩

theorem Contains.lower_lt (h : x.Contains q) (hodd : x.mantissa % 2 = 1) : x.lowerMidpoint < q := by
  rw [Contains, if_neg (by omega)] at h
  exact h.1

theorem Contains.lt_upper (h : x.Contains q) (hodd : x.mantissa % 2 = 1) : q < x.upperMidpoint := by
  rw [Contains, if_neg (by omega)] at h
  exact h.2

end

/-! ## Different doubles have no number in common -/

section

variable {x y : Double} {q : ℚ}

/-- With one exponent, a smaller mantissa stands for smaller numbers. -/
theorem not_contains_of_mantissa_lt (hx : x.Canonical)
    (hexp : x.exponent = y.exponent) (hlt : x.mantissa < y.mantissa) (hq : x.Contains q) :
    ¬y.Contains q := by
  intro hq'
  have hpow : (0 : ℚ) < 2 ^ (y.exponent - 1) := zpow_pos (by norm_num) _
  have hlower : y.lowerMidpoint = (2 * y.mantissa - 1) * 2 ^ (y.exponent - 1) := by
    refine if_neg ?_
    rintro ⟨hbound, hleast⟩
    have hnormal := hx.isNormal.resolve_right (by omega)
    omega
  have hle : (x.mantissa : ℚ) + 1 ≤ y.mantissa := by exact_mod_cast hlt
  have hmid : x.upperMidpoint ≤ y.lowerMidpoint := by
    rw [hlower, upperMidpoint, hexp]
    exact mul_le_mul_of_nonneg_right (by linarith) hpow.le
  -- The midpoint in common belongs to one of the two, since their mantissas have different parity.
  by_cases hnext : y.mantissa = x.mantissa + 1
  · rcases Nat.mod_two_eq_zero_or_one x.mantissa with heven | hodd
    · exact absurd (hq'.lower_lt (by omega)) (hq.le_upper.trans hmid).not_gt
    · exact absurd (hq.lt_upper hodd) (hmid.trans hq'.lower_le).not_gt
  · have hgap : (x.mantissa : ℚ) + 2 ≤ y.mantissa := by
      have : x.mantissa + 2 ≤ y.mantissa := by omega
      exact_mod_cast this
    have hstrict : x.upperMidpoint < y.lowerMidpoint := by
      rw [hlower, upperMidpoint, hexp]
      exact mul_lt_mul_of_pos_right (by linarith) hpow
    exact absurd (hq'.lower_le.trans hq.le_upper) hstrict.not_ge

/-- A smaller exponent stands for smaller numbers. -/
theorem not_contains_of_exponent_lt (hx : x.Canonical) (hy : y.Canonical)
    (hlt : x.exponent < y.exponent) (hq : x.Contains q) : ¬y.Contains q := by
  intro hq'
  have hnormal : 2 ^ 52 ≤ y.mantissa := by
    refine hy.isNormal.resolve_right ?_
    have := hx.leastExponent_le
    omega
  have hpow : (0 : ℚ) < 2 ^ (x.exponent - 1) := zpow_pos (by norm_num) _
  have hgrow : (2 : ℚ) ^ (x.exponent - 1) ≤ 2 ^ (y.exponent - 2) :=
    zpow_le_zpow_right₀ (by norm_num) (by omega)
  have hdouble : (2 : ℚ) ^ (y.exponent - 1) = 2 * 2 ^ (y.exponent - 2) := by
    rw [show y.exponent - 1 = 1 + (y.exponent - 2) by ring, zpow_add₀ (by norm_num), zpow_one]
  have hupper : x.upperMidpoint ≤ (2 ^ 54 - 1) * 2 ^ (x.exponent - 1) := by
    have hbound : (x.mantissa : ℚ) + 1 ≤ 2 ^ 53 := by exact_mod_cast hx.mantissa_lt
    exact mul_le_mul_of_nonneg_right (by linarith) hpow.le
  have hpow' : (0 : ℚ) < 2 ^ (y.exponent - 2) := zpow_pos (by norm_num) _
  have hlower : (2 ^ 54 - 1) * 2 ^ (y.exponent - 2) ≤ y.lowerMidpoint := by
    unfold lowerMidpoint
    split
    · have hbound : (2 ^ 52 : ℚ) ≤ y.mantissa := by exact_mod_cast hnormal
      exact mul_le_mul_of_nonneg_right (by linarith) hpow'.le
    · rename_i hinner
      have hleast := hx.leastExponent_le
      have hbound : (2 ^ 52 + 1 : ℚ) ≤ y.mantissa := by
        have : 2 ^ 52 + 1 ≤ y.mantissa := by omega
        exact_mod_cast this
      rw [hdouble, ← mul_assoc]
      exact mul_le_mul_of_nonneg_right (by linarith) hpow'.le
  have hmiddle : (2 ^ 54 - 1 : ℚ) * 2 ^ (x.exponent - 1) ≤ (2 ^ 54 - 1) * 2 ^ (y.exponent - 2) :=
    mul_le_mul_of_nonneg_left hgrow (by norm_num)
  -- The greatest mantissa is odd, so the greatest midpoint does not belong to the smaller double.
  rcases Nat.mod_two_eq_zero_or_one x.mantissa with heven | hodd
  · have hbound : (x.mantissa : ℚ) + 2 ≤ 2 ^ 53 := by
      have : x.mantissa + 2 ≤ 2 ^ 53 := by
        have := hx.mantissa_lt
        omega
      exact_mod_cast this
    have hstrict : x.upperMidpoint < (2 ^ 54 - 1) * 2 ^ (x.exponent - 1) :=
      mul_lt_mul_of_pos_right (by linarith) hpow
    linarith [hq.le_upper, hq'.lower_le]
  · linarith [hq.lt_upper hodd, hq'.lower_le]

/-- A number rounds to one canonical double at most. -/
theorem Contains.unique (hx : x.Canonical) (hy : y.Canonical) (h : x.Contains q)
    (h' : y.Contains q) : x.mantissa = y.mantissa ∧ x.exponent = y.exponent := by
  obtain hlt | hexp | hgt := lt_trichotomy x.exponent y.exponent
  · exact absurd h' (not_contains_of_exponent_lt hx hy hlt h)
  · obtain hlt | hmantissa | hgt := lt_trichotomy x.mantissa y.mantissa
    · exact absurd h' (not_contains_of_mantissa_lt hx hexp hlt h)
    · exact ⟨hmantissa, hexp⟩
    · exact absurd h (not_contains_of_mantissa_lt hy hexp.symm hgt h')
  · exact absurd h (not_contains_of_exponent_lt hy hx hgt h')

end

end DocumentMapping.Double
