import Mathlib.Algebra.Order.Field.Basic
import DocumentMapping.Proofs.Number.DecimalRange
import DocumentMapping.Proofs.Number.Rounding

/-!
# Doubles that stand for decimals

A decimal is given out as a double when the text of the double denotes the decimal. That double is
the one the decimal was read from, because different doubles have no number in common.
-/

namespace DocumentMapping

namespace Decimal

variable {x : Decimal} {y : Double}

/-- A plain form that is not read as a decimal denotes a number that is too large. -/
theorem two_pow_le_of_plainChars (hy : y.Canonical) (hplaces : (Double.shortest .up y).places ≤ 28)
    (h : ofPositional? y.plainChars = none) : 2 ^ 96 ≤ |y.decimalValue .up| := by
  have hfits := fits_plainNumeral hy hplaces
  have hdigits : 2 ^ 96 ≤ y.plainNumeral.digits := by
    by_contra hlt
    obtain ⟨_, hread, -⟩ := exists_ofPositional?_mainChars hfits (not_le.mp hlt)
    have hchars : y.plainNumeral.mainChars = y.plainChars := by
      rw [← y.plainNumeral_chars]
      exact (List.append_nil _).symm
    rw [← hchars, hread] at h
    cases h
  have hwhole : y.plainNumeral.places = [] := by
    by_contra hne
    exact absurd (hfits.digits_lt hne) (not_lt.mpr hdigits)
  have hpower : y.plainNumeral.power = none := rfl
  have hvalue : |y.plainNumeral.value| = y.plainNumeral.digits := by
    rw [Numeral.value, hwhole, hpower, mul_assoc, abs_sign_mul _ (by positivity)]
    simp
  rw [← y.plainNumeral_value, hvalue]
  exact_mod_cast hdigits

/-- A decimal given out as a double is the number that the plain form denotes. -/
theorem exactDouble?_eq_some (h : x.exactDouble? = some y) :
    x.toDouble? = some y ∧
      ((Double.shortest .up y).places ≤ 28 → y.decimalValue .up = x.value) := by
  obtain ⟨double, hdouble, hrest⟩ := Option.bind_eq_some_iff.mp h
  obtain ⟨back, hback, hsame⟩ := Option.bind_eq_some_iff.mp hrest
  split at hsame
  · rename_i heq
    cases hsame
    refine ⟨hdouble, fun hplaces => ?_⟩
    rw [← value_of_plainChars (toDouble?_canonical hdouble) hplaces hback]
    exact sameValue_iff.mp heq
  · cases hsame

/-- A decimal not given out as a double is not the number that the plain form denotes. -/
theorem exactDouble?_eq_none (h : x.exactDouble? = none) (hy : x.toDouble? = some y)
    (hplaces : (Double.shortest .up y).places ≤ 28) : y.decimalValue .up ≠ x.value := by
  intro hvalue
  have hcanonical := toDouble?_canonical hy
  rw [exactDouble?, hy] at h
  cases hback : ofPositional? y.plainChars with
  | none =>
    have hlarge := two_pow_le_of_plainChars hcanonical hplaces hback
    rw [hvalue] at hlarge
    exact absurd hlarge (not_le.mpr x.abs_value_lt)
  | some back =>
    have hsame : back.sameValue x = true := by
      rw [sameValue_iff, value_of_plainChars hcanonical hplaces hback, hvalue]
    simp [hback, hsame] at h

end Decimal

namespace Double

variable {x y : Double}

/-- Two doubles whose written forms denote one number are the same number. -/
theorem decimalValue_congr (hx : x.Canonical) (hy : y.Canonical)
    (h : y.decimalValue .up = x.decimalValue .even) :
    y.decimalValue .even = x.decimalValue .even := by
  have habs : (shortest .up y).value = (shortest .even x).value := by
    rw [← abs_decimalValue, ← abs_decimalValue, h]
  obtain hzero | hpos := Nat.eq_zero_or_pos y.mantissa
  · rw [← h, decimalValue, decimalValue, shortest_zero .even hzero, shortest_zero .up hzero]
  · have hq := shortest_value_pos .up hy hpos
    have hpos' : 0 < x.mantissa := by
      refine Nat.pos_of_ne_zero fun hzero => hpos.ne' ?_
      rwa [← decimalValue_eq_zero_iff hx, ← h, decimalValue_eq_zero_iff hy] at hzero
    obtain ⟨hmantissa, hexponent⟩ := Contains.unique hx hy
      (shortest_spec .even hx hpos').2.2 (habs ▸ (shortest_spec .up hy hpos).2.2)
    have hnegative : y.negative = x.negative := by
      rw [decimalValue, decimalValue, ← habs] at h
      exact sign_eq_of_mul_eq hq h
    have heq : y = x := by
      cases x
      cases y
      rw [Double.mk.injEq]
      exact ⟨hnegative, hmantissa.symm, hexponent.symm⟩
    rw [heq]

/-- The written forms of a double denote one number where the doubles are integers. -/
theorem decimalValue_up_eq_even (hy : y.Canonical) (hlarge : 2 ^ 53 ≤ |y.decimalValue .up|) :
    y.decimalValue .up = y.decimalValue .even := by
  rw [abs_decimalValue] at hlarge
  obtain hzero | hpos := Nat.eq_zero_or_pos y.mantissa
  · rw [decimalValue, decimalValue, shortest_zero .even hzero, shortest_zero .up hzero]
  · have hexponent : 0 ≤ y.exponent := by
      by_contra hneg
      have hupper := (shortest_spec .up hy hpos).2.2.le_upper
      have hmantissa : (y.mantissa : ℚ) + 1 ≤ 2 ^ 53 := by exact_mod_cast hy.mantissa_lt
      have hpow : (2 : ℚ) ^ (y.exponent - 1) ≤ 2 ^ (-2 : ℤ) :=
        zpow_le_zpow_right₀ (by norm_num) (by omega)
      have hmid : y.upperMidpoint ≤ (2 ^ 54 - 1) * 2 ^ (-2 : ℤ) :=
        mul_le_mul (by linarith) hpow (zpow_nonneg (by norm_num) _) (by norm_num)
      norm_num at hmid
      linarith
    rw [decimalValue, decimalValue, shortest_up_eq_even hpos hexponent]

end Double

end DocumentMapping
