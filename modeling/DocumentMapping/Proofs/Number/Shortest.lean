import Mathlib.Data.Nat.Prime.Basic
import DocumentMapping.Proofs.Number.Digits
import DocumentMapping.Proofs.Number.Interval

/-!
# The shortest decimal reads back

Some decimal of at most seventeen digits rounds to each double: a grid of seventeen digits is finer
than the distance of two doubles. So the search always finds one. Which neighbour an equally near
decimal is taken from makes no difference for doubles that are integers.
-/

namespace DocumentMapping

/-- The number that a decimal stands for. -/
def DecimalDigits.value (d : DecimalDigits) : ℚ :=
  d.digits * 10 ^ d.exponent

namespace Double

/-! ## The first digit -/

section

variable {num den : Nat}

theorem ten_zpow_leadingExponent_le (hnum : 0 < num) (hden : 0 < den) :
    (10 : ℚ) ^ leadingExponent num den ≤ num / den := by
  have hden' : (0 : ℚ) < den := by exact_mod_cast hden
  rw [le_div_iff₀ hden']
  unfold leadingExponent
  split
  · rename_i hle
    have hquotient : 0 < num / den := Nat.div_pos hle hden
    have hpow := ten_pow_pred_length_le hquotient
    have hlength := digitChars_length_pos (num / den)
    rw [← digitChars, show ((digitChars (num / den)).length : ℤ) - 1 =
      ((digitChars (num / den)).length - 1 : ℕ) by omega, zpow_natCast]
    exact_mod_cast (Nat.mul_le_mul_right den hpow).trans (Nat.div_mul_le_self num den)
  · rename_i hlt
    have hpow := lt_ten_pow_length ((den - 1) / num)
    rw [Nat.div_lt_iff_lt_mul hnum] at hpow
    rw [← digitChars, zpow_neg, zpow_natCast, inv_mul_le_iff₀ (by positivity)]
    exact_mod_cast (by omega : den ≤ 10 ^ (digitChars ((den - 1) / num)).length * num)

theorem lt_ten_zpow_leadingExponent (hnum : 0 < num) (hden : 0 < den) :
    (num : ℚ) / den < 10 ^ (leadingExponent num den + 1) := by
  have hden' : (0 : ℚ) < den := by exact_mod_cast hden
  rw [div_lt_iff₀ hden']
  unfold leadingExponent
  split
  · have hpow := lt_ten_pow_length (num / den)
    rw [Nat.div_lt_iff_lt_mul hden] at hpow
    rw [← digitChars, sub_add_cancel, zpow_natCast]
    exact_mod_cast hpow
  · rename_i hlt
    have hquotient : 0 < (den - 1) / num := Nat.div_pos (by omega) hnum
    have hpow := ten_pow_pred_length_le hquotient
    have hlength := digitChars_length_pos ((den - 1) / num)
    rw [← digitChars, show -((digitChars ((den - 1) / num)).length : ℤ) + 1 =
      -((digitChars ((den - 1) / num)).length - 1 : ℕ) by omega, zpow_neg, zpow_natCast,
      lt_inv_mul_iff₀ (by positivity)]
    have hle := (Nat.mul_le_mul_right num hpow).trans (Nat.div_mul_le_self (den - 1) num)
    exact_mod_cast (by omega :
      10 ^ ((digitChars ((den - 1) / num)).length - 1) * num < den)

end

/-! ## The nearest integer -/

theorem roundQuotient_bounds (num : Nat) {den : Nat} (hden : 0 < den) :
    2 * (den * roundQuotient num den) ≤ 2 * num + den ∧
      2 * num ≤ 2 * (den * roundQuotient num den) + den := by
  have hsplit := Nat.div_add_mod num den
  have hmod := Nat.mod_lt num hden
  unfold roundQuotient
  dsimp only
  split
  · omega
  · split
    · rw [Nat.mul_add]
      omega
    · rcases Nat.mod_two_eq_zero_or_one (num / den) with heven | hodd
      · rw [heven, Nat.mul_add]
        omega
      · rw [hodd, Nat.mul_add]
        omega

theorem nearest_bounds (tie : TieRule) (num : Nat) {den : Nat} (hden : 0 < den) :
    2 * (den * nearest tie num den) ≤ 2 * num + den ∧
      2 * num ≤ 2 * (den * nearest tie num den) + den := by
  cases tie with
  | even => exact roundQuotient_bounds num hden
  | up =>
    have hsplit := Nat.div_add_mod (2 * num + den) (2 * den)
    have hmod := Nat.mod_lt (2 * num + den) (by omega : 0 < 2 * den)
    rw [Nat.mul_assoc] at hsplit
    rw [nearest]
    omega

/-- The nearest integer to a quotient is one of the two integers around it. -/
theorem nearest_eq_or (tie : TieRule) (num : Nat) {den : Nat} (hden : 0 < den) :
    nearest tie num den = num / den ∨ nearest tie num den = num / den + 1 := by
  have hbounds := nearest_bounds tie num hden
  have hsplit := Nat.div_add_mod num den
  have hmod := Nat.mod_lt num hden
  have hle : nearest tie num den ≤ num / den + 1 := by
    refine Nat.lt_add_one_iff.mp (Nat.lt_of_mul_lt_mul_left (a := den) ?_)
    rw [Nat.mul_add, Nat.mul_add]
    omega
  have hge : num / den ≤ nearest tie num den := by
    refine Nat.lt_add_one_iff.mp (Nat.lt_of_mul_lt_mul_left (a := den) ?_)
    rw [Nat.mul_add]
    omega
  omega

/-! ## Grids -/

section

variable {x : Double} {exponent : Int} {found : Nat}

/-- The magnitude of a double in units of a power of ten, as a quotient of naturals. -/
def gridRatio (x : Double) (exponent : Int) : Nat × Nat :=
  if 0 ≤ exponent then (x.ratio.1, x.ratio.2 * 10 ^ exponent.toNat)
  else (x.ratio.1 * 10 ^ (-exponent).toNat, x.ratio.2)

theorem gridRatio_pos (x : Double) (exponent : Int) : 0 < (x.gridRatio exponent).2 := by
  unfold gridRatio
  split
  · exact Nat.mul_pos (ratio_pos x) (Nat.pow_pos (by decide))
  · exact ratio_pos x

theorem gridRatio_eq (x : Double) (exponent : Int) :
    ((x.gridRatio exponent).1 : ℚ) / (x.gridRatio exponent).2 = x.magnitude / 10 ^ exponent := by
  rw [magnitude_eq_ratio, div_div]
  unfold gridRatio
  split
  · rename_i hpos
    obtain ⟨n, rfl⟩ := Int.eq_ofNat_of_zero_le hpos
    simp
  · rename_i hneg
    obtain ⟨n, hn⟩ := Int.eq_ofNat_of_zero_le (by omega : 0 ≤ -exponent)
    rw [hn, show exponent = -(n : ℤ) by omega, zpow_neg, ← div_div, div_inv_eq_mul,
      div_mul_eq_mul_div]
    simp

theorem onGrid?_eq (tie : TieRule) (x : Double) (exponent : Int) :
    onGrid? tie x exponent =
      let low := (x.gridRatio exponent).1 / (x.gridRatio exponent).2
      let nearer := nearest tie (x.gridRatio exponent).1 (x.gridRatio exponent).2
      let farther := if nearer = low then low + 1 else low
      if nearer ≠ 0 && x.roundsBack nearer exponent then some nearer
      else if farther ≠ 0 && x.roundsBack farther exponent then some farther
      else none := rfl

theorem onGrid?_some {tie : TieRule} (h : onGrid? tie x exponent = some found) :
    found ≠ 0 ∧ x.roundsBack found exponent = true ∧
      found ≤ (x.gridRatio exponent).1 / (x.gridRatio exponent).2 + 1 := by
  rw [onGrid?_eq] at h
  have hnearest := nearest_eq_or tie (x.gridRatio exponent).1 (gridRatio_pos x exponent)
  generalize nearest tie (x.gridRatio exponent).1 (x.gridRatio exponent).2 = nearer at h hnearest
  generalize (x.gridRatio exponent).1 / (x.gridRatio exponent).2 = low at h hnearest ⊢
  have hfarther : (if nearer = low then low + 1 else low) ≤ low + 1 := by split <;> omega
  dsimp only at h
  generalize (if nearer = low then low + 1 else low) = farther at h hfarther
  split at h
  · rename_i hnearer
    cases h
    simp only [Bool.and_eq_true, decide_eq_true_eq] at hnearer
    exact ⟨hnearer.1, hnearer.2, by omega⟩
  · split at h
    · rename_i hback
      cases h
      simp only [Bool.and_eq_true, decide_eq_true_eq] at hback
      exact ⟨hback.1, hback.2, hfarther⟩
    · cases h

theorem onGrid?_isSome (tie : TieRule)
    (hne : nearest tie (x.gridRatio exponent).1 (x.gridRatio exponent).2 ≠ 0)
    (hback : x.roundsBack (nearest tie (x.gridRatio exponent).1 (x.gridRatio exponent).2)
      exponent = true) :
    (onGrid? tie x exponent).isSome = true := by
  rw [onGrid?_eq]
  simp [hne, hback]

/-- The nearest multiple lies within half a unit of the grid. -/
theorem nearest_close (tie : TieRule) (x : Double) (exponent : Int) :
    |(nearest tie (x.gridRatio exponent).1 (x.gridRatio exponent).2 : ℚ) * 10 ^ exponent -
      x.magnitude| ≤ 10 ^ exponent / 2 := by
  have hden := gridRatio_pos x exponent
  have hden' : (0 : ℚ) < (x.gridRatio exponent).2 := by exact_mod_cast hden
  have hunit : (0 : ℚ) < 10 ^ exponent := zpow_pos (by norm_num) _
  have hratio := gridRatio_eq x exponent
  obtain ⟨hupper, hlower⟩ := nearest_bounds tie (x.gridRatio exponent).1 hden
  rw [div_eq_div_iff hden'.ne' hunit.ne'] at hratio
  generalize nearest tie (x.gridRatio exponent).1 (x.gridRatio exponent).2 = n at *
  generalize (x.gridRatio exponent).1 = num at *
  generalize (x.gridRatio exponent).2 = den at *
  have hupper' : (2 * (den * n) : ℚ) ≤ 2 * num + den := by exact_mod_cast hupper
  have hlower' : (2 * num : ℚ) ≤ 2 * (den * n) + den := by exact_mod_cast hlower
  have habove := mul_le_mul_of_nonneg_right hupper' hunit.le
  have hbelow := mul_le_mul_of_nonneg_right hlower' hunit.le
  rw [abs_sub_le_iff]
  constructor
  · refine le_of_mul_le_mul_left ?_ hden'
    linarith
  · refine le_of_mul_le_mul_left ?_ hden'
    linarith

/-- A grid that is finer than the distance of the double to its neighbours holds a decimal that
reads back. -/
theorem onGrid?_isSome_of_fine (tie : TieRule) (hx : x.Canonical) (hpos : 0 < x.mantissa)
    (hfine : (10 : ℚ) ^ exponent * 10 ^ 16 ≤ x.magnitude) :
    (onGrid? tie x exponent).isSome = true := by
  have hunit : (0 : ℚ) < 10 ^ exponent := zpow_pos (by norm_num) _
  have hstep : (0 : ℚ) < 2 ^ x.exponent := zpow_pos (by norm_num) _
  obtain ⟨habove, hbelow⟩ := abs_sub_le_iff.mp (nearest_close tie x exponent)
  generalize hn : nearest tie (x.gridRatio exponent).1 (x.gridRatio exponent).2 = n at *
  have hsmall : (10 : ℚ) ^ exponent < 2 ^ x.exponent := by
    have hmantissa : (x.mantissa : ℚ) ≤ 2 ^ 53 := by exact_mod_cast hx.mantissa_lt.le
    have hbound := mul_le_mul_of_nonneg_right hmantissa hstep.le
    rw [magnitude] at hfine
    linarith
  have hlower : x.lowerMidpoint < n * 10 ^ exponent := by
    rw [lowerMidpoint_eq]
    split
    · rename_i hbound
      rw [magnitude, hbound.1] at hfine hbelow ⊢
      push_cast at hfine
      linarith
    · linarith
  have hupper : n * 10 ^ exponent < x.upperMidpoint := by
    rw [upperMidpoint_eq]
    linarith
  refine onGrid?_isSome tie ?_ ?_
  · rw [hn]
    rintro rfl
    rw [Nat.cast_zero, zero_mul] at hlower
    exact absurd hlower (lowerMidpoint_pos hpos).not_gt
  · rw [hn, roundsBack_iff hpos]
    exact contains_of_lt hlower hupper

end

/-! ## The search -/

section

variable {x : Double}

theorem ratio_num_pos (hpos : 0 < x.mantissa) : 0 < x.ratio.1 := by
  unfold ratio
  split
  · exact Nat.mul_pos hpos (Nat.two_pow_pos _)
  · exact hpos

/-- The digits of a double on a grid, counted from its first digit on. -/
theorem gridRatio_div_lt (hpos : 0 < x.mantissa) (digits : Nat) :
    (x.gridRatio (leadingExponent x.ratio.1 x.ratio.2 + 1 - digits)).1 /
      (x.gridRatio (leadingExponent x.ratio.1 x.ratio.2 + 1 - digits)).2 < 10 ^ digits := by
  have hlt := lt_ten_zpow_leadingExponent (ratio_num_pos hpos) (ratio_pos x)
  generalize leadingExponent x.ratio.1 x.ratio.2 = leading at hlt ⊢
  have hden := gridRatio_pos x (leading + 1 - digits)
  have hden' : (0 : ℚ) < (x.gridRatio (leading + 1 - digits)).2 := by exact_mod_cast hden
  have hunit : (0 : ℚ) < 10 ^ (leading + 1 - digits : ℤ) := zpow_pos (by norm_num) _
  rw [← magnitude_eq_ratio] at hlt
  have hgrid : ((x.gridRatio (leading + 1 - digits)).1 : ℚ) /
      (x.gridRatio (leading + 1 - digits)).2 < 10 ^ digits := by
    rw [gridRatio_eq, div_lt_iff₀ hunit, ← zpow_natCast, ← zpow_add₀ (by norm_num)]
    rwa [add_sub_cancel]
  rw [div_lt_iff₀ hden'] at hgrid
  rw [Nat.div_lt_iff_lt_mul hden]
  exact_mod_cast hgrid

theorem onGrid?_spec {tie : TieRule} {found digits : Nat} (hpos : 0 < x.mantissa)
    (hdigits : digits ≤ 17)
    (h : onGrid? tie x (leadingExponent x.ratio.1 x.ratio.2 + 1 - digits) = some found) :
    found ≠ 0 ∧ found ≤ 10 ^ 17 ∧
      x.roundsBack found (leadingExponent x.ratio.1 x.ratio.2 + 1 - digits) = true := by
  obtain ⟨hne, hback, hle⟩ := onGrid?_some h
  have hlt := gridRatio_div_lt hpos digits
  have hpow : 10 ^ digits ≤ 10 ^ 17 := Nat.pow_le_pow_right (by decide) hdigits
  exact ⟨hne, by omega, hback⟩

/-- The last grid holds a decimal that reads back. -/
theorem onGrid?_seventeen (tie : TieRule) (hx : x.Canonical) (hpos : 0 < x.mantissa) :
    (onGrid? tie x (leadingExponent x.ratio.1 x.ratio.2 + 1 - (17 : ℕ))).isSome = true := by
  refine onGrid?_isSome_of_fine tie hx hpos ?_
  have hle := ten_zpow_leadingExponent_le (ratio_num_pos hpos) (ratio_pos x)
  rw [← magnitude_eq_ratio] at hle
  rw [← zpow_natCast, ← zpow_add₀ (by norm_num)]
  convert hle using 2
  push_cast
  ring

/-- What the search finds reads back, and it has at most seventeen digits. -/
theorem searchGrids_spec (tie : TieRule) (hx : x.Canonical) (hpos : 0 < x.mantissa)
    {digits attempts : Nat} {found : DecimalDigits} (hattempts : digits + attempts = 17)
    (hfound : searchGrids tie x (leadingExponent x.ratio.1 x.ratio.2) digits (attempts + 1) =
      found) :
    found.digits ≠ 0 ∧ found.digits ≤ 10 ^ 17 ∧
      x.roundsBack found.digits found.exponent = true := by
  induction attempts generalizing digits with
  | zero =>
    obtain rfl : digits = 17 := hattempts
    obtain ⟨number, hnumber⟩ := Option.isSome_iff_exists.mp (onGrid?_seventeen tie hx hpos)
    rw [searchGrids] at hfound
    simp only [hnumber] at hfound
    subst hfound
    exact onGrid?_spec hpos le_rfl hnumber
  | succ attempts ih =>
    rw [searchGrids] at hfound
    cases hgrid : onGrid? tie x (leadingExponent x.ratio.1 x.ratio.2 + 1 - digits) with
    | some number =>
      simp only [hgrid] at hfound
      subst hfound
      exact onGrid?_spec hpos (by omega) hgrid
    | none =>
      simp only [hgrid] at hfound
      exact ih (by omega) hfound

theorem stripZeros_value (exponent : Int) (digits : Nat) :
    (stripZeros exponent digits).value = digits * 10 ^ exponent := by
  fun_induction stripZeros exponent digits with
  | case1 => simp [DecimalDigits.value]
  | case2 exponent digits hne hzero ih =>
    rw [ih, zpow_add_one₀ (by norm_num)]
    have hsplit : digits = digits / 10 * 10 := by omega
    nth_rewrite 2 [hsplit]
    push_cast
    ring
  | case3 => rfl

theorem stripZeros_digits (exponent : Int) {digits : Nat} (hne : digits ≠ 0) :
    (stripZeros exponent digits).digits ≠ 0 ∧ (stripZeros exponent digits).digits ≤ digits := by
  fun_induction stripZeros exponent digits with
  | case1 => exact absurd rfl hne
  | case2 exponent digits _ hzero ih =>
    have := ih (by omega)
    omega
  | case3 exponent digits h _ => exact ⟨h, le_rfl⟩

end

/-! ## The shortest decimal -/

section

variable {x : Double} (tie : TieRule)

theorem shortest_zero (hzero : x.mantissa = 0) : shortest tie x = ⟨0, 0⟩ := by
  simp [shortest, isZero, hzero]

/-- The shortest decimal of a positive double reads back as it, and it has at most seventeen
digits. -/
theorem shortest_spec (hx : x.Canonical) (hpos : 0 < x.mantissa) :
    (shortest tie x).digits ≠ 0 ∧ (shortest tie x).digits ≤ 10 ^ 17 ∧
      x.Contains (shortest tie x).value := by
  obtain ⟨hne, hle, hback⟩ := searchGrids_spec tie hx hpos (by rfl : 1 + 16 = 17) rfl
  have hzero : ¬x.isZero = true := by simpa [isZero] using hpos.ne'
  rw [shortest, if_neg hzero]
  obtain ⟨hne', hle'⟩ := stripZeros_digits _ hne
  refine ⟨hne', hle'.trans hle, ?_⟩
  rw [stripZeros_value, ← roundsBack_iff hpos]
  exact hback

theorem shortest_digits_le (hx : x.Canonical) : (shortest tie x).digits ≤ 10 ^ 17 := by
  obtain hzero | hpos := Nat.eq_zero_or_pos x.mantissa
  · simp [shortest_zero tie hzero]
  · exact (shortest_spec tie hx hpos).2.1

theorem shortest_value_pos (hx : x.Canonical) (hpos : 0 < x.mantissa) :
    0 < (shortest tie x).value :=
  (shortest_spec tie hx hpos).2.2.pos hpos

end

/-! ## Ties -/

section

variable {x : Double}

theorem nearest_up_eq_even {num den : Nat} (hden : 0 < den) (hne : 2 * (num % den) ≠ den) :
    nearest .up num den = nearest .even num den := by
  have hsplit := Nat.div_add_mod' num den
  have hmod := Nat.mod_lt num hden
  show (2 * num + den) / (2 * den) = roundQuotient num den
  unfold roundQuotient
  dsimp only
  split
  · rw [Nat.div_eq_iff (by omega), Nat.mul_left_comm]
    omega
  · rw [if_pos (by omega), Nat.div_eq_iff (by omega), Nat.mul_left_comm, Nat.add_mul]
    omega

/-- A double that is an integer lies between two neighbours on a grid only where the grid is far
too coarse. -/
theorem le_exponent_of_tie (hexponent : 0 ≤ x.exponent) {exponent : Int}
    (htie : 2 * ((x.gridRatio exponent).1 % (x.gridRatio exponent).2) =
      (x.gridRatio exponent).2) : x.exponent + 1 ≤ exponent := by
  obtain ⟨e, he⟩ := Int.eq_ofNat_of_zero_le hexponent
  have hratio : x.ratio = (x.mantissa * 2 ^ e, 1) := by
    rw [ratio, if_pos hexponent, he]
    rfl
  by_cases hpos : 0 ≤ exponent
  · obtain ⟨n, rfl⟩ := Int.eq_ofNat_of_zero_le hpos
    rw [gridRatio, if_pos hpos, hratio, Int.toNat_natCast, Nat.one_mul] at htie
    have hsplit := Nat.div_add_mod (x.mantissa * 2 ^ e) (10 ^ n)
    generalize x.mantissa * 2 ^ e / 10 ^ n = low at hsplit
    have hodd : 2 ^ n * (5 ^ n * (2 * low + 1)) = 2 ^ (e + 1) * x.mantissa :=
      calc 2 ^ n * (5 ^ n * (2 * low + 1))
          = (2 * 5) ^ n * (2 * low + 1) := by rw [← Nat.mul_assoc, ← Nat.mul_pow]
        _ = 2 * (10 ^ n * low) + 10 ^ n := by ring
        _ = 2 * (x.mantissa * 2 ^ e) := by
          dsimp only at htie
          omega
        _ = 2 ^ (e + 1) * x.mantissa := by ring
    have hcoprime : Nat.Coprime (2 ^ (e + 1)) (5 ^ n * (2 * low + 1)) :=
      Nat.Coprime.mul_right (Nat.Coprime.pow _ _ (by decide))
        (Nat.Coprime.pow_left _ (Nat.coprime_two_left.mpr (odd_two_mul_add_one low)))
    have hdvd : 2 ^ (e + 1) ∣ 2 ^ n :=
      hcoprime.dvd_of_dvd_mul_right (hodd ▸ Nat.dvd_mul_right _ _)
    have hle := (Nat.pow_dvd_pow_iff_le_right (by decide)).mp hdvd
    omega
  · rw [gridRatio, if_neg hpos, hratio, Nat.mod_one] at htie
    omega

/-- In a tie the double lies in the middle between two neighbours on the grid. -/
theorem magnitude_of_tie {exponent : Int}
    (htie : 2 * ((x.gridRatio exponent).1 % (x.gridRatio exponent).2) =
      (x.gridRatio exponent).2) :
    x.magnitude = (((x.gridRatio exponent).1 / (x.gridRatio exponent).2 : ℕ) + 1 / 2) *
      10 ^ exponent := by
  have hden : (0 : ℚ) < (x.gridRatio exponent).2 := by exact_mod_cast gridRatio_pos x exponent
  have hunit : (0 : ℚ) < 10 ^ exponent := zpow_pos (by norm_num) _
  have hratio := gridRatio_eq x exponent
  have hsplit := Nat.div_add_mod (x.gridRatio exponent).1 (x.gridRatio exponent).2
  generalize (x.gridRatio exponent).1 / (x.gridRatio exponent).2 = low at *
  generalize (x.gridRatio exponent).1 = num at *
  generalize (x.gridRatio exponent).2 = den at *
  have hnum : (2 * num : ℚ) = den * (2 * low + 1) := by
    have : 2 * num = den * (2 * low + 1) := by
      rw [Nat.mul_add, Nat.mul_left_comm]
      omega
    exact_mod_cast this
  rw [div_eq_div_iff hden.ne' hunit.ne'] at hratio
  refine mul_right_cancel₀ hden.ne' ?_
  rw [← hratio]
  linarith [congrArg (· * (10 : ℚ) ^ exponent) hnum]

/-- On a grid that is coarser than the doubles, the neighbours of a double in the middle between
them are too far away to read back. -/
theorem not_roundsBack_of_middle (hpos : 0 < x.mantissa) {exponent : Int} {low : Nat}
    (hcoarse : (2 : ℚ) ^ x.exponent < 10 ^ exponent)
    (hmiddle : x.magnitude = (low + 1 / 2) * 10 ^ exponent) :
    x.roundsBack low exponent = false ∧ x.roundsBack (low + 1) exponent = false := by
  rw [Bool.eq_false_iff, Bool.eq_false_iff, ne_eq, ne_eq, roundsBack_iff hpos, roundsBack_iff hpos]
  constructor
  · intro hcontains
    linarith [hcontains.lower_le, le_lowerMidpoint x]
  · intro hcontains
    have hupper := hcontains.le_upper
    rw [upperMidpoint_eq] at hupper
    push_cast at hupper
    linarith

/-- In a tie between two neighbours of an integer neither of them reads back. -/
theorem onGrid?_of_tie (tie : TieRule) (hpos : 0 < x.mantissa) (hexponent : 0 ≤ x.exponent)
    {exponent : Int}
    (htie : 2 * ((x.gridRatio exponent).1 % (x.gridRatio exponent).2) =
      (x.gridRatio exponent).2) : onGrid? tie x exponent = none := by
  have hle := le_exponent_of_tie hexponent htie
  have hcoarse : (2 : ℚ) ^ x.exponent < 10 ^ exponent :=
    calc (2 : ℚ) ^ x.exponent < 2 ^ (x.exponent + 1) := zpow_lt_zpow_right₀ (by norm_num) (by omega)
      _ ≤ 2 ^ exponent := zpow_le_zpow_right₀ (by norm_num) hle
      _ ≤ 10 ^ exponent := zpow_le_zpow_left₀ (by omega) (by norm_num) (by norm_num)
  obtain ⟨hlow, hhigh⟩ := not_roundsBack_of_middle hpos hcoarse (magnitude_of_tie htie)
  have hnearer := nearest_eq_or tie (x.gridRatio exponent).1 (gridRatio_pos x exponent)
  rw [onGrid?_eq]
  generalize nearest tie (x.gridRatio exponent).1 (x.gridRatio exponent).2 = nearer at *
  generalize (x.gridRatio exponent).1 / (x.gridRatio exponent).2 = low at *
  rcases hnearer with rfl | rfl
  · simp [hlow, hhigh]
  · simp [hlow, hhigh]

/-- Which neighbour a tie goes to makes no difference for an integer. -/
theorem shortest_up_eq_even (hpos : 0 < x.mantissa) (hexponent : 0 ≤ x.exponent) :
    shortest .up x = shortest .even x := by
  have hgrid (exponent : Int) : onGrid? .up x exponent = onGrid? .even x exponent := by
    by_cases htie : 2 * ((x.gridRatio exponent).1 % (x.gridRatio exponent).2) =
        (x.gridRatio exponent).2
    · rw [onGrid?_of_tie .up hpos hexponent htie, onGrid?_of_tie .even hpos hexponent htie]
    · rw [onGrid?_eq, onGrid?_eq, nearest_up_eq_even (gridRatio_pos x exponent) htie]
  have hsearch (leading : Int) (digits attempts : Nat) :
      searchGrids .up x leading digits attempts = searchGrids .even x leading digits attempts := by
    induction attempts generalizing digits with
    | zero => rfl
    | succ attempts ih => rw [searchGrids, searchGrids, hgrid, ih]
  rw [shortest, shortest]
  simp only [hsearch]

end

end Double

end DocumentMapping
