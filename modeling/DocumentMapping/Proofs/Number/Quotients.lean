import Mathlib.Algebra.Order.Field.Basic
import DocumentMapping.Proofs.Number.WholeDecimals

/-!
# Quotients of decimals

A quotient is found by long division, several digits at a time. It is exact when nothing remains, and
otherwise has as many places as there is room for and is rounded to the nearest of these.
-/

namespace DocumentMapping.Decimal

/-- A mantissa and its places are a number, rounded to the nearest if they are not exact; then there
is no room for another place. -/
structure IsRounded (number : ℚ) (mantissa scale : Nat) : Prop where
  mantissa_lt : mantissa < 2 ^ 96
  scale_le : scale ≤ 28
  close : |(mantissa : ℚ) / 10 ^ scale - number| ≤ 1 / (2 * 10 ^ scale)
  full : (mantissa : ℚ) / 10 ^ scale = number ∨ scale = 28 ∨ 2 ^ 96 ≤ 10 * mantissa

/-- An error of half a unit can be measured at a finer scale. -/
theorem close_of_scaled {mantissa scale : Nat} {number : ℚ} (count : Nat)
    (h : |(mantissa : ℚ) * 10 ^ count - number| ≤ 10 ^ count / 2) :
    |(mantissa : ℚ) / 10 ^ scale - number / 10 ^ (scale + count)| ≤ 1 / (2 * 10 ^ scale) := by
  have hpow : (0 : ℚ) < 10 ^ (scale + count) := by positivity
  have hscaled : (mantissa : ℚ) / 10 ^ scale - number / 10 ^ (scale + count) =
      (mantissa * 10 ^ count - number) / 10 ^ (scale + count) := by
    rw [pow_add]
    field_simp
  have hunit : (1 : ℚ) / (2 * 10 ^ scale) = 10 ^ count / 2 / 10 ^ (scale + count) := by
    rw [pow_add]
    field_simp
  rw [hscaled, hunit, abs_div, abs_of_pos hpow]
  exact div_le_div_of_nonneg_right h hpow.le

/-! ## Room for digits -/

section

variable {mantissa scale : Nat}

/-- There is room for a number of further digits. -/
def HasRoom (mantissa scale count : Nat) : Prop :=
  count < 10 ∧ scale + count ≤ 28 ∧ mantissa * 10 ^ count < 2 ^ 96

theorem roomFor_isGreatest (hmantissa : mantissa < 2 ^ 96) (hscale : scale ≤ 28) :
    HasRoom mantissa scale (roomFor mantissa scale) ∧
      ∀ count, HasRoom mantissa scale count → count ≤ roomFor mantissa scale := by
  rw [roomFor, List.foldl_max]
  generalize hcounts : (List.range 10).filter (fun (p : Nat) =>
    (scale : Int) + (p : Int) ≤ 28 && mantissa * 10 ^ p < 2 ^ 96) = counts
  have hmem (count : Nat) : count ∈ counts ↔ HasRoom mantissa scale count := by
    simp only [← hcounts, List.mem_filter, List.mem_range, Bool.and_eq_true, decide_eq_true_eq,
      HasRoom]
    omega
  have hzero : HasRoom mantissa scale 0 := ⟨by decide, hscale, by simpa using hmantissa⟩
  cases hmax : counts.max? with
  | none =>
    rw [List.max?_eq_none_iff] at hmax
    have hin := (hmem 0).mpr hzero
    rw [hmax] at hin
    cases hin
  | some greatest =>
    obtain ⟨hin, hle⟩ := List.max?_eq_some_iff.mp hmax
    rw [Option.getD_some, Nat.zero_max]
    exact ⟨(hmem greatest).mp hin, fun count hcount => hle count ((hmem count).mpr hcount)⟩

theorem full_of_roomFor_eq_zero (hmantissa : mantissa < 2 ^ 96) (hscale : scale ≤ 28)
    (h : roomFor mantissa scale = 0) : scale = 28 ∨ 2 ^ 96 ≤ 10 * mantissa := by
  by_contra hroom
  have hone : HasRoom mantissa scale 1 := ⟨by decide, by omega, by omega⟩
  have hle := (roomFor_isGreatest hmantissa hscale).2 1 hone
  omega

end

/-! ## Rounding -/

theorem dropDigit_bounds (mantissa : Nat) (more : Bool) :
    10 * dropDigit mantissa more ≤ mantissa + 5 ∧
      mantissa + more.toNat ≤ 10 * dropDigit mantissa more + 5 := by
  unfold dropDigit
  cases more <;> simp <;> split <;> omega

section

variable {divisor mantissa remainder scale : Nat}

/-- The quotient that a mantissa and a remainder stand for. -/
def quotientAt (divisor mantissa remainder scale : Nat) : ℚ :=
  (mantissa + remainder / divisor) / 10 ^ scale

/-- More digits of a quotient stand for the same number. -/
theorem quotientAt_extend (hdivisor : 0 < divisor) (count : Nat) :
    quotientAt divisor (mantissa * 10 ^ count + remainder * 10 ^ count / divisor)
        (remainder * 10 ^ count % divisor) (scale + count) =
      quotientAt divisor mantissa remainder scale := by
  have hdivisor' : (divisor : ℚ) ≠ 0 := by exact_mod_cast hdivisor.ne'
  have hsplit : (divisor : ℚ) * (remainder * 10 ^ count / divisor : ℕ) +
      (remainder * 10 ^ count % divisor : ℕ) = remainder * 10 ^ count := by
    exact_mod_cast Nat.div_add_mod (remainder * 10 ^ count) divisor
  unfold quotientAt
  rw [pow_add]
  field_simp
  push_cast
  linarith

theorem close_of_half_le (hremainder : remainder < divisor) (hhalf : divisor ≤ 2 * remainder) :
    |((mantissa + 1 : ℕ) : ℚ) - (mantissa + remainder / divisor)| ≤ 1 / 2 := by
  have hdivisor : (0 : ℚ) < divisor := by exact_mod_cast Nat.zero_lt_of_lt hremainder
  have hlower : (1 : ℚ) / 2 ≤ remainder / divisor := by
    rw [div_le_div_iff₀ two_pos hdivisor]
    exact_mod_cast (by omega : 1 * divisor ≤ remainder * 2)
  have hupper : (remainder : ℚ) / divisor ≤ 1 := by
    rw [div_le_one hdivisor]
    exact_mod_cast hremainder.le
  rw [Nat.cast_succ, abs_le]
  constructor <;> linarith

theorem close_of_le_half (hremainder : remainder < divisor) (hhalf : 2 * remainder ≤ divisor) :
    |(mantissa : ℚ) - (mantissa + remainder / divisor)| ≤ 1 / 2 := by
  have hdivisor : (0 : ℚ) < divisor := by exact_mod_cast Nat.zero_lt_of_lt hremainder
  have hlower : (0 : ℚ) ≤ remainder / divisor := by positivity
  have hupper : (remainder : ℚ) / divisor ≤ 1 / 2 := by
    rw [div_le_div_iff₀ hdivisor two_pos]
    exact_mod_cast (by omega : remainder * 2 ≤ 1 * divisor)
  rw [abs_le]
  constructor <;> linarith

end

/-! ## Long division -/

section

variable {divisor mantissa remainder scale : Nat} (inexact : Bool) (steps : Nat)

/-- The division ends when nothing remains. -/
theorem extendQuotient_exact :
    extendQuotient divisor mantissa 0 scale inexact (steps + 1) =
      some (mantissa, (scale : Int), inexact) := by
  rw [extendQuotient, if_pos ⟨rfl, Int.natCast_nonneg scale⟩]

/-- Without room for another digit the mantissa is rounded to the nearest integer. -/
theorem extendQuotient_full (hremainder : remainder < divisor) (hne : remainder ≠ 0)
    (hroom : roomFor mantissa scale = 0) :
    ∃ rounded, mantissa ≤ rounded ∧ rounded ≤ mantissa + 1 ∧
      |(rounded : ℚ) - (mantissa + remainder / divisor)| ≤ 1 / 2 ∧
      extendQuotient divisor mantissa remainder scale inexact (steps + 1) =
        if rounded < 2 ^ 96 then some (rounded, (scale : Int), true)
        else if (scale : Int) = 0 then none
        else some (dropDigit rounded true, (scale : Int) - 1, true) := by
  have hinexact : (inexact || remainder != 0) = true := by simp [hne]
  rw [extendQuotient, if_neg (by simp [hne])]
  simp only [if_neg hne, hroom, if_true, if_neg (Int.natCast_nonneg scale).not_gt, hinexact]
  split
  · rename_i hup
    simp only [Bool.or_eq_true, Bool.and_eq_true, decide_eq_true_eq, beq_iff_eq] at hup
    exact ⟨mantissa + 1, by omega, le_rfl, close_of_half_le hremainder (by omega), rfl⟩
  · rename_i hdown
    simp only [Bool.or_eq_true, Bool.and_eq_true, decide_eq_true_eq, beq_iff_eq] at hdown
    exact ⟨mantissa, le_rfl, by omega, close_of_le_half hremainder (by omega), rfl⟩

/-- More digits are found where there is room for them. -/
theorem extendQuotient_extend (hne : remainder ≠ 0) (hroom : roomFor mantissa scale ≠ 0)
    (hgrown : mantissa * 10 ^ roomFor mantissa scale < 2 ^ 96) :
    let count := roomFor mantissa scale
    let next := mantissa * 10 ^ count + remainder * 10 ^ count / divisor
    let left := remainder * 10 ^ count % divisor
    extendQuotient divisor mantissa remainder scale inexact (steps + 1) =
      if 2 ^ 96 ≤ next then
        some (dropDigit next (left != 0), ((scale + count : ℕ) : Int) - 1, true)
      else extendQuotient divisor next left (scale + count : ℕ) true steps := by
  intro count next left
  have hinexact : (inexact || remainder != 0) = true := by simp [hne]
  have hpositive : ¬(scale : Int) + roomFor mantissa scale ≤ 0 := by omega
  rw [extendQuotient, if_neg (by simp [hne])]
  simp only [if_neg hne, if_neg hroom, if_neg (not_le.mpr hgrown), if_neg hpositive, hinexact]
  rfl

/-- Of a mantissa with too many digits the last one is dropped. -/
theorem isRounded_dropped (hremainder : remainder < divisor) (hmantissa : 2 ^ 96 ≤ mantissa)
    (hbound : mantissa < 2 ^ 96 + 10 ^ 9) (hscale : scale < 28) :
    IsRounded (quotientAt divisor mantissa remainder (scale + 1))
      (dropDigit mantissa (remainder != 0)) scale := by
  obtain ⟨hupper, hlower⟩ := dropDigit_bounds mantissa (remainder != 0)
  have hdivisor : (0 : ℚ) < divisor := by exact_mod_cast Nat.zero_lt_of_lt hremainder
  have hnonneg : (0 : ℚ) ≤ remainder / divisor := by positivity
  have hmore : (remainder : ℚ) / divisor ≤ (remainder != 0).toNat := by
    rcases Nat.eq_zero_or_pos remainder with rfl | hpos
    · simp
    · rw [bne_iff_ne.mpr hpos.ne', Bool.toNat_true, Nat.cast_one, div_le_one hdivisor]
      exact_mod_cast hremainder.le
  refine ⟨by omega, by omega, close_of_scaled 1 ?_, .inr (.inr (by omega))⟩
  have hupper : (10 : ℚ) * dropDigit mantissa (remainder != 0) ≤ mantissa + 5 := by
    exact_mod_cast hupper
  have hlower : (mantissa : ℚ) + (remainder != 0).toNat ≤
      10 * dropDigit mantissa (remainder != 0) + 5 := by
    exact_mod_cast hlower
  rw [abs_le]
  constructor <;> linarith

end

/-- A quotient in the course of its division. There is room for another digit as long as it has no
places. -/
structure IsPartial (divisor mantissa remainder scale : Nat) : Prop where
  remainder_lt : remainder < divisor
  mantissa_lt : mantissa < 2 ^ 96
  scale_le : scale ≤ 28
  room : scale = 0 → mantissa * 10 < 2 ^ 96

namespace IsPartial

variable {divisor mantissa remainder scale : Nat}

/-- Nothing is rounded when nothing remains. -/
theorem isRounded (h : IsPartial divisor mantissa 0 scale) :
    IsRounded (quotientAt divisor mantissa 0 scale) mantissa scale := by
  have hvalue : (mantissa : ℚ) / 10 ^ scale = quotientAt divisor mantissa 0 scale := by
    simp [quotientAt]
  refine ⟨h.mantissa_lt, h.scale_le, ?_, .inl hvalue⟩
  rw [hvalue, sub_self, abs_zero]
  positivity

variable (h : IsPartial divisor mantissa remainder scale)

include h

/-- The last digit is rounded where there is no room for another one. Only the greatest mantissa can
get too large by that; it gives up its last place. -/
theorem isRounded_of_full (hne : remainder ≠ 0) (hroom : roomFor mantissa scale = 0)
    (inexact : Bool) (steps : Nat) :
    ∃ m s i, extendQuotient divisor mantissa remainder scale inexact (steps + 1) =
        some (m, ((s : ℕ) : Int), i) ∧
      IsRounded (quotientAt divisor mantissa remainder scale) m s := by
  obtain ⟨hremainder, hmantissa, hscale, hstart⟩ := h
  have hfull := full_of_roomFor_eq_zero hmantissa hscale hroom
  obtain ⟨rounded, hlower, hupper, hclose, heq⟩ :=
    extendQuotient_full inexact steps hremainder hne hroom
  rw [heq]
  by_cases hfits : rounded < 2 ^ 96
  · rw [if_pos hfits]
    refine ⟨rounded, scale, true, rfl, hfits, hscale, ?_, .inr (by omega)⟩
    exact close_of_scaled 0 (by simpa using hclose)
  · have hlast : rounded = 2 ^ 96 := by omega
    have hdropped : dropDigit (2 ^ 96) true = 7922816251426433759354395034 := rfl
    have hplaces : scale ≠ 0 := by omega
    obtain ⟨places, rfl⟩ := Nat.exists_eq_succ_of_ne_zero hplaces
    rw [if_neg hfits, if_neg (by omega), hlast, hdropped]
    rw [hlast] at hclose
    refine ⟨7922816251426433759354395034, places, true, by simp, by decide, by omega,
      close_of_scaled 1 ?_, .inr (.inr (by decide))⟩
    rw [abs_le] at hclose ⊢
    push_cast at hclose ⊢
    constructor <;> linarith

variable (hroom : roomFor mantissa scale ≠ 0)

include hroom

/-- More digits leave a remainder to go on with. -/
theorem extend (hfits : mantissa * 10 ^ roomFor mantissa scale +
      remainder * 10 ^ roomFor mantissa scale / divisor < 2 ^ 96) :
    IsPartial divisor
      (mantissa * 10 ^ roomFor mantissa scale +
        remainder * 10 ^ roomFor mantissa scale / divisor)
      (remainder * 10 ^ roomFor mantissa scale % divisor) (scale + roomFor mantissa scale) := by
  obtain ⟨-, hplaces, -⟩ := (roomFor_isGreatest h.mantissa_lt h.scale_le).1
  exact ⟨Nat.mod_lt _ (Nat.zero_lt_of_lt h.remainder_lt), hfits, hplaces, by omega⟩

/-- When more digits make the mantissa too large, the last one is dropped. -/
theorem isRounded_dropDigit (hlarge : 2 ^ 96 ≤ mantissa * 10 ^ roomFor mantissa scale +
      remainder * 10 ^ roomFor mantissa scale / divisor) :
    ∃ places, scale + roomFor mantissa scale = places + 1 ∧
      IsRounded (quotientAt divisor mantissa remainder scale)
        (dropDigit (mantissa * 10 ^ roomFor mantissa scale +
            remainder * 10 ^ roomFor mantissa scale / divisor)
          (remainder * 10 ^ roomFor mantissa scale % divisor != 0)) places := by
  obtain ⟨hcount, hplaces, hgrown⟩ := (roomFor_isGreatest h.mantissa_lt h.scale_le).1
  have hdivisor := Nat.zero_lt_of_lt h.remainder_lt
  have hdigits : remainder * 10 ^ roomFor mantissa scale / divisor < 10 ^ 9 := by
    refine Nat.div_lt_of_lt_mul ?_
    calc remainder * 10 ^ roomFor mantissa scale
        < divisor * 10 ^ roomFor mantissa scale :=
          Nat.mul_lt_mul_of_pos_right h.remainder_lt (Nat.pow_pos (by decide))
      _ ≤ divisor * 10 ^ 9 :=
          Nat.mul_le_mul_left divisor (Nat.pow_le_pow_right (by decide) (by omega))
  have hpositive : scale + roomFor mantissa scale ≠ 0 := by omega
  obtain ⟨places, hsucc⟩ := Nat.exists_eq_succ_of_ne_zero hpositive
  refine ⟨places, hsucc, ?_⟩
  rw [← quotientAt_extend hdivisor (roomFor mantissa scale), hsucc]
  exact isRounded_dropped (Nat.mod_lt _ hdivisor) hlarge (by omega) (by omega)

end IsPartial

/-- Long division gives the quotient, rounded if necessary. Every step finds at least one more
place. -/
theorem extendQuotient_spec {divisor mantissa remainder scale steps : Nat} (inexact : Bool)
    (h : IsPartial divisor mantissa remainder scale) (hsteps : 28 < scale + steps) :
    ∃ m s i, extendQuotient divisor mantissa remainder scale inexact steps =
        some (m, ((s : ℕ) : Int), i) ∧
      IsRounded (quotientAt divisor mantissa remainder scale) m s := by
  induction steps generalizing mantissa remainder scale inexact with
  | zero =>
    have := h.scale_le
    omega
  | succ steps ih =>
    by_cases hne : remainder = 0
    · subst hne
      exact ⟨mantissa, scale, inexact, extendQuotient_exact inexact steps, h.isRounded⟩
    by_cases hroom : roomFor mantissa scale = 0
    · exact h.isRounded_of_full hne hroom inexact steps
    obtain ⟨-, -, hgrown⟩ := (roomFor_isGreatest h.mantissa_lt h.scale_le).1
    rw [extendQuotient_extend inexact steps hne hroom hgrown]
    split
    · rename_i hlarge
      obtain ⟨places, hsucc, hrounded⟩ := h.isRounded_dropDigit hroom hlarge
      exact ⟨_, places, true, by simp [hsucc], hrounded⟩
    · rename_i hsmall
      rw [← quotientAt_extend (Nat.zero_lt_of_lt h.remainder_lt) (roomFor mantissa scale)]
      exact ih true (h.extend hroom (not_le.mp hsmall)) (by omega)

/-! ## Zeros at the end -/

/-- A mantissa and its places without some zeros at the end. -/
def RemovesZeros (mantissa scale : Nat) (parts : Nat × Nat) : Prop :=
  ∃ count, mantissa = parts.1 * 10 ^ count ∧ scale = parts.2 + count

theorem RemovesZeros.refl (mantissa scale : Nat) : RemovesZeros mantissa scale (mantissa, scale) :=
  ⟨0, by simp, rfl⟩

theorem RemovesZeros.trans {mantissa scale : Nat} {parts rest : Nat × Nat}
    (h : RemovesZeros mantissa scale parts) (hrest : RemovesZeros parts.1 parts.2 rest) :
    RemovesZeros mantissa scale rest := by
  obtain ⟨count, hmantissa, hscale⟩ := h
  obtain ⟨more, hmantissa', hscale'⟩ := hrest
  refine ⟨more + count, ?_, by omega⟩
  rw [hmantissa, hmantissa', Nat.mul_assoc, ← Nat.pow_add]

theorem removesZeros_drop (count mantissa scale : Nat) :
    RemovesZeros mantissa scale (stripQuotient.drop count mantissa scale) := by
  unfold stripQuotient.drop
  split
  · rename_i h
    exact ⟨count, (Nat.div_mul_cancel (Nat.dvd_of_mod_eq_zero h.2)).symm, by simp only; omega⟩
  · exact .refl mantissa scale

theorem removesZeros_dropEights (mantissa scale steps : Nat) :
    RemovesZeros mantissa scale (stripQuotient.dropEights mantissa scale steps) := by
  induction steps generalizing mantissa scale with
  | zero => exact .refl mantissa scale
  | succ steps ih =>
    rw [stripQuotient.dropEights]
    split
    · rename_i h
      have height : RemovesZeros mantissa scale (mantissa / 10 ^ 8, scale - 8) :=
        ⟨8, (Nat.div_mul_cancel (Nat.dvd_of_mod_eq_zero h.2.2)).symm, by simp only; omega⟩
      exact height.trans (ih _ _)
    · exact .refl mantissa scale

theorem removesZeros_stripQuotient (mantissa scale : Nat) :
    RemovesZeros mantissa scale (stripQuotient mantissa scale) :=
  (removesZeros_dropEights mantissa scale 4).trans <|
    (removesZeros_drop 4 _ _).trans <| (removesZeros_drop 2 _ _).trans <| removesZeros_drop 1 _ _

/-! ## Quotients -/

/-- A decimal is a number, rounded to the nearest with some number of places; unless it is exact,
there is no room for another place. -/
def IsNearest (x : Decimal) (number : ℚ) : Prop :=
  ∃ places, x.scale ≤ places ∧ places ≤ 28 ∧ |x.value - number| ≤ 1 / (2 * 10 ^ places) ∧
    (x.value = number ∨ places = 28 ∨ 2 ^ 96 ≤ 10 ^ (places + 1) * |x.value|)

theorem IsNearest.of_value_eq {x : Decimal} {number : ℚ} (h : x.value = number) :
    x.IsNearest number := by
  refine ⟨x.scale, le_rfl, x.scale_le, ?_, .inl h⟩
  rw [h, sub_self, abs_zero]
  positivity

/-- An integer is not rounded. -/
theorem IsNearest.value_eq {x : Decimal} {number : Int} (h : x.IsNearest number) :
    x.value = number := by
  obtain ⟨places, hscale, -, hclose, -⟩ := h
  have hpow : (0 : ℚ) < 10 ^ places := by positivity
  have hscaled : x.value * 10 ^ places = (x.signed * 10 ^ (places - x.scale) : ℤ) := by
    rw [value_eq_signed, div_mul_eq_mul_div, div_eq_iff (by positivity)]
    push_cast
    rw [mul_assoc, ← pow_add, Nat.sub_add_cancel hscale]
  have hwhole : |x.signed * 10 ^ (places - x.scale) - number * 10 ^ places| < 1 := by
    have hlt : |x.value * 10 ^ places - number * 10 ^ places| < 1 := by
      rw [← sub_mul, abs_mul, abs_of_pos hpow]
      calc |x.value - number| * 10 ^ places ≤ 1 / (2 * 10 ^ places) * 10 ^ places := by gcongr
        _ = 1 / 2 := by field_simp
        _ < 1 := by norm_num
    rw [hscaled] at hlt
    exact_mod_cast hlt
  have hzero := Int.abs_lt_one_iff.mp hwhole
  refine mul_right_cancel₀ hpow.ne' ?_
  rw [hscaled]
  exact_mod_cast sub_eq_zero.mp hzero

/-- A rounded mantissa makes a decimal nearest to the number, whatever the sign. -/
theorem IsRounded.isNearest {number : ℚ} {x : Decimal} {count : Nat} {negative : Bool}
    (h : IsRounded number (x.mantissa * 10 ^ count) (x.scale + count))
    (hsign : x.negative = (negative && x.mantissa != 0)) :
    x.IsNearest ((if negative then -1 else 1) * number) := by
  have hmagnitude : ((x.mantissa * 10 ^ count : ℕ) : ℚ) / 10 ^ (x.scale + count) =
      x.mantissa / 10 ^ x.scale := by
    rw [pow_add]
    push_cast
    field_simp
  have hvalue : x.value = (if negative then -1 else 1) * (x.mantissa / 10 ^ x.scale) := by
    rw [value, hsign, mul_div_assoc]
    by_cases hzero : x.mantissa = 0
    · simp [hzero]
    · simp [hzero]
  obtain ⟨-, hscale, hclose, hfull⟩ := h
  rw [hmagnitude] at hclose hfull
  have hunit : |(if negative then -1 else 1 : ℚ)| = 1 := by cases negative <;> simp
  refine ⟨x.scale + count, by omega, hscale, ?_, ?_⟩
  · rw [hvalue, ← mul_sub, abs_mul, hunit, one_mul]
    exact hclose
  · rw [hvalue]
    refine hfull.imp (congrArg _) (.imp_right fun hlarge => ?_)
    rw [abs_mul, hunit, one_mul, abs_of_nonneg (by positivity), ← hmagnitude, pow_succ' (10 : ℚ),
      mul_assoc, mul_div_cancel₀ _ (by positivity)]
    exact_mod_cast hlarge

section

variable {x y : Decimal} {a b : Int} (hx : x.IsWhole a) (hy : y.IsWhole b)

include hx hy

/-- A quotient is made of the mantissa and places that the long division gives. -/
theorem exists_div?_parts (ha : a ≠ 0) (hb : b ≠ 0) {m s : Nat} {inexact : Bool}
    (h : extendQuotient b.natAbs (a.natAbs / b.natAbs) (a.natAbs % b.natAbs) ((0 : ℕ) : Int) false
      64 = some (m, (s : Int), inexact)) :
    ∃ parts, RemovesZeros m s parts ∧
      div? x y = ofParts? ((x.negative != y.negative) && parts.1 != 0) parts.1 parts.2 := by
  refine ⟨if inexact then stripQuotient m s else (m, s), ?_, ?_⟩
  · split
    · exact removesZeros_stripQuotient m s
    · exact .refl m s
  · rw [div?, hx.isZero_eq, hy.isZero_eq, if_neg (by simpa using hb), if_neg (by simpa using ha),
      hx.scale_eq, hy.scale_eq, hx.mantissa_eq, hy.mantissa_eq, sub_self]
    rw [Nat.cast_zero] at h
    rw [h]
    rfl

/-- The sign of a quotient is taken apart from its magnitude. -/
theorem div_eq_sign_mul (hb : b ≠ 0) :
    (a : ℚ) / b = (if x.negative != y.negative then -1 else 1) *
      quotientAt b.natAbs (a.natAbs / b.natAbs) (a.natAbs % b.natAbs) 0 := by
  have hdivisor : (b.natAbs : ℚ) ≠ 0 := by exact_mod_cast Int.natAbs_ne_zero.mpr hb
  have hmagnitude : quotientAt b.natAbs (a.natAbs / b.natAbs) (a.natAbs % b.natAbs) 0 =
      x.mantissa / y.mantissa := by
    have hsplit : (b.natAbs : ℚ) * (a.natAbs / b.natAbs : ℕ) + (a.natAbs % b.natAbs : ℕ) =
        a.natAbs := by
      exact_mod_cast Nat.div_add_mod a.natAbs b.natAbs
    rw [hx.mantissa_eq, hy.mantissa_eq, quotientAt, pow_zero, div_one, ← hsplit]
    field_simp
  rw [hmagnitude, ← hx.signed_eq, ← hy.signed_eq, signed, signed]
  cases x.negative <;> cases y.negative <;> simp [neg_div, div_neg]

/-- The quotient of integers is found, and is exact or rounded to the nearest. -/
theorem div?_isNearest (hb : b ≠ 0) (hroom : a.natAbs * 10 < 2 ^ 96) :
    ∃ z, div? x y = some z ∧ z.IsNearest (a / b) := by
  by_cases ha : a = 0
  · refine ⟨zero, by simp [div?, hx.isZero_eq, hy.isZero_eq, ha, hb], .of_value_eq ?_⟩
    rw [isWhole_zero.value_eq, ha]
    simp
  have hdivisor := Int.natAbs_pos.mpr hb
  have hle := Nat.div_le_self a.natAbs b.natAbs
  have hpartial : IsPartial b.natAbs (a.natAbs / b.natAbs) (a.natAbs % b.natAbs) 0 :=
    ⟨Nat.mod_lt _ hdivisor, by omega, Nat.zero_le 28, by omega⟩
  have hsteps : 28 < 0 + 64 := by decide
  obtain ⟨m, s, inexact, hquotient, hrounded⟩ := extendQuotient_spec false hpartial hsteps
  obtain ⟨⟨mantissa, scale⟩, ⟨count, rfl, rfl⟩, hdiv⟩ := exists_div?_parts hx hy ha hb hquotient
  have hfits : mantissa < 2 ^ 96 ∧ scale ≤ 28 :=
    ⟨(Nat.le_mul_of_pos_right _ (Nat.pow_pos (by decide))).trans_lt hrounded.mantissa_lt,
      (Nat.le_add_right _ _).trans hrounded.scale_le⟩
  rw [hdiv, ofParts?, dif_pos hfits, div_eq_sign_mul hx hy hb]
  exact ⟨_, rfl, hrounded.isNearest rfl⟩

end

end DocumentMapping.Decimal
