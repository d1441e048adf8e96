import DocumentMapping.Number.Digits
import DocumentMapping.Number.Power

/-!
# Digits and the numbers that they write

The digits of a number write that number, and their count says between which powers of ten it lies.
-/

namespace DocumentMapping

theorem isDigits_iff {digits : List Char} :
    isDigits digits = true ↔ digits ≠ [] ∧ ∀ c ∈ digits, c.isDigit = true := by
  simp [isDigits]

/-! ## Values -/

theorem digitsValue_eq_ofDigitChars (digits : List Char) :
    digitsValue digits = Nat.ofDigitChars 10 digits 0 := by
  simp only [digitsValue, Nat.ofDigitChars, Nat.mul_comm]

/-- The digits of a number write that number. -/
@[simp] theorem digitsValue_digitChars (n : Nat) : digitsValue (digitChars n) = n := by
  rw [digitsValue_eq_ofDigitChars, digitChars, Nat.ofDigitChars_ten_toDigits]

/-- Digits continue the number before them. -/
theorem foldl_digits (digits : List Char) (start : Nat) :
    digits.foldl (fun value c => value * 10 + (c.toNat - '0'.toNat)) start =
      start * 10 ^ digits.length + digitsValue digits := by
  induction digits generalizing start with
  | nil => simp [digitsValue]
  | cons c rest ih =>
    rw [digitsValue, List.foldl_cons, List.foldl_cons, ih, ih (0 * 10 + _), List.length_cons,
      Nat.pow_succ, Nat.zero_mul, Nat.zero_add, Nat.add_mul, Nat.mul_assoc, Nat.mul_comm 10,
      Nat.add_assoc]

theorem digitsValue_append (first second : List Char) :
    digitsValue (first ++ second) =
      digitsValue first * 10 ^ second.length + digitsValue second := by
  rw [digitsValue, List.foldl_append, ← digitsValue, foldl_digits]

theorem digitsValue_replicate_zero (count : Nat) :
    digitsValue (List.replicate count '0') = 0 := by
  induction count with
  | zero => rfl
  | succ count ih =>
    rw [List.replicate_succ', digitsValue_append, ih]
    rfl

theorem digitsValue_cons (c : Char) (rest : List Char) :
    digitsValue (c :: rest) = (c.toNat - '0'.toNat) * 10 ^ rest.length + digitsValue rest := by
  rw [digitsValue, List.foldl_cons, foldl_digits, Nat.zero_mul, Nat.zero_add]

/-- Digits write a number below the power of ten of their count. -/
theorem digitsValue_lt {digits : List Char} (h : ∀ c ∈ digits, c.isDigit = true) :
    digitsValue digits < 10 ^ digits.length := by
  induction digits with
  | nil => decide
  | cons c rest ih =>
    obtain ⟨hc, hrest⟩ := List.forall_mem_cons.mp h
    have hvalue := ih hrest
    have hupper : c.toNat ≤ '9'.toNat := (Char.isDigit_iff_toNat.mp hc).2
    have hdigit : c.toNat - '0'.toNat ≤ 9 := Nat.sub_le_sub_right hupper '0'.toNat
    have hfirst := Nat.mul_le_mul_right (10 ^ rest.length) hdigit
    rw [digitsValue_cons, List.length_cons, Nat.pow_succ]
    omega

/-! ## The digits of a number -/

theorem isDigit_of_mem_digitChars {n : Nat} {c : Char} (h : c ∈ digitChars n) :
    c.isDigit = true :=
  Nat.isDigit_of_mem_toDigits (by decide) (by decide) h

theorem isDigits_digitChars (n : Nat) : isDigits (digitChars n) = true :=
  isDigits_iff.mpr ⟨Nat.toDigits_ne_nil, fun _ hc => isDigit_of_mem_digitChars hc⟩

theorem digitChars_length_pos (n : Nat) : 0 < (digitChars n).length :=
  Nat.length_toDigits_pos

theorem lt_ten_pow_length (n : Nat) : n < 10 ^ (digitChars n).length :=
  (Nat.length_toDigits_le_iff (by decide) (digitChars_length_pos n)).mp (Nat.le_refl _)

theorem ten_pow_pred_length_le {n : Nat} (hn : 0 < n) : 10 ^ ((digitChars n).length - 1) ≤ n := by
  obtain hone | hmore := Nat.eq_or_lt_of_le (digitChars_length_pos n)
  · rw [← hone]
    exact hn
  · refine Nat.le_of_not_lt fun hlt => ?_
    have hlength := (Nat.length_toDigits_le_iff (by decide) (by omega)).mpr hlt
    rw [digitChars] at hmore hlength
    omega

end DocumentMapping
