import DocumentMapping.Json.Printer
import DocumentMapping.Json.Reader
import DocumentMapping.Proofs.Text.Trimming

/-!
# Hexadecimal digits

The hexadecimal digits of a number write that number, in either case and with zeros in front.
-/

namespace DocumentMapping

/-- The number that hexadecimal digits write. -/
def hexNumber? (digits : List Char) : Option Nat :=
  (digits.mapM Json.hexValue?).map (·.foldl (fun number digit => number * 16 + digit) 0)

/-- A hexadecimal digit in lower case. -/
def IsHexDigit (c : Char) : Prop :=
  ∃ digit < 16, c = Nat.digitChar digit

/-! ## Single digits -/

section

variable {c : Char} {digit : Nat}

theorem isHexDigit_digitChar (h : digit < 16) : IsHexDigit (Nat.digitChar digit) :=
  ⟨digit, h, rfl⟩

theorem hexDigit_eq (h : digit < 16) : hexDigit digit = Nat.digitChar digit := by
  rw [hexDigit, Nat.toDigits_of_lt_base h, List.headD_cons]

/-- A digit is read in both cases. -/
theorem hexValue?_digitChar (h : digit < 16) :
    Json.hexValue? (Nat.digitChar digit) = some digit ∧
      Json.hexValue? (Nat.digitChar digit).toUpper = some digit := by
  have hall : ∀ digit : Fin 16, Json.hexValue? (Nat.digitChar digit) = some digit.val ∧
      Json.hexValue? (Nat.digitChar digit).toUpper = some digit.val := by
    decide
  exact hall ⟨digit, h⟩

theorem IsHexDigit.isVisible (h : IsHexDigit c) : Text.IsVisible c := by
  have hall : ∀ digit : Fin 16, Text.IsVisible (Nat.digitChar digit) := by decide
  obtain ⟨digit, hdigit, rfl⟩ := h
  exact hall ⟨digit, hdigit⟩

theorem IsHexDigit.ne_hyphen (h : IsHexDigit c) : c ≠ '-' := by
  have hall : ∀ digit : Fin 16, Nat.digitChar digit ≠ '-' := by decide
  obtain ⟨digit, hdigit, rfl⟩ := h
  exact hall ⟨digit, hdigit⟩

/-- A digit is read the same in upper case. -/
theorem IsHexDigit.hexValue?_toUpper (h : IsHexDigit c) :
    Json.hexValue? c.toUpper = Json.hexValue? c := by
  obtain ⟨digit, hdigit, rfl⟩ := h
  obtain ⟨hlower, hupper⟩ := hexValue?_digitChar hdigit
  rw [hlower, hupper]

end

/-! ## Numbers -/

section

variable {digits : List Char} {number : Nat}

/-- The case of digits does not change the number that they write. -/
theorem hexNumber?_toUpper (h : ∀ c ∈ digits, IsHexDigit c) :
    hexNumber? (digits.map Char.toUpper) = hexNumber? digits := by
  have hvalues : (digits.map Char.toUpper).mapM Json.hexValue? = digits.mapM Json.hexValue? := by
    induction digits with
    | nil => rfl
    | cons c rest ih =>
      obtain ⟨hc, hrest⟩ := List.forall_mem_cons.mp h
      rw [List.map_cons, List.mapM_cons, List.mapM_cons, hc.hexValue?_toUpper, ih hrest]
  rw [hexNumber?, hexNumber?, hvalues]

/-- A digit continues the number before it. -/
theorem hexNumber?_append_digit {digit : Nat} (h : hexNumber? digits = some number)
    (hdigit : digit < 16) :
    hexNumber? (digits ++ [Nat.digitChar digit]) = some (number * 16 + digit) := by
  obtain ⟨values, hvalues, rfl⟩ := Option.map_eq_some_iff.mp h
  simp [hexNumber?, List.mapM_append, hvalues, (hexValue?_digitChar hdigit).1]

/-- Zeros in front do not change the number. -/
theorem hexNumber?_replicate_zero (count : Nat) :
    hexNumber? (List.replicate count '0' ++ digits) = hexNumber? digits := by
  induction count with
  | zero => rfl
  | succ count ih =>
    rw [← ih, List.replicate_succ, List.cons_append, hexNumber?, List.mapM_cons]
    have hzero : Json.hexValue? '0' = some 0 := (hexValue?_digitChar (by decide : 0 < 16)).1
    cases hvalues : (List.replicate count '0' ++ digits).mapM Json.hexValue? with
    | none => simp [hexNumber?, hzero, hvalues]
    | some values => simp [hexNumber?, hzero, hvalues]

/-- The digits of a number are hexadecimal and write that number. -/
theorem toDigits_sixteen (n : Nat) :
    (∀ c ∈ Nat.toDigits 16 n, IsHexDigit c) ∧ hexNumber? (Nat.toDigits 16 n) = some n := by
  induction n using Nat.strongRecOn with
  | ind n ih =>
    rw [Nat.toDigits_eq_if (by decide)]
    split
    · rename_i hn
      have hread := hexNumber?_append_digit (show hexNumber? [] = some 0 from rfl) hn
      rw [Nat.zero_mul, Nat.zero_add] at hread
      exact ⟨List.forall_mem_singleton.mpr (isHexDigit_digitChar hn), hread⟩
    · rename_i hn
      have hdigit : n % 16 < 16 := Nat.mod_lt n (by decide)
      obtain ⟨hdigits, hread⟩ := ih (n / 16) (by omega)
      have hwhole := hexNumber?_append_digit hread hdigit
      rw [Nat.div_add_mod' n 16] at hwhole
      exact ⟨List.forall_mem_append.mpr
        ⟨hdigits, List.forall_mem_singleton.mpr (isHexDigit_digitChar hdigit)⟩, hwhole⟩

end

end DocumentMapping
