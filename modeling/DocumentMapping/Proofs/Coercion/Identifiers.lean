import DocumentMapping.Guid
import DocumentMapping.Proofs.Number.Hexadecimal

/-!
# Written identifiers are read back

The usual form of an identifier has its thirty-two digits in five groups. Reading takes the hyphens
out again and finds the number of the identifier.
-/

namespace DocumentMapping.Guid

/-! ## Digits -/

theorem length_hexDigits (width n : Nat) : (hexDigits width n).length = width := by
  induction width generalizing n with
  | zero => rfl
  | succ width ih => rw [hexDigits, List.length_append, ih, List.length_singleton]

/-- Padded digits write what is left of a number at their width. -/
theorem hexNumber?_hexDigits (width n : Nat) :
    (∀ c ∈ hexDigits width n, IsHexDigit c) ∧
      hexNumber? (hexDigits width n) = some (n % 16 ^ width) := by
  induction width generalizing n with
  | zero => exact ⟨List.forall_mem_nil _, by rw [Nat.pow_zero, Nat.mod_one]; rfl⟩
  | succ width ih =>
    obtain ⟨hdigits, hread⟩ := ih (n / 16)
    have hdigit : n % 16 < 16 := Nat.mod_lt n (by decide)
    have hvalue : n / 16 % 16 ^ width * 16 + n % 16 = n % 16 ^ (width + 1) := by
      rw [Nat.pow_succ', Nat.mod_mul, Nat.add_comm, Nat.mul_comm 16]
    rw [hexDigits, hexDigit_eq hdigit, ← hvalue]
    exact ⟨List.forall_mem_append.mpr
      ⟨hdigits, List.forall_mem_singleton.mpr (isHexDigit_digitChar hdigit)⟩,
      hexNumber?_append_digit hread hdigit⟩

theorem ofDigits?_eq {digits : List Char} {guid : Guid} (hlength : digits.length = 32)
    (h : hexNumber? digits = some guid.value) : ofDigits? digits = some guid := by
  obtain ⟨values, hvalues, hvalue⟩ := Option.map_eq_some_iff.mp h
  simp only [ofDigits?, hvalues, Option.bind_eq_bind, Option.bind_some, hvalue]
  exact dif_pos ⟨hlength, guid.value_lt⟩

theorem ofDigits?_simpleChars (guid : Guid) : ofDigits? guid.simpleChars = some guid := by
  have hread := (hexNumber?_hexDigits 32 guid.value).2
  have hvalue : guid.value % 16 ^ 32 = guid.value := Nat.mod_eq_of_lt guid.value_lt
  rw [hvalue] at hread
  exact ofDigits?_eq (length_hexDigits 32 guid.value) hread

/-! ## Groups -/

/-- The five groups of the digits. -/
theorem exists_groups (guid : Guid) :
    ∃ first second third fourth fifth : List Char,
      first.length = 8 ∧ second.length = 4 ∧ third.length = 4 ∧ fourth.length = 4 ∧
      fifth.length = 12 ∧ guid.simpleChars = first ++ second ++ third ++ fourth ++ fifth ∧
      guid.chars = first ++ '-' :: second ++ '-' :: third ++ '-' :: fourth ++ '-' :: fifth := by
  have hlength : guid.simpleChars.length = 32 := length_hexDigits 32 guid.value
  rw [chars]
  generalize guid.simpleChars = digits at hlength ⊢
  refine ⟨digits.take 8, (digits.drop 8).take 4, ((digits.drop 8).drop 4).take 4,
    (((digits.drop 8).drop 4).drop 4).take 4, ((((digits.drop 8).drop 4).drop 4).drop 4).take 12,
    ?_, ?_, ?_, ?_, ?_, ?_, ?_⟩
  · simp [hlength]
  · simp [hlength]
  · simp [hlength]
  · simp [hlength]
  · simp [hlength]
  · have hlast : ((((digits.drop 8).drop 4).drop 4).drop 4).take 12 =
        (((digits.drop 8).drop 4).drop 4).drop 4 :=
      List.take_of_length_le (by simp [hlength])
    simp only [hlast, List.append_assoc, List.take_append_drop]
  · simp [groupSizes, hyphenate]

theorem isHexDigit_of_mem_simpleChars {guid : Guid} {c : Char} (h : c ∈ guid.simpleChars) :
    IsHexDigit c :=
  (hexNumber?_hexDigits 32 guid.value).1 c h

/-- Five groups with hyphens are read. -/
theorem ofHyphenated?_chars (guid : Guid) : ofHyphenated? guid.chars = some guid := by
  obtain ⟨first, second, third, fourth, fifth, hfirst, hsecond, hthird, hfourth, hfifth, hdigits,
    hchars⟩ := guid.exists_groups
  have hfilter : guid.chars.filter (· ≠ '-') = guid.simpleChars := by
    have hall : ∀ c ∈ guid.simpleChars, decide (c ≠ '-') = true := fun c hc =>
      decide_eq_true (isHexDigit_of_mem_simpleChars hc).ne_hyphen
    rw [← List.filter_eq_self.mpr hall, hdigits, hchars]
    simp [List.filter_append]
  have hhyphens : guid.chars.length = 36 ∧ guid.chars[8]? = some '-' ∧
      guid.chars[13]? = some '-' ∧ guid.chars[18]? = some '-' ∧ guid.chars[23]? = some '-' := by
    rw [hchars]
    simp [hfirst, hsecond, hthird, hfourth, hfifth]
  rw [ofHyphenated?, if_pos hhyphens, hfilter, ofDigits?_simpleChars]

/-- A written identifier is read back. -/
theorem read?_chars (guid : Guid) : read? guid.chars = some guid := by
  have hlength : guid.chars.length = 36 := by
    obtain ⟨first, second, third, fourth, fifth, hfirst, hsecond, hthird, hfourth, hfifth, -,
      hchars⟩ := guid.exists_groups
    simp [hchars, hfirst, hsecond, hthird, hfourth, hfifth]
  rw [read?, if_neg (by omega), if_pos hlength, ofHyphenated?_chars]

theorem allVisible_chars (guid : Guid) : Text.AllVisible guid.chars := by
  obtain ⟨first, second, third, fourth, fifth, -, -, -, -, -, hdigits, hchars⟩ :=
    guid.exists_groups
  have hvisible : Text.AllVisible guid.simpleChars := fun c hc =>
    (isHexDigit_of_mem_simpleChars hc).isVisible
  have hhyphen : Text.IsVisible '-' := by decide
  rw [hdigits] at hvisible
  rw [hchars]
  simp only [Text.AllVisible, List.forall_mem_append, List.forall_mem_cons] at hvisible ⊢
  exact ⟨⟨⟨⟨hvisible.1.1.1.1, hhyphen, hvisible.1.1.1.2⟩, hhyphen, hvisible.1.1.2⟩, hhyphen,
    hvisible.1.2⟩, hhyphen, hvisible.2⟩

end DocumentMapping.Guid
