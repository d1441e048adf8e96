import DocumentMapping.Proofs.Text.CharSets

/-!
# Texts that trimming keeps

A text without white space at its ends is not changed by trimming. The visible characters of ASCII
are no white space, and most written values consist of them.
-/

namespace DocumentMapping.Text

/-- A character of ASCII that is neither a control nor a space. -/
def IsVisible (c : Char) : Prop :=
  0x21 ≤ c.toNat ∧ c.toNat ≤ 0x7e

instance (c : Char) : Decidable (IsVisible c) :=
  inferInstanceAs (Decidable (_ ∧ _))

/-- No visible character is white space. -/
theorem IsVisible.isBlank_eq_false {c : Char} (h : IsVisible c) : isBlank c = false := by
  have hcount : CharSet.countUpTo blankSet.flips.toList 0x21 = 4 ∧
      CharSet.countUpTo blankSet.flips.toList 0x7e = 4 := by
    decide +kernel
  rw [isBlank, CharSet.contains_eq (hcount.1.trans hcount.2.symm) h.1 h.2, hcount.1]
  rfl

theorem isVisible_of_isDigit {c : Char} (h : c.isDigit = true) : IsVisible c := by
  have hlower : '0'.toNat ≤ c.toNat := (Char.isDigit_iff_toNat.mp h).1
  have hupper : c.toNat ≤ '9'.toNat := (Char.isDigit_iff_toNat.mp h).2
  exact ⟨Nat.le_trans (by decide) hlower, Nat.le_trans hupper (by decide)⟩

theorem dropWhile_isBlank {text : List Char} (h : ∀ c ∈ text.head?, isBlank c = false) :
    text.dropWhile isBlank = text := by
  cases text with
  | nil => rfl
  | cons c rest => rw [List.dropWhile_cons_of_neg (by simp [h c rfl])]

/-- A text without white space at its ends is not changed by trimming. -/
theorem trimChars_eq_self {text : List Char} (hfirst : ∀ c ∈ text.head?, isBlank c = false)
    (hlast : ∀ c ∈ text.getLast?, isBlank c = false) : trimChars text = text := by
  have hreverse : ∀ c ∈ text.reverse.head?, isBlank c = false := by
    rwa [List.head?_reverse]
  rw [trimChars, dropWhile_isBlank hfirst, dropWhile_isBlank hreverse, List.reverse_reverse]

/-- Trimming takes white space from both ends. -/
theorem exists_append_trimChars (text : List Char) :
    ∃ before after, text = before ++ trimChars text ++ after ∧
      (∀ c ∈ before, isBlank c = true) ∧ ∀ c ∈ after, isBlank c = true := by
  have hstart := List.takeWhile_append_dropWhile (p := isBlank) (l := text)
  have hend := List.takeWhile_append_dropWhile (p := isBlank)
    (l := (text.dropWhile isBlank).reverse)
  refine ⟨text.takeWhile isBlank, ((text.dropWhile isBlank).reverse.takeWhile isBlank).reverse,
    ?_, fun c hc => List.mem_takeWhile_imp hc,
    fun c hc => List.mem_takeWhile_imp (List.mem_reverse.mp hc)⟩
  rw [trimChars, List.append_assoc, ← List.reverse_append, hend, List.reverse_reverse, hstart]

/-! ## White space around a text -/

/-- White space around a text is trimmed away. -/
theorem trimChars_append {left right : List Char} (hleft : ∀ c ∈ left, isBlank c = true)
    (hright : ∀ c ∈ right, isBlank c = true) (text : List Char) :
    trimChars (left ++ text ++ right) = trimChars text := by
  have hreverse : ∀ c ∈ right.reverse, isBlank c = true :=
    fun c hc => hright c (List.mem_reverse.mp hc)
  rw [trimChars, trimChars, List.append_assoc, List.dropWhile_append_of_pos hleft,
    List.dropWhile_append]
  split
  · rename_i hempty
    rw [List.isEmpty_iff.mp hempty, List.dropWhile_eq_nil_iff.mpr hright]
  · rw [List.reverse_append, List.dropWhile_append_of_pos hreverse]

/-- Nothing is left of white space. -/
theorem trimChars_of_blank {text : List Char} (h : ∀ c ∈ text, isBlank c = true) :
    trimChars text = [] := by
  rw [trimChars, List.dropWhile_eq_nil_iff.mpr h]
  rfl

/-- A text around a character that is no white space is trimmed on both sides of it. -/
theorem trimChars_append_cons {c : Char} (hc : isBlank c = false) (before after : List Char) :
    trimChars (before ++ c :: after) =
      before.dropWhile isBlank ++ c :: (after.reverse.dropWhile isBlank).reverse := by
  have hstop : ∀ first rest : List Char,
      (first ++ c :: rest).dropWhile isBlank = first.dropWhile isBlank ++ c :: rest := by
    intro first rest
    rw [List.dropWhile_append]
    split
    · rename_i hempty
      rw [List.isEmpty_iff.mp hempty, List.dropWhile_cons_of_neg (by simp [hc])]
      rfl
    · rfl
  rw [trimChars, hstop, List.reverse_append, List.reverse_cons, List.append_assoc,
    List.singleton_append, hstop, List.reverse_append, List.reverse_cons, List.reverse_reverse,
    List.append_assoc, List.singleton_append]

theorem trimChars_dropWhile (text : List Char) :
    trimChars (text.dropWhile isBlank) = trimChars text := by
  have hblank : ∀ c ∈ text.takeWhile isBlank, isBlank c = true :=
    fun c hc => List.mem_takeWhile_imp hc
  have h := trimChars_append hblank (List.forall_mem_nil _) (text.dropWhile isBlank)
  rw [List.append_nil, List.takeWhile_append_dropWhile] at h
  exact h.symm

theorem trimChars_reverse_dropWhile (text : List Char) :
    trimChars (text.reverse.dropWhile isBlank).reverse = trimChars text := by
  have hblank : ∀ c ∈ (text.reverse.takeWhile isBlank).reverse, isBlank c = true :=
    fun c hc => List.mem_takeWhile_imp (List.mem_reverse.mp hc)
  have h := trimChars_append (List.forall_mem_nil _) hblank
    (text.reverse.dropWhile isBlank).reverse
  rw [List.nil_append, ← List.reverse_append, List.takeWhile_append_dropWhile,
    List.reverse_reverse] at h
  exact h.symm

/-! ## Visible texts -/

theorem isVisible_of_isAlphanum {c : Char} (h : c.isAlphanum = true) : IsVisible c := by
  have hupper : 'A'.val.toNat = 65 ∧ 'Z'.val.toNat = 90 := ⟨rfl, rfl⟩
  have hlower : 'a'.val.toNat = 97 ∧ 'z'.val.toNat = 122 := ⟨rfl, rfl⟩
  have hdigit : '0'.val.toNat = 48 ∧ '9'.val.toNat = 57 := ⟨rfl, rfl⟩
  have hclasses : c.isAlphanum = (decide ('A'.val ≤ c.val ∧ c.val ≤ 'Z'.val) ||
      (decide ('a'.val ≤ c.val) && decide (c.val ≤ 'z'.val)) ||
      (decide ('0'.val ≤ c.val) && decide (c.val ≤ '9'.val))) := rfl
  rw [hclasses] at h
  simp only [Bool.or_eq_true, Bool.and_eq_true, decide_eq_true_eq, UInt32.le_iff_toNat_le] at h
  simp only [IsVisible, Char.toNat]
  omega

/-- A text of visible characters. -/
def AllVisible (text : List Char) : Prop :=
  ∀ c ∈ text, IsVisible c

namespace AllVisible

variable {text rest : List Char}

theorem nil : AllVisible [] :=
  List.forall_mem_nil _

theorem cons {c : Char} (hc : IsVisible c) (h : AllVisible text) : AllVisible (c :: text) :=
  List.forall_mem_cons.mpr ⟨hc, h⟩

theorem append (h : AllVisible text) (hrest : AllVisible rest) : AllVisible (text ++ rest) :=
  List.forall_mem_append.mpr ⟨h, hrest⟩

theorem of_digits (h : ∀ c ∈ text, c.isDigit = true) : AllVisible text :=
  fun c hc => isVisible_of_isDigit (h c hc)

/-- A text of visible characters is not changed by trimming. -/
theorem trimChars_eq (h : AllVisible text) : trimChars text = text :=
  trimChars_eq_self (fun c hc => (h c (List.mem_of_head? hc)).isBlank_eq_false)
    fun c hc => (h c (List.mem_of_getLast? hc)).isBlank_eq_false

end AllVisible

end DocumentMapping.Text
