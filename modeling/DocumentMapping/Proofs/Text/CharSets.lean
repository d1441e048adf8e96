import Mathlib.Data.List.TakeWhile
import DocumentMapping.Text.Blank
import DocumentMapping.Text.Digit

/-!
# Members of sets of characters

A reader takes the longest prefix of characters of a set, and what it takes is known when the text
goes on with another character. A set that is written by its changes of membership consists of
ranges, from every other change to the next one. So two sets are compared range by range, and no
decimal digit is white space.
-/

namespace DocumentMapping

/-! ## The longest prefix of some characters -/

/-- What holds of some characters is decided one after the other. An instance for all of them would
go through every character that there is. -/
theorem forall_mem_of_all {P : Char → Prop} [DecidablePred P] {chars : List Char}
    (h : chars.all (P ·) = true) : ∀ c ∈ chars, P c := by
  simpa using h

section

variable {p : Char → Bool} {taken rest : List Char}

theorem takeWhile_append_of_stop (htaken : ∀ c ∈ taken, p c = true)
    (hrest : ∀ c ∈ rest.head?, p c = false) : (taken ++ rest).takeWhile p = taken := by
  rw [List.takeWhile_append_of_pos htaken]
  cases rest with
  | nil => simp
  | cons c more => simp [hrest c rfl]

theorem dropWhile_append_of_stop (htaken : ∀ c ∈ taken, p c = true)
    (hrest : ∀ c ∈ rest.head?, p c = false) : (taken ++ rest).dropWhile p = rest := by
  rw [List.dropWhile_append_of_pos htaken]
  cases rest with
  | nil => rfl
  | cons c more => simp [hrest c rfl]

end

/-! ## Ranges -/

namespace Text

namespace CharSet

/-- The ranges of a list of changes: from the first to just before the second, and so on. -/
def ranges : List Nat → List (Nat × Nat)
  | first :: second :: rest => (first, second) :: ranges rest
  | _ => []

/-- The number of changes at or below a code point. -/
def countUpTo (flips : List Nat) (n : Nat) : Nat :=
  flips.countP (· ≤ n)

theorem changesUpTo_eq (s : CharSet) (n : Nat) : s.changesUpTo n = countUpTo s.flips.toList n := by
  have hfold (flips : List Nat) (start : Nat) :
      flips.foldl (fun count flip => if flip ≤ n then count + 1 else count) start =
        start + countUpTo flips n := by
    induction flips generalizing start with
    | nil => rfl
    | cons flip rest ih =>
      rw [List.foldl_cons, ih, countUpTo, countUpTo, List.countP_cons]
      simp only [decide_eq_true_eq]
      split <;> omega
  rw [changesUpTo, ← Array.foldl_toList, hfold, Nat.zero_add]

theorem contains_eq_countUpTo (s : CharSet) (c : Char) :
    s.contains c = (countUpTo s.flips.toList c.toNat % 2 == 1) := by
  rw [contains, changesUpTo_eq]

theorem countUpTo_mono (flips : List Nat) {m n : Nat} (h : m ≤ n) :
    countUpTo flips m ≤ countUpTo flips n := by
  refine List.countP_mono_left fun flip _ hflip => ?_
  simp only [decide_eq_true_eq] at hflip ⊢
  omega

/-- Between two code points without a change, membership is the same. -/
theorem contains_eq {s : CharSet} {low high : Nat}
    (h : countUpTo s.flips.toList low = countUpTo s.flips.toList high) {c : Char}
    (hlow : low ≤ c.toNat) (hhigh : c.toNat ≤ high) :
    s.contains c = (countUpTo s.flips.toList low % 2 == 1) := by
  have hfrom := countUpTo_mono s.flips.toList hlow
  have hto := countUpTo_mono s.flips.toList hhigh
  have hsame : countUpTo s.flips.toList c.toNat = countUpTo s.flips.toList low := by omega
  rw [contains_eq_countUpTo, hsame]

/-- An even number of changes at both ends of a range without a change leave it out. -/
theorem contains_eq_false {s : CharSet} {low high : Nat}
    (h : countUpTo s.flips.toList low = countUpTo s.flips.toList high ∧
      countUpTo s.flips.toList low % 2 = 0) {c : Char} (hlow : low ≤ c.toNat)
    (hhigh : c.toNat ≤ high) : s.contains c = false := by
  rw [contains_eq h.1 hlow hhigh, h.2]
  rfl

/-- An odd number of changes at or below a code point put it into a range. -/
theorem exists_range {flips : List Nat} (hsorted : flips.Pairwise (· < ·))
    (heven : flips.length % 2 = 0) {n : Nat} (h : countUpTo flips n % 2 = 1) :
    ∃ range ∈ ranges flips, range.1 ≤ n ∧ n < range.2 := by
  fun_induction ranges flips with
  | case1 first second rest ih =>
    obtain ⟨hfirst, hrest⟩ := List.pairwise_cons.mp hsorted
    obtain ⟨hsecond, hrest⟩ := List.pairwise_cons.mp hrest
    by_cases habove : second ≤ n
    · have hbelow : first ≤ n := Nat.le_trans (Nat.le_of_lt (hfirst second (by simp))) habove
      have hcount : countUpTo (first :: second :: rest) n = countUpTo rest n + 2 := by
        simp [countUpTo, habove, hbelow]
      have hodd : countUpTo rest n % 2 = 1 := by omega
      have hevenRest : rest.length % 2 = 0 := by
        simp only [List.length_cons] at heven
        omega
      obtain ⟨range, hmem, hrange⟩ := ih hrest hevenRest hodd
      exact ⟨range, List.mem_cons_of_mem _ hmem, hrange⟩
    · refine ⟨(first, second), List.mem_cons_self, ?_, by omega⟩
      -- nothing is at or below the code point if the first change is not
      refine Decidable.byContradiction fun hbelow => ?_
      have hnone : countUpTo (first :: second :: rest) n = 0 := by
        refine List.countP_eq_zero.mpr fun flip hmem => ?_
        have hflip : first ≤ flip := by
          obtain rfl | hlater := List.mem_cons.mp hmem
          · exact Nat.le_refl _
          · exact Nat.le_of_lt (hfirst flip hlater)
        simp only [decide_eq_true_eq]
        omega
      omega
  | case2 flips hshort =>
    match flips, hshort with
    | [], _ => simp [countUpTo] at h
    | [flip], _ => simp at heven
    | first :: second :: rest, hshort => exact absurd rfl (hshort first second rest)

/-- Sets have no common member when no change of the second one lies in a range of the first one,
and none of these ranges begins with a member of it. -/
theorem disjoint_of_ranges {s t : CharSet} (hsorted : s.flips.toList.Pairwise (· < ·))
    (heven : s.flips.size % 2 = 0)
    (h : ∀ range ∈ ranges s.flips.toList,
      countUpTo t.flips.toList range.1 = countUpTo t.flips.toList (range.2 - 1) ∧
        countUpTo t.flips.toList range.1 % 2 = 0)
    {c : Char} (hc : s.contains c = true) : t.contains c = false := by
  rw [contains_eq_countUpTo, beq_iff_eq] at hc
  obtain ⟨range, hmem, hlower, hupper⟩ := exists_range hsorted heven hc
  obtain ⟨hsame, houtside⟩ := h range hmem
  rw [contains_eq hsame hlower (Nat.le_sub_one_of_lt hupper), houtside]
  rfl

end CharSet

/-- No decimal digit is white space. -/
theorem isBlank_eq_false {c : Char} (h : isDecimalDigit c = true) : isBlank c = false := by
  cases hblank : isBlank c with
  | false => rfl
  | true =>
    have hother : isDecimalDigit c = false :=
      CharSet.disjoint_of_ranges (s := blankSet) (by decide +kernel) (by decide +kernel)
        (by decide +kernel) hblank
    rw [h] at hother
    cases hother

/-- Before the digits of other scripts, the decimal digits are those of numbers. -/
theorem isDecimalDigit_eq_isDigit {c : Char} (h : c.toNat < 0x660) :
    isDecimalDigit c = c.isDigit := by
  let flips := decimalDigitSet.flips.toList
  have hbelow : CharSet.countUpTo flips 0 = 0 ∧ CharSet.countUpTo flips 0x2F = 0 := by
    decide +kernel
  have hamong : CharSet.countUpTo flips 0x30 = 1 ∧ CharSet.countUpTo flips 0x39 = 1 := by
    decide +kernel
  have habove : CharSet.countUpTo flips 0x3A = 2 ∧ CharSet.countUpTo flips 0x65F = 2 := by
    decide +kernel
  rw [isDecimalDigit, Bool.eq_iff_iff, Char.isDigit_iff_toNat]
  change _ ↔ 0x30 ≤ c.toNat ∧ c.toNat ≤ 0x39
  obtain hlow | hdigit | hhigh :
      c.toNat ≤ 0x2F ∨ (0x30 ≤ c.toNat ∧ c.toNat ≤ 0x39) ∨ 0x3A ≤ c.toNat := by
    omega
  · rw [CharSet.contains_eq (hbelow.1.trans hbelow.2.symm) (Nat.zero_le _) hlow, hbelow.1]
    exact iff_of_false (by decide) (by omega)
  · rw [CharSet.contains_eq (hamong.1.trans hamong.2.symm) hdigit.1 hdigit.2, hamong.1]
    exact iff_of_true rfl hdigit
  · rw [CharSet.contains_eq (habove.1.trans habove.2.symm) hhigh (by omega), habove.1]
    exact iff_of_false (by decide) (by omega)

theorem isDecimalDigit_of_isDigit {c : Char} (h : c.isDigit = true) : isDecimalDigit c = true := by
  have hbelow : c.toNat ≤ '9'.toNat := (Char.isDigit_iff_toNat.mp h).2
  rw [isDecimalDigit_eq_isDigit (Nat.lt_of_le_of_lt hbelow (by decide)), h]

theorem isDecimalDigit_eq_false {c : Char} (hbelow : c.toNat < 0x660) (h : c.isDigit = false) :
    isDecimalDigit c = false := by
  rw [isDecimalDigit_eq_isDigit hbelow, h]

end Text

end DocumentMapping
