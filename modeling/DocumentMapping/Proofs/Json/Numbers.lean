import DocumentMapping.Json.Reader
import DocumentMapping.Proofs.Number.Numeral
import DocumentMapping.Proofs.Sequencing
import DocumentMapping.Proofs.Text.CharSets

/-!
# Written numbers in their places

A number is read in the same way wherever it stands, as long as a comma, a closing bracket or the
end of the text follows. So integers of 64 bits are read back from their digits everywhere, and a
double is as soon as its text alone is read as that double.
-/

namespace DocumentMapping.Json

/-- What may follow a value: nothing, a comma or a closing bracket. -/
def EndsValue (rest : List Char) : Prop :=
  ∀ c ∈ rest.head?, c = ',' ∨ c = ']' ∨ c = '\x7d'

/-- Whether what a reader takes off a text does not depend on what follows. -/
def ReadsLocally {α : Type} (read : Reader α) : Prop :=
  ∀ text value left, read text = .ok (value, left) →
    ∃ taken, text = taken ++ left ∧
      ∀ rest, EndsValue rest → read (taken ++ rest) = .ok (value, rest)

/-- Whether a text is read as a value, whatever may follow it. -/
def ReadsAs {α : Type} (read : Reader α) (text : List Char) (value : α) : Prop :=
  ∀ rest, EndsValue rest → read (text ++ rest) = .ok (value, rest)

section

variable {rest : List Char}

theorem endsValue_nil : EndsValue [] :=
  nofun

theorem EndsValue.cons {c : Char} (hc : c = ',' ∨ c = ']' ∨ c = '\x7d') (rest : List Char) :
    EndsValue (c :: rest) := by
  rintro other ⟨⟩
  exact hc

theorem EndsValue.not_isDigit (h : EndsValue rest) : ∀ c ∈ rest.head?, c.isDigit = false := by
  intro c hc
  rcases h c hc with rfl | rfl | rfl <;> rfl

theorem ReadsLocally.readsAs {α : Type} {read : Reader α} (h : ReadsLocally read)
    {text : List Char} {value : α} (hread : read text = .ok (value, [])) :
    ReadsAs read text value := by
  obtain ⟨taken, htext, htaken⟩ := h text value [] hread
  rw [List.append_nil] at htext
  rw [htext]
  exact htaken

end

/-! ## Locality of numbers -/

section

variable {negative : Bool} {significand : Nat} {start exponent : Int}

theorem finishDouble_local {left after : List Char} {number : JsonNumber}
    (h : finishDouble negative significand exponent left = .ok (number, after)) :
    left = after ∧ ∀ rest,
      finishDouble negative significand exponent rest = .ok (number, rest) := by
  unfold finishDouble at h ⊢
  split at h
  · cases h
    exact ⟨rfl, fun _ => rfl⟩
  · cases h

theorem wholeNumber_local {magnitude : Nat} {left after : List Char} {number : JsonNumber}
    (h : wholeNumber negative magnitude left = .ok (number, after)) :
    left = after ∧ ∀ rest, wholeNumber negative magnitude rest = .ok (number, rest) := by
  unfold wholeNumber at h
  split at h
  · rename_i hpositive
    cases h
    exact ⟨rfl, fun rest => if_pos hpositive⟩
  · rename_i hnegative
    split at h
    · rename_i hrange
      cases h
      exact ⟨rfl, fun rest => by rw [wholeNumber, if_neg hnegative, if_pos hrange]⟩
    · rename_i hrange
      obtain ⟨hleft, hrest⟩ := finishDouble_local h
      exact ⟨hleft, fun rest => by rw [wholeNumber, if_neg hnegative, if_neg hrange, hrest]⟩

/-- The digits of an exponent that are followed by the end of a value are all digits. -/
theorem exponentDigits_of_endsValue {down : Bool} {exponent : Nat} {rest : List Char}
    (h : EndsValue rest) :
    exponentDigits negative significand start down exponent rest =
      finishDouble negative significand (if down then start - exponent else start + exponent)
        rest := by
  cases rest with
  | nil => rfl
  | cons c more =>
    have hc : c.isDigit = false := h.not_isDigit c rfl
    rw [exponentDigits, hc]
    rfl

theorem exponentDigits_local (down : Bool) (exponent : Nat) :
    ReadsLocally (exponentDigits negative significand start down exponent) := by
  intro text number left h
  induction text generalizing exponent with
  | nil =>
    obtain ⟨rfl, hrest⟩ := finishDouble_local h
    refine ⟨[], rfl, fun rest hends => ?_⟩
    rw [List.nil_append, exponentDigits_of_endsValue hends]
    exact hrest rest
  | cons c more ih =>
    rw [exponentDigits] at h
    split at h
    · rename_i hc
      dsimp only at h
      split at h
      · rename_i hsmall
        obtain ⟨taken, rfl, htaken⟩ := ih _ h
        refine ⟨c :: taken, rfl, fun rest hends => ?_⟩
        rw [List.cons_append, exponentDigits, if_pos hc]
        dsimp only
        rw [if_pos hsmall]
        exact htaken rest hends
      · rename_i hlarge
        split at h
        · cases h
        · rename_i hvanishes
          obtain ⟨rfl, hrest⟩ := finishDouble_local h
          refine ⟨c :: more.takeWhile Char.isDigit, ?_, fun rest hends => ?_⟩
          · rw [List.cons_append, List.takeWhile_append_dropWhile]
          · rw [List.cons_append, exponentDigits, if_pos hc]
            dsimp only
            rw [if_neg hlarge, if_neg hvanishes,
              dropWhile_append_of_stop (fun c hc => List.mem_takeWhile_imp hc) hends.not_isDigit]
            exact hrest rest
    · obtain ⟨rfl, hrest⟩ := finishDouble_local h
      refine ⟨[], rfl, fun rest hends => ?_⟩
      rw [List.nil_append, exponentDigits_of_endsValue hends]
      exact hrest rest

/-- An exponent that is read has a digit after its sign, and its sign decides the direction. -/
theorem exists_of_exponentPart {text after : List Char} {number : JsonNumber}
    (h : exponentPart negative significand start text = .ok (number, after)) :
    ∃ sign down c more, text = sign ++ c :: more ∧
      ∀ rest, exponentPart negative significand start (sign ++ c :: rest) =
        exponentDigits negative significand start down (c.toNat - '0'.toNat) rest := by
  unfold exponentPart at h
  dsimp only at h
  split at h
  · cases h
  · rename_i c more htext
    split at h
    · rename_i hc
      split at htext
      · cases htext
        exact ⟨['+'], false, c, more, rfl, fun rest => if_pos hc⟩
      · cases htext
        exact ⟨['-'], true, c, more, rfl, fun rest => if_pos hc⟩
      · rename_i hplus hminus
        cases htext
        refine ⟨[], false, c, more, rfl, fun rest => ?_⟩
        have hsign : c ≠ '+' ∧ c ≠ '-' := by
          constructor <;> rintro rfl <;> exact absurd hc (by decide)
        unfold exponentPart
        simp [hsign.1, hsign.2, hc]
    · cases h

theorem exponentPart_local : ReadsLocally (exponentPart negative significand start) := by
  intro text number left h
  obtain ⟨sign, down, c, more, rfl, hpart⟩ := exists_of_exponentPart h
  rw [hpart] at h
  obtain ⟨taken, rfl, htaken⟩ := exponentDigits_local down _ more number left h
  refine ⟨sign ++ c :: taken, by simp, fun rest hends => ?_⟩
  rw [List.append_assoc, List.cons_append, hpart]
  exact htaken rest hends

/-- Whether a text goes on behind the digits of a number with neither a digit nor an exponent. -/
def EndsDigits (tail : List Char) : Prop :=
  ∀ c ∈ tail.head?, c.isDigit = false ∧ c ≠ 'e' ∧ c ≠ 'E'

theorem EndsValue.endsDigits {rest : List Char} (h : EndsValue rest) : EndsDigits rest := by
  intro c hc
  rcases h c hc with rfl | rfl | rfl <;> decide

/-- Digits after a point are followed by an exponent, or else they end the number. -/
theorem exists_of_places (negative : Bool) (significand : Nat) (start : Int) {places : List Char}
    (hplaces : isDigits places = true) :
    ∃ next power,
      (∀ mark rest, mark = 'e' ∨ mark = 'E' →
        fractionPart negative significand start (places ++ mark :: rest) =
          exponentPart negative next power rest) ∧
      ∀ tail, EndsDigits tail →
        fractionPart negative significand start (places ++ tail) =
          finishDouble negative next power tail := by
  obtain ⟨hne, hall⟩ := isDigits_iff.mp hplaces
  obtain ⟨first, more, rfl⟩ := List.exists_cons_of_ne_nil hne
  have hfirst : first.isDigit = true := hall first List.mem_cons_self
  refine ⟨(absorb significand (first :: more)).1, start - ((first :: more).length -
    (absorb significand (first :: more)).2.length : Nat), ?_, ?_⟩
  · rintro mark rest hmark
    have hstop : ∀ c ∈ (mark :: rest).head?, c.isDigit = false := by
      rintro c ⟨⟩
      rcases hmark with rfl | rfl <;> rfl
    have htake := takeWhile_append_of_stop hall hstop
    have hdrop := dropWhile_append_of_stop hall hstop
    rw [List.cons_append] at htake hdrop ⊢
    rw [fractionPart]
    simp only [hfirst, htake, hdrop, Bool.not_true, Bool.false_eq_true, if_false]
    rcases hmark with rfl | rfl <;> rfl
  · intro tail htail
    have hstop : ∀ c ∈ tail.head?, c.isDigit = false := fun c hc => (htail c hc).1
    have htake := takeWhile_append_of_stop hall hstop
    have hdrop := dropWhile_append_of_stop hall hstop
    rw [List.cons_append] at htake hdrop ⊢
    rw [fractionPart]
    simp only [hfirst, htake, hdrop, Bool.not_true, Bool.false_eq_true, if_false]
    split
    · exact absurd rfl (htail 'e' rfl).2.1
    · exact absurd rfl (htail 'E' rfl).2.2
    · rfl

/-- A text starts with an exponent, or else with the end of the digits before it. -/
theorem exponent_or_endsDigits {text : List Char} (h : ∀ c ∈ text.head?, c.isDigit = false) :
    (∃ mark rest, (mark = 'e' ∨ mark = 'E') ∧ text = mark :: rest) ∨ EndsDigits text := by
  cases text with
  | nil => exact .inr nofun
  | cons c rest =>
    by_cases hmark : c = 'e' ∨ c = 'E'
    · exact .inl ⟨c, rest, hmark, rfl⟩
    · refine .inr ?_
      rintro other ⟨⟩
      exact ⟨h c rfl, not_or.mp hmark⟩

theorem head_dropWhile_isDigit (text : List Char) :
    ∀ c ∈ (text.dropWhile Char.isDigit).head?, c.isDigit = false := by
  intro c hc
  have hhead := List.head?_dropWhile_not Char.isDigit text
  rw [hc] at hhead
  simpa using hhead

theorem fractionPart_local : ReadsLocally (fractionPart negative significand start) := by
  intro text number left h
  have hplaces : isDigits (text.takeWhile Char.isDigit) = true := by
    cases text with
    | nil => cases h
    | cons c more =>
      cases hc : c.isDigit with
      | false => simp [fractionPart, hc, stopBefore] at h
      | true =>
        rw [List.takeWhile_cons_of_pos hc]
        exact isDigits_iff.mpr ⟨List.cons_ne_nil _ _, List.forall_mem_cons.mpr
          ⟨hc, fun c hc => List.mem_takeWhile_imp hc⟩⟩
  obtain ⟨next, power, hexponent, hplain⟩ :=
    exists_of_places negative significand start hplaces
  have htext := List.takeWhile_append_dropWhile (p := Char.isDigit) (l := text)
  generalize text.takeWhile Char.isDigit = places at hplaces hexponent hplain htext
  obtain ⟨mark, rest, hmark, htail⟩ | htail := exponent_or_endsDigits (head_dropWhile_isDigit text)
  · rw [htail] at htext
    rw [← htext, hexponent mark rest hmark] at h
    obtain ⟨taken, rfl, htaken⟩ := exponentPart_local rest number left h
    refine ⟨places ++ mark :: taken, by simp [← htext], fun rest hends => ?_⟩
    rw [List.append_assoc, List.cons_append, hexponent mark _ hmark]
    exact htaken rest hends
  · rw [← htext, hplain _ htail] at h
    obtain ⟨hleft, hrest⟩ := finishDouble_local h
    refine ⟨places, by rw [← hleft, htext], fun rest hends => ?_⟩
    rw [hplain rest hends.endsDigits]
    exact hrest rest

/-- Whether a text goes on behind the integral digits of a number with neither a point nor an
exponent. -/
def EndsWhole (tail : List Char) : Prop :=
  ∀ c ∈ tail.head?, c ≠ '.' ∧ c ≠ 'e' ∧ c ≠ 'E'

theorem EndsValue.endsWhole {rest : List Char} (h : EndsValue rest) : EndsWhole rest := by
  intro c hc
  rcases h c hc with rfl | rfl | rfl <;> decide

/-- A number without fraction and exponent is whole, or a double when it has too many digits. -/
theorem numberTail_of_endsWhole (whole : List Char) {tail : List Char} (h : EndsWhole tail) :
    numberTail negative whole tail =
      if (absorb 0 whole).2.isEmpty then wholeNumber negative (absorb 0 whole).1 tail
      else finishDouble negative (absorb 0 whole).1 (absorb 0 whole).2.length tail := by
  unfold numberTail
  dsimp only
  split
  · exact absurd rfl (h '.' rfl).1
  · exact absurd rfl (h 'e' rfl).2.1
  · exact absurd rfl (h 'E' rfl).2.2
  · rfl

/-- What follows the integral digits of a number is a point, an exponent or the end. -/
theorem point_or_endsWhole (text : List Char) :
    (∃ c rest, (c = '.' ∨ c = 'e' ∨ c = 'E') ∧ text = c :: rest) ∨ EndsWhole text := by
  cases text with
  | nil => exact .inr nofun
  | cons c rest =>
    by_cases hc : c = '.' ∨ c = 'e' ∨ c = 'E'
    · exact .inl ⟨c, rest, hc, rfl⟩
    · obtain ⟨hpoint, hmark⟩ := not_or.mp hc
      refine .inr ?_
      rintro other ⟨⟩
      exact ⟨hpoint, not_or.mp hmark⟩

theorem numberTail_local (whole : List Char) : ReadsLocally (numberTail negative whole) := by
  intro text number left h
  rcases point_or_endsWhole text with ⟨c, more, rfl | rfl | rfl, rfl⟩ | hends
  · obtain ⟨taken, rfl, htaken⟩ := fractionPart_local more number left h
    exact ⟨'.' :: taken, rfl, htaken⟩
  · obtain ⟨taken, rfl, htaken⟩ := exponentPart_local more number left h
    exact ⟨'e' :: taken, rfl, htaken⟩
  · obtain ⟨taken, rfl, htaken⟩ := exponentPart_local more number left h
    exact ⟨'E' :: taken, rfl, htaken⟩
  · rw [numberTail_of_endsWhole whole hends] at h
    split at h
    · rename_i hempty
      refine ⟨[], (wholeNumber_local h).1, fun rest hrest => ?_⟩
      rw [List.nil_append, numberTail_of_endsWhole whole hrest.endsWhole, if_pos hempty]
      exact (wholeNumber_local h).2 rest
    · rename_i hempty
      refine ⟨[], (finishDouble_local h).1, fun rest hrest => ?_⟩
      rw [List.nil_append, numberTail_of_endsWhole whole hrest.endsWhole, if_neg hempty]
      exact (finishDouble_local h).2 rest

/-- A number that starts with another digit than zero. -/
theorem numberAfterSign_append {c : Char} {more tail : List Char} (hzero : c ≠ '0')
    (hdigits : ∀ d ∈ c :: more, d.isDigit = true) (htail : ∀ d ∈ tail.head?, d.isDigit = false) :
    numberAfterSign negative (c :: more ++ tail) = numberTail negative (c :: more) tail := by
  obtain ⟨hc, hmore⟩ := List.forall_mem_cons.mp hdigits
  unfold numberAfterSign
  rw [List.cons_append]
  simp only [hc, if_true, takeWhile_append_of_stop hmore htail,
    dropWhile_append_of_stop hmore htail]

theorem numberAfterSign_zero {tail : List Char} (htail : ∀ d ∈ tail.head?, d.isDigit = false) :
    numberAfterSign negative ('0' :: tail) = numberTail negative ['0'] tail := by
  cases tail with
  | nil => rfl
  | cons c more =>
    have hc : c.isDigit = false := htail c rfl
    rw [numberAfterSign]
    simp only [hc, Bool.false_eq_true, if_false]

theorem head_append_of_endsValue {taken left rest : List Char}
    (h : ∀ c ∈ (taken ++ left).head?, c.isDigit = false) (hends : EndsValue rest) :
    ∀ c ∈ (taken ++ rest).head?, c.isDigit = false := by
  cases taken with
  | nil => exact hends.not_isDigit
  | cons c more => exact h

theorem numberAfterSign_local : ReadsLocally (numberAfterSign negative) := by
  intro text number left h
  cases text with
  | nil => cases h
  | cons c more =>
    by_cases hzero : c = '0'
    · subst hzero
      have hhead : ∀ d ∈ more.head?, d.isDigit = false := by
        intro d hd
        cases more with
        | nil => cases hd
        | cons other rest =>
          cases hd
          cases hdigit : d.isDigit with
          | false => rfl
          | true => simp [numberAfterSign, hdigit, stopBefore] at h
      rw [numberAfterSign_zero hhead] at h
      obtain ⟨taken, rfl, htaken⟩ := numberTail_local _ more number left h
      refine ⟨'0' :: taken, rfl, fun rest hends => ?_⟩
      rw [List.cons_append, numberAfterSign_zero (head_append_of_endsValue hhead hends)]
      exact htaken rest hends
    · have hc : c.isDigit = true := by
        cases hdigit : c.isDigit with
        | true => rfl
        | false => simp [numberAfterSign, hdigit] at h
      have hdigits : ∀ d ∈ c :: more.takeWhile Char.isDigit, d.isDigit = true :=
        List.forall_mem_cons.mpr ⟨hc, fun d hd => List.mem_takeWhile_imp hd⟩
      have hhead := head_dropWhile_isDigit more
      have htext : c :: more =
          c :: more.takeWhile Char.isDigit ++ more.dropWhile Char.isDigit := by
        rw [List.cons_append, List.takeWhile_append_dropWhile]
      rw [htext, numberAfterSign_append hzero hdigits hhead] at h
      obtain ⟨taken, htail, htaken⟩ := numberTail_local _ _ number left h
      rw [htail] at hhead
      refine ⟨c :: more.takeWhile Char.isDigit ++ taken, ?_, fun rest hends => ?_⟩
      · rw [htext, htail, List.append_assoc]
      · rw [List.append_assoc,
          numberAfterSign_append hzero hdigits (head_append_of_endsValue hhead hends)]
        exact htaken rest hends

end

/-! ## Integers -/

/-- Digits whose number has 64 bits all go into the significand. -/
theorem absorb_eq {significand : Nat} {digits : List Char}
    (h : significand * 10 ^ digits.length + digitsValue digits < 2 ^ 64) :
    absorb significand digits =
      (significand * 10 ^ digits.length + digitsValue digits, []) := by
  induction digits generalizing significand with
  | nil => simp [absorb, digitsValue]
  | cons c rest ih =>
    have hvalue : (significand * 10 + (c.toNat - '0'.toNat)) * 10 ^ rest.length +
        digitsValue rest = significand * 10 ^ (c :: rest).length + digitsValue (c :: rest) := by
      rw [digitsValue_cons, List.length_cons, Nat.pow_succ]
      ring
    have hnext : significand * 10 + (c.toNat - '0'.toNat) < 2 ^ 64 := by
      have hpos : 0 < 10 ^ rest.length := Nat.pow_pos (by decide)
      have hle := Nat.le_mul_of_pos_right (significand * 10 + (c.toNat - '0'.toNat)) hpos
      omega
    rw [absorb, if_pos hnext, ih (by omega), hvalue]

theorem absorb_digitChars {n : Nat} (hn : n < 2 ^ 64) : absorb 0 (digitChars n) = (n, []) := by
  have h := @absorb_eq 0 (digitChars n) (by simpa using hn)
  simpa using h

/-- The digits of a positive number do not start with a zero. -/
theorem head_digitChars_ne {n : Nat} (hn : 0 < n) {more : List Char} :
    digitChars n ≠ '0' :: more := by
  intro hdigits
  have hvalue := digitsValue_digitChars n
  have hlower := ten_pow_pred_length_le hn
  have hmore : ∀ c ∈ more, c.isDigit = true :=
    fun c hc => isDigit_of_mem_digitChars (hdigits ▸ List.mem_cons_of_mem _ hc)
  have hupper := digitsValue_lt hmore
  rw [hdigits, digitsValue_cons, Nat.sub_self, Nat.zero_mul, Nat.zero_add] at hvalue
  rw [hdigits, List.length_cons, Nat.add_sub_cancel] at hlower
  omega

/-- The digits of a number of 64 bits are read as that number. -/
theorem numberAfterSign_digitChars (negative : Bool) {n : Nat} (hn : n < 2 ^ 64)
    {tail : List Char} (htail : EndsValue tail) :
    numberAfterSign negative (digitChars n ++ tail) = wholeNumber negative n tail := by
  have hplain : numberTail negative (digitChars n) tail = wholeNumber negative n tail := by
    rw [numberTail_of_endsWhole _ htail.endsWhole, absorb_digitChars hn]
    rfl
  obtain rfl | hpos := Nat.eq_zero_or_pos n
  · exact (numberAfterSign_zero htail.not_isDigit).trans hplain
  · obtain ⟨hne, hall⟩ := isDigits_iff.mp (isDigits_digitChars n)
    obtain ⟨c, more, hdigits⟩ := List.exists_cons_of_ne_nil hne
    have hzero : c ≠ '0' := by
      rintro rfl
      exact head_digitChars_ne hpos hdigits
    rw [hdigits] at hall hplain ⊢
    exact (numberAfterSign_append hzero hall htail.not_isDigit).trans hplain

/-! ## Numbers with their sign -/

/-- Whether a text with a sign, or without one, is read as a number, whatever may follow it. -/
inductive ReadsNumber : List Char → JsonNumber → Prop where
  | negative {digits : List Char} {number : JsonNumber}
      (h : ReadsAs (numberAfterSign true) digits number) : ReadsNumber ('-' :: digits) number
  | positive {c : Char} {more : List Char} {number : JsonNumber} (hc : c.isDigit = true)
      (h : ReadsAs (numberAfterSign false) (c :: more) number) : ReadsNumber (c :: more) number

/-- Integers of 64 bits, with or without a sign, are read back. -/
theorem readsNumber_integer {value : Int} (hlower : -2 ^ 63 ≤ value) (hupper : value < 2 ^ 64) :
    ReadsNumber (integerChars value) (.integer value) := by
  by_cases hneg : value < 0
  · have hchars : integerChars value = '-' :: digitChars value.natAbs := by
      simp [integerChars, Double.signChars, hneg]
    rw [hchars]
    refine .negative fun rest hends => ?_
    rw [numberAfterSign_digitChars true (by omega) hends, wholeNumber, if_neg (by simp),
      if_pos (by omega)]
    congr
    omega
  · have hchars : integerChars value = digitChars value.natAbs := by
      simp [integerChars, Double.signChars, hneg]
    obtain ⟨hne, hall⟩ := isDigits_iff.mp (isDigits_digitChars value.natAbs)
    have hread : ReadsAs (numberAfterSign false) (digitChars value.natAbs) (.integer value) := by
      intro rest hends
      rw [numberAfterSign_digitChars false (by omega) hends, wholeNumber, if_pos (by simp)]
      congr
      omega
    obtain ⟨c, more, hdigits⟩ := List.exists_cons_of_ne_nil hne
    rw [hchars]
    rw [hdigits] at hall hread ⊢
    exact .positive (hall c List.mem_cons_self) hread

/-! ## Doubles -/

theorem isSpace_eq_false_of_isDigit {c : Char} (hc : c.isDigit = true) : isSpace c = false := by
  rw [← Bool.not_eq_true]
  intro hspace
  simp only [isSpace, Bool.or_eq_true, decide_eq_true_eq] at hspace
  rcases hspace with ((rfl | rfl) | rfl) | rfl <;> exact absurd hc (by decide)

/-- A numeral holds no blanks. -/
theorem isSpace_eq_false_of_mem_numeral {numeral : Numeral} {c : Char} (hc : c ∈ numeral.chars) :
    isSpace c = false := by
  obtain ⟨-, hwhole⟩ := isDigits_iff.mp numeral.isWhole
  rw [Numeral.chars, Numeral.mainChars, List.mem_append, List.mem_append, List.mem_append] at hc
  obtain ((hsign | hmem) | hmem) | hmem := hc
  · cases hnegative : numeral.negative with
    | false =>
      rw [hnegative] at hsign
      cases hsign
    | true =>
      rw [hnegative] at hsign
      rw [List.mem_singleton.mp hsign]
      rfl
  · exact isSpace_eq_false_of_isDigit (hwhole c hmem)
  · split at hmem
    · cases hmem
    · obtain rfl | hplace := List.mem_cons.mp hmem
      · rfl
      · exact isSpace_eq_false_of_isDigit (numeral.arePlaces c hplace)
  · cases hpower : numeral.power with
    | none =>
      rw [hpower] at hmem
      cases hmem
    | some power =>
      rw [hpower] at hmem
      obtain rfl | hmem := List.mem_cons.mp hmem
      · rfl
      · obtain rfl | hdigits := List.mem_cons.mp hmem
        · split <;> rfl
        · exact isSpace_eq_false_of_isDigit (isDigit_of_mem_digitChars hdigits)

theorem skipSpaces_of_forall {text : List Char} (h : ∀ c ∈ text, isSpace c = false) :
    skipSpaces text = text := by
  cases text with
  | nil => rfl
  | cons c rest =>
    exact List.dropWhile_cons_of_neg (by simp [h c List.mem_cons_self])

end DocumentMapping.Json
