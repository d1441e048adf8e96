import DocumentMapping.Format.Number
import DocumentMapping.Proofs.Number.Displays
import DocumentMapping.Proofs.Text.CharSets

/-!
# Digits of written numbers

A decimal is displayed with a number of places. Its digits before the point are put into groups of
three, zeros are taken off the end of its places, and zeros are put in front of it.
-/

namespace DocumentMapping

/-! ## Decimals with fixed places -/

namespace Decimal

/-- A decimal with a number of places. Those that it does not have are zeros. -/
def display (x : Decimal) (count : Nat) : Display where
  negative := x.negative
  whole := x.numeral.whole
  places := x.numeral.places ++ List.replicate (count - x.scale) '0'
  isWhole := (isDigits_iff.mp x.numeral.isWhole).2
  arePlaces := by
    refine List.forall_mem_append.mpr ⟨x.numeral.arePlaces, fun c hc => ?_⟩
    rw [List.eq_of_mem_replicate hc]
    decide
  isShown := .inl (isDigits_iff.mp x.numeral.isWhole).1

variable {x : Decimal} {count : Nat}

theorem length_places_display (h : x.scale ≤ count) : (x.display count).places.length = count := by
  rw [display, List.length_append, List.length_replicate, length_numeral_places]
  omega

/-- A display of a decimal has its value, with any number of places. -/
theorem value_display (x : Decimal) (count : Nat) : (x.display count).value = x.value := by
  have hdigits : digitsValue ((x.display count).whole ++ (x.display count).places) =
      x.mantissa * 10 ^ (count - x.scale) := by
    rw [display, ← List.append_assoc, digitsValue_append, digitsValue_replicate_zero, Nat.add_zero,
      List.length_replicate, ← x.digits_numeral]
    rfl
  have hlength : (x.display count).places.length = x.scale + (count - x.scale) := by
    rw [display, List.length_append, List.length_replicate, length_numeral_places]
  have hnegative : (x.display count).negative = x.negative := rfl
  rw [Display.value, hdigits, hlength, hnegative, value, pow_add, mul_div_assoc]
  push_cast
  rw [mul_div_mul_right _ _ (by positivity)]

theorem charsWithPlaces_eq (h : x.scale ≤ count) :
    x.charsWithPlaces count = (x.display count).chars := by
  have htake : x.numeral.places.take count = x.numeral.places :=
    List.take_of_length_le (x.length_numeral_places.trans_le h)
  have hplaces : (x.display count).places = x.numeral.places.take count ++
      List.replicate (count - (x.numeral.places.take count).length) '0' := by
    rw [htake, length_numeral_places]
    rfl
  rw [Display.chars, hplaces]
  rfl

theorem chars_eq (x : Decimal) : x.chars = (x.display x.scale).chars := by
  have hplaces : (x.display x.scale).places = x.numeral.places := by simp [display]
  rw [Display.chars, hplaces]
  rfl

end Decimal

namespace Format

/-! ## Groups of three -/

section

variable {digits whole places : List Char} {negative : Bool}

/-- Digits are written with commas between groups of exactly three, counted from the right. -/
def InThrees (digits written : List Char) : Prop :=
  ∃ first groups, digits = first ++ List.flatten groups ∧
    written = first ++ groups.flatMap (',' :: ·) ∧
    first.length ≤ 3 ∧ (groups ≠ [] → first ≠ []) ∧ ∀ group ∈ groups, group.length = 3

theorem inThrees_groupDigits (digits : List Char) : InThrees digits (groupDigits digits) := by
  induction digits with
  | nil => exact ⟨[], [], rfl, rfl, Nat.zero_le 3, fun h => absurd rfl h, by simp⟩
  | cons digit rest ih =>
    obtain ⟨first, groups, hrest, hwritten, hfirst, hne, hgroups⟩ := ih
    have hlength : rest.length = first.length + groups.length * 3 := by
      rw [hrest, List.length_append, List.length_flatten, List.map_eq_replicate_iff.mpr hgroups,
        List.sum_replicate_nat]
    rw [groupDigits, hwritten]
    split
    · -- the first group is full, and the digit begins another one before the comma
      rename_i hfull
      have hpos : first ≠ [] := by
        rintro rfl
        have hnone : groups = [] := by simpa using hne
        exact hfull.2 (by simp [hrest, hnone])
      have hthree : first.length = 3 := by
        have := List.length_pos_iff.mpr hpos
        omega
      refine ⟨[digit], first :: groups, ?_, ?_, ?_, fun _ => List.cons_ne_nil _ _, ?_⟩
      · simp [hrest]
      · simp
      · exact Nat.one_le_ofNat
      · exact List.forall_mem_cons.mpr ⟨hthree, hgroups⟩
    · -- the first group has room for the digit
      rename_i hopen
      refine ⟨digit :: first, groups, ?_, rfl, ?_, fun _ => List.cons_ne_nil _ _, hgroups⟩
      · simp [hrest]
      · rw [List.length_cons]
        by_contra hlong
        have hthree : first.length = 3 := by omega
        refine hopen ⟨by omega, fun hnil => ?_⟩
        rw [hnil, List.length_nil] at hlength
        omega

/-- Without the commas the digits are as they were. -/
theorem filter_groupDigits (h : ∀ c ∈ digits, c ≠ ',') :
    (groupDigits digits).filter (· ≠ ',') = digits := by
  induction digits with
  | nil => rfl
  | cons digit rest ih =>
    obtain ⟨hdigit, hrest⟩ := List.forall_mem_cons.mp h
    rw [groupDigits]
    split
    · rw [List.filter_cons_of_pos (by simpa using hdigit), List.filter_cons_of_neg (by decide),
        ih hrest]
    · rw [List.filter_cons_of_pos (by simpa using hdigit), ih hrest]

/-! ## The parts of a written number -/

/-- Digits around a point do not begin with a sign. -/
theorem takeWhile_sign (hwhole : ∀ c ∈ whole, c.isDigit = true) :
    (Double.signChars negative ++ (whole ++ pointChars places)).takeWhile (· = '-') =
      Double.signChars negative := by
  refine takeWhile_append_of_stop (fun c hc => ?_) fun c hc => ?_
  · cases negative with
    | true => simpa [Double.signChars] using hc
    | false => cases hc
  · obtain hdigit | rfl := isDigit_or_point_of_mem_head? hwhole hc
    · exact decide_eq_false (Decimal.ne_of_isDigit hdigit (by decide))
    · decide

theorem ne_point_of_isDigit (hwhole : ∀ c ∈ whole, c.isDigit = true) :
    ∀ c ∈ whole, decide (c ≠ '.') = true :=
  fun c hc => decide_eq_true (Decimal.ne_of_isDigit (hwhole c hc) (by decide))

theorem takeWhile_point (hwhole : ∀ c ∈ whole, c.isDigit = true) :
    (whole ++ pointChars places).takeWhile (· ≠ '.') = whole := by
  refine takeWhile_append_of_stop (ne_point_of_isDigit hwhole) fun c hc => ?_
  rw [eq_point_of_mem_head? hc]
  decide

theorem dropWhile_point (hwhole : ∀ c ∈ whole, c.isDigit = true) :
    ((whole ++ pointChars places).dropWhile (· ≠ '.')).drop 1 = places := by
  have hdrop : (whole ++ pointChars places).dropWhile (· ≠ '.') = pointChars places := by
    refine dropWhile_append_of_stop (ne_point_of_isDigit hwhole) fun c hc => ?_
    rw [eq_point_of_mem_head? hc]
    decide
  rw [hdrop]
  cases places <;> rfl

/-- The digits before the point are grouped. -/
theorem groupThousands_eq (hwhole : ∀ c ∈ whole, c.isDigit = true) :
    groupThousands (Double.signChars negative ++ whole ++ pointChars places) =
      Double.signChars negative ++ groupDigits whole ++ pointChars places := by
  rw [List.append_assoc, groupThousands, takeWhile_sign hwhole, List.drop_left,
    takeWhile_point hwhole, List.drop_left]

theorem groupThousands_digits (hdigits : ∀ c ∈ digits, c.isDigit = true) :
    groupThousands digits = groupDigits digits := by
  have hgrouped : groupThousands (Double.signChars false ++ digits ++ pointChars []) =
      Double.signChars false ++ groupDigits digits ++ pointChars [] :=
    groupThousands_eq hdigits
  simpa [Double.signChars, pointChars] using hgrouped

end

/-! ## Zeros around a number -/

section

variable {digits whole places : List Char} {width least : Nat}

theorem isDigit_of_mem_padZeros (h : ∀ c ∈ digits, c.isDigit = true) :
    ∀ c ∈ padZeros width digits, c.isDigit = true := by
  refine List.forall_mem_append.mpr ⟨fun c hc => ?_, h⟩
  rw [List.eq_of_mem_replicate hc]
  decide

theorem le_length_padZeros (width : Nat) (digits : List Char) :
    width ≤ (padZeros width digits).length := by
  rw [padZeros, List.length_append, List.length_replicate]
  omega

theorem digitsValue_padZeros (width : Nat) (digits : List Char) :
    digitsValue (padZeros width digits) = digitsValue digits := by
  rw [padZeros, digitsValue_append, digitsValue_replicate_zero, Nat.zero_mul, Nat.zero_add]

theorem digitsValue_dropWhile_zero (digits : List Char) :
    digitsValue (digits.dropWhile (· = '0')) = digitsValue digits := by
  induction digits with
  | nil => rfl
  | cons c rest ih =>
    by_cases hc : c = '0'
    · rw [List.dropWhile_cons_of_pos (by simpa using hc), ih, digitsValue_cons, hc, Nat.sub_self,
        Nat.zero_mul, Nat.zero_add]
    · rw [List.dropWhile_cons_of_neg (by simpa using hc)]

/-- Only zeros are taken off. -/
theorem exists_zeros_trimPlaces (least : Nat) (places : List Char) :
    ∃ zeros, places = trimPlaces least places ++ List.replicate zeros '0' := by
  let tail := (places.drop least).reverse
  have hzeros : (tail.takeWhile (· = '0')).reverse =
      List.replicate (tail.takeWhile (· = '0')).length '0' := by
    rw [List.eq_replicate_iff]
    refine ⟨List.length_reverse, fun c hc => ?_⟩
    simpa using List.mem_takeWhile_imp (List.mem_reverse.mp hc)
  have htail : places.drop least = (tail.dropWhile (· = '0')).reverse ++
      (tail.takeWhile (· = '0')).reverse := by
    rw [← List.reverse_append, List.takeWhile_append_dropWhile, List.reverse_reverse]
  refine ⟨(tail.takeWhile (· = '0')).length, ?_⟩
  rw [trimPlaces, List.append_assoc, ← hzeros, ← htail, List.take_append_drop]

theorem le_length_trimPlaces (h : least ≤ places.length) :
    least ≤ (trimPlaces least places).length := by
  rw [trimPlaces, List.length_append, List.length_take]
  omega

/-- Beyond the least number of places the last one is not a zero. -/
theorem getLast?_trimPlaces (h : least < (trimPlaces least places).length) :
    (trimPlaces least places).getLast? ≠ some '0' := by
  have hhead : ∀ c ∈ ((places.drop least).reverse.dropWhile (· = '0')).head?, c ≠ '0' := by
    intro c hc
    obtain ⟨rest, hcons⟩ := List.head?_eq_some_iff.mp hc
    have hnot := List.head_dropWhile_not (p := (· = '0')) (l := (places.drop least).reverse)
      (by simp [hcons])
    simpa [hcons] using hnot
  rw [trimPlaces] at h ⊢
  generalize (places.drop least).reverse.dropWhile (· = '0') = kept at h hhead ⊢
  cases kept with
  | nil =>
    rw [List.length_append, List.length_take] at h
    simp at h
  | cons c rest => simpa using hhead c rfl

end

end Format

end DocumentMapping
