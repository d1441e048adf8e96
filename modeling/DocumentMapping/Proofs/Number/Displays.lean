import DocumentMapping.Proofs.Number.RoundedDecimals

/-!
# Displayed numbers are read exactly

A displayed number has digits around a point, of which those before it can be left out. When a
decimal has its value it is read as that value, however many zeros stand around the digits: what
does not fit into the reading any more are zeros at the end.
-/

namespace DocumentMapping

namespace Decimal

/-! ## Digits behind the point -/

section

variable {negative : Bool} {number places mantissa scale : Nat} {digits : List Char}

/-- The number that has been read, continued by the digits at hand, is that of a decimal. -/
def Continues (number places : Nat) (digits : List Char) (mantissa scale : Nat) : Prop :=
  (number * 10 ^ digits.length + digitsValue digits) * 10 ^ scale =
    mantissa * 10 ^ (places + digits.length)

/-- A digit continues the number. -/
theorem Continues.step {c : Char} {rest : List Char}
    (h : Continues number places (c :: rest) mantissa scale) :
    Continues (number * 10 + (c.toNat - '0'.toNat)) (places + 1) rest mantissa scale := by
  have hnumber : (number * 10 + (c.toNat - '0'.toNat)) * 10 ^ rest.length + digitsValue rest =
      number * 10 ^ (c :: rest).length + digitsValue (c :: rest) := by
    rw [digitsValue_cons, List.length_cons, Nat.pow_succ]
    ring
  have hplaces : places + 1 + rest.length = places + (c :: rest).length := by
    rw [List.length_cons]
    omega
  rw [Continues, hnumber, hplaces]
  exact h

/-- With as many places as the decimal only zeros are left. -/
theorem Continues.digitsValue_eq_zero (h : Continues number places digits mantissa scale)
    (hdigits : ∀ c ∈ digits, c.isDigit = true) (hscale : scale ≤ places) :
    digitsValue digits = 0 := by
  obtain ⟨more, rfl⟩ := Nat.exists_eq_add_of_le hscale
  have hwhole : number * 10 ^ digits.length + digitsValue digits =
      mantissa * 10 ^ more * 10 ^ digits.length := by
    refine Nat.eq_of_mul_eq_mul_right (Nat.pow_pos (by decide) : 0 < 10 ^ scale) ?_
    rw [h, Nat.pow_add, Nat.pow_add]
    ring
  have hmod := congrArg (· % 10 ^ digits.length) hwhole
  simpa [Nat.mul_add_mod_self_right, Nat.mod_eq_of_lt (digitsValue_lt hdigits)] using hmod

/-- When only zeros are left, the value has been read. -/
theorem Continues.div_eq (h : Continues number places digits mantissa scale)
    (hzero : digitsValue digits = 0) :
    (number / 10 ^ places : ℚ) = mantissa / 10 ^ scale := by
  have hunit : 0 < 10 ^ digits.length := Nat.pow_pos (by decide)
  rw [Continues, hzero, Nat.add_zero, Nat.mul_right_comm, Nat.pow_add, ← Nat.mul_assoc] at h
  have hcross := Nat.eq_of_mul_eq_mul_right hunit h
  rw [div_eq_div_iff (by positivity) (by positivity)]
  exact_mod_cast hcross

/-- As long as the decimal has more places, the number that has been read fits. -/
theorem Continues.le_mantissa (h : Continues number places digits mantissa scale)
    (hscale : places ≤ scale) : number ≤ mantissa := by
  obtain ⟨more, rfl⟩ := Nat.exists_eq_add_of_le hscale
  have hunit : 0 < 10 ^ (places + digits.length) := Nat.pow_pos (by decide)
  have hmore : 0 < 10 ^ more := Nat.pow_pos (by decide)
  refine Nat.le_of_mul_le_mul_right ?_ hunit
  calc number * 10 ^ (places + digits.length)
      = number * 10 ^ digits.length * 10 ^ places := by rw [Nat.pow_add]; ring
    _ ≤ (number * 10 ^ digits.length + digitsValue digits) * 10 ^ (places + more) := by
        refine Nat.mul_le_mul (Nat.le_add_right _ _) ?_
        exact Nat.pow_le_pow_right (by decide) (Nat.le_add_right _ _)
    _ = mantissa * 10 ^ (places + digits.length) := h

/-- Zeros that do not fit are passed over. -/
theorem finishRounded_zeros {c : Char} {rest : List Char}
    (hdigits : ∀ d ∈ c :: rest, d.isDigit = true) (hzero : digitsValue (c :: rest) = 0) :
    finishRounded negative number scale c rest = Reading.finish negative number scale := by
  obtain ⟨hc, hrest⟩ := List.forall_mem_cons.mp hdigits
  have hdigit : c.toNat - '0'.toNat = 0 := by
    rw [digitsValue_cons] at hzero
    refine (Nat.mul_eq_zero.mp (Nat.add_eq_zero_iff.mp hzero).1).resolve_right ?_
    exact (Nat.pow_pos (by decide)).ne'
  have hall : rest.all (fun c => c.isDigit || c = '_') = true := by
    simpa using fun c hc => Or.inl (hrest c hc)
  rw [finishRounded, if_neg (ne_of_isDigit hc (by decide)), digitValue?_of_isDigit hc, hdigit, hall]
  rfl

/-- A finished reading stands for what has been read. -/
theorem exists_finish (hnumber : number < 2 ^ 96) (hplaces : places ≤ 28) :
    ∃ y, Reading.finish negative number places = some y ∧
      y.value = (if negative then -1 else 1) * (number / 10 ^ places) := by
  rw [Reading.finish, ofParts?, dif_pos ⟨hnumber, hplaces⟩]
  refine ⟨_, rfl, ?_⟩
  rw [value, mul_div_assoc]
  dsimp only
  by_cases hzero : number = 0
  · simp [hzero]
  · simp [hzero]

/-- Digits behind the point are read as the decimal that they are those of. -/
theorem exists_readDigits_places (hdigits : ∀ c ∈ digits, c.isDigit = true)
    (h : Continues number places digits mantissa scale) (hmantissa : mantissa < 2 ^ 96)
    (hscale : scale ≤ 28) (hnumber : number < 2 ^ 96) (hplaces : places ≤ 28) {seen : Bool}
    (hseen : seen = true ∨ digits ≠ []) :
    ∃ y, readDigits negative ⟨number, some places, seen⟩ digits = some y ∧
      y.value = (if negative then -1 else 1) * (mantissa / 10 ^ scale) := by
  have hfinish {number places : Nat} {digits : List Char}
      (h : Continues number places digits mantissa scale) (hzero : digitsValue digits = 0)
      (hnumber : number < 2 ^ 96) (hplaces : places ≤ 28) :
      ∃ y, Reading.finish negative number places = some y ∧
        y.value = (if negative then -1 else 1) * (mantissa / 10 ^ scale) := by
    rw [← h.div_eq hzero]
    exact exists_finish hnumber hplaces
  -- a digit that is read continues the number, and the first one that does not fit ends the reading
  induction digits generalizing number places seen with
  | nil =>
    have hread : readDigits negative ⟨number, some places, seen⟩ [] =
        Reading.finish negative number places :=
      if_pos (hseen.resolve_right (· rfl))
    rw [hread]
    exact hfinish h rfl hnumber hplaces
  | cons c rest ih =>
    obtain ⟨hc, hrest⟩ := List.forall_mem_cons.mp hdigits
    have hnext := h.step
    by_cases hfull : places = 28
    · have hzero := h.digitsValue_eq_zero hdigits (hfull ▸ hscale)
      rw [readDigits, if_pos (congrArg some hfull), ← hfull, finishRounded_zeros hdigits hzero]
      exact hfinish h hzero hnumber hplaces
    rw [readDigits, if_neg (by simpa using hfull), if_neg (ne_of_isDigit hc (by decide)),
      if_neg (ne_of_isDigit hc (by decide)), digitValue?_of_isDigit hc]
    dsimp only
    by_cases hfits : number * 10 + (c.toNat - '0'.toNat) < 2 ^ 96
    · rw [if_pos hfits, Option.map_some]
      exact ih hrest hnext hfits (by omega) (.inl rfl)
    · -- the digits of the decimal have all been read
      have hpassed : scale ≤ places := by
        by_contra hmore
        have hle := hnext.le_mantissa (by omega)
        omega
      have hzero := h.digitsValue_eq_zero hdigits hpassed
      rw [if_neg hfits, finishRounded_zeros hdigits hzero]
      exact hfinish h hzero hnumber hplaces

end

end Decimal

/-! ## Displays -/

/-- A number as it is displayed: digits around a point, of which those before it can be left out. -/
structure Display where
  negative : Bool
  whole : List Char
  places : List Char
  isWhole : ∀ c ∈ whole, c.isDigit = true
  arePlaces : ∀ c ∈ places, c.isDigit = true
  isShown : whole ≠ [] ∨ places ≠ []

/-- The digits behind the point. Without any there is no point. -/
def pointChars (places : List Char) : List Char :=
  if places.isEmpty then [] else '.' :: places

theorem eq_point_of_mem_head? {places : List Char} {c : Char}
    (h : c ∈ (pointChars places).head?) : c = '.' := by
  unfold pointChars at h
  split at h
  · cases h
  · exact (Option.some.inj h).symm

/-- Digits around a point begin with a digit or with the point. -/
theorem isDigit_or_point_of_mem_head? {whole places : List Char} {c : Char}
    (hwhole : ∀ c ∈ whole, c.isDigit = true) (h : c ∈ (whole ++ pointChars places).head?) :
    c.isDigit = true ∨ c = '.' := by
  cases whole with
  | nil => exact .inr (eq_point_of_mem_head? h)
  | cons first rest =>
    obtain rfl : first = c := by simpa using h
    exact .inl (hwhole first List.mem_cons_self)

namespace Display

/-- The text of a display. -/
def chars (d : Display) : List Char :=
  Double.signChars d.negative ++ d.whole ++ pointChars d.places

/-- The number that a display stands for. -/
def value (d : Display) : ℚ :=
  (if d.negative then -1 else 1) * (digitsValue (d.whole ++ d.places) / 10 ^ d.places.length)

/-- A display is more than a sign. -/
theorem chars_ne (d : Display) : d.chars ≠ [] ∧ d.chars ≠ ['-'] := by
  have hbody : d.whole ++ pointChars d.places ≠ [] := by
    intro hnil
    obtain ⟨hwhole, hplaces⟩ := List.append_eq_nil_iff.mp hnil
    have hne := d.isShown.resolve_left (· hwhole)
    simp [pointChars, hne] at hplaces
  have hsign : ∀ c ∈ (d.whole ++ pointChars d.places).head?, c ≠ '-' := by
    intro c hc
    obtain hdigit | rfl := isDigit_or_point_of_mem_head? d.isWhole hc
    · exact Decimal.ne_of_isDigit hdigit (by decide)
    · decide
  rw [chars, List.append_assoc]
  generalize d.whole ++ pointChars d.places = body at hbody hsign
  cases d.negative with
  | true => simpa [Double.signChars] using hbody
  | false =>
    refine ⟨hbody, ?_⟩
    rintro rfl
    exact absurd rfl (hsign '-' rfl)

/-- A display with the value of a decimal is read as that value. -/
theorem exists_read? (d : Display) {x : Decimal} (h : x.value = d.value) :
    ∃ y, Decimal.read? d.chars = some y ∧ y.value = x.value := by
  have hmagnitude : (x.mantissa / 10 ^ x.scale : ℚ) =
      digitsValue (d.whole ++ d.places) / 10 ^ d.places.length := by
    rw [← x.abs_value, h, value]
    exact abs_sign_mul _ (by positivity)
  have hcontinues : Decimal.Continues (digitsValue d.whole) 0 d.places x.mantissa x.scale := by
    rw [div_eq_div_iff (by positivity) (by positivity)] at hmagnitude
    rw [Decimal.Continues, ← digitsValue_append, Nat.zero_add]
    exact_mod_cast hmagnitude.symm
  have hwhole : digitsValue d.whole < 2 ^ 96 :=
    (hcontinues.le_mantissa (Nat.zero_le _)).trans_lt x.mantissa_lt
  have hsign : ∀ c ∈ (d.whole ++ pointChars d.places).head?, c ≠ '-' ∧ c ≠ '+' := by
    intro c hc
    obtain hdigit | rfl := isDigit_or_point_of_mem_head? d.isWhole hc
    · exact ⟨Decimal.ne_of_isDigit hdigit (by decide), Decimal.ne_of_isDigit hdigit (by decide)⟩
    · decide
  have hread : ∃ y, Decimal.ofPositional? d.chars = some y ∧
      y.value = (if d.negative then -1 else 1) * (x.mantissa / 10 ^ x.scale) := by
    rw [chars, List.append_assoc, Decimal.ofPositional?_sign _ hsign,
      Decimal.readDigits_whole d.isWhole _ _ (by decide), Nat.zero_mul, Nat.zero_add, if_pos hwhole,
      Bool.false_or]
    cases hplaces : d.places with
    | nil =>
      have hseen : (!d.whole.isEmpty) = true := by
        simpa using d.isShown.resolve_right (· hplaces)
      have hdone := hcontinues.div_eq (by rw [hplaces]; rfl)
      rw [hseen, ← hdone]
      exact Decimal.exists_finish hwhole (Nat.zero_le _)
    | cons c rest =>
      have hne : d.places ≠ [] := by simp [hplaces]
      have hpoint : pointChars (c :: rest) = '.' :: d.places := by
        rw [hplaces]
        rfl
      rw [hpoint, Decimal.readDigits, if_neg (by simp), if_pos rfl]
      exact Decimal.exists_readDigits_places d.arePlaces hcontinues x.mantissa_lt x.scale_le hwhole
        (Nat.zero_le _) (.inr hne)
  obtain ⟨y, hy, hvalue⟩ := hread
  refine ⟨y, by rw [Decimal.read?, hy, Option.some_or], ?_⟩
  rw [hvalue, hmagnitude, h, value]

end Display

end DocumentMapping
