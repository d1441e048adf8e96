import DocumentMapping.Json.Printer
import DocumentMapping.Proofs.Number.Numeral

/-!
# Decimals are read exactly

A decimal is read digit by digit. As long as the digits and places fit, what is read is the number
that is written; where the digits before the point do not fit, nothing is read. So a number in
decimal notation is read as itself when it has at most twenty-eight places.
-/

namespace DocumentMapping.Decimal

/-! ## Digits -/

section

variable {negative : Bool} {mantissa : Nat} {digits : List Char}

theorem digitValue?_of_isDigit {c : Char} (h : c.isDigit = true) :
    digitValue? c = some (c.toNat - '0'.toNat) :=
  if_pos h

theorem ne_of_isDigit {c other : Char} (h : c.isDigit = true) (hother : other.isDigit = false) :
    c ≠ other := by
  rintro rfl
  rw [h] at hother
  cases hother

theorem le_mul_ten_pow (number count : Nat) : number ≤ number * 10 ^ count :=
  Nat.le_mul_of_pos_right number (Nat.pow_pos (by decide))

/-- Digits before the point are read as long as the number fits. -/
theorem readDigits_whole (hdigits : ∀ c ∈ digits, c.isDigit = true) (rest : List Char)
    (seen : Bool) (hmantissa : mantissa < 2 ^ 96) :
    readDigits negative ⟨mantissa, none, seen⟩ (digits ++ rest) =
      if mantissa * 10 ^ digits.length + digitsValue digits < 2 ^ 96 then
        readDigits negative ⟨mantissa * 10 ^ digits.length + digitsValue digits, none,
          seen || !digits.isEmpty⟩ rest
      else none := by
  induction digits generalizing mantissa seen with
  | nil => simp [digitsValue, hmantissa]
  | cons c more ih =>
    obtain ⟨hc, hmore⟩ := List.forall_mem_cons.mp hdigits
    have hvalue : mantissa * 10 ^ (c :: more).length + digitsValue (c :: more) =
        (mantissa * 10 + (c.toNat - '0'.toNat)) * 10 ^ more.length + digitsValue more := by
      rw [digitsValue_cons, List.length_cons]
      ring
    rw [hvalue, List.cons_append, readDigits, if_neg (by simp),
      if_neg (ne_of_isDigit hc (by decide)), if_neg (ne_of_isDigit hc (by decide)),
      digitValue?_of_isDigit hc]
    dsimp only
    by_cases hfits : mantissa * 10 + (c.toNat - '0'.toNat) < 2 ^ 96
    · rw [if_pos hfits, Option.map_none, ih hmore true hfits]
      simp
    · rw [if_neg hfits, if_neg]
      have hgrow := le_mul_ten_pow (mantissa * 10 + (c.toNat - '0'.toNat)) more.length
      omega

/-- Digits after the point are read as long as the number and its places fit. -/
theorem readDigits_places (hdigits : ∀ c ∈ digits, c.isDigit = true) (rest : List Char)
    {scale : Nat} (hscale : scale + digits.length ≤ 28)
    (hfits : mantissa * 10 ^ digits.length + digitsValue digits < 2 ^ 96) :
    readDigits negative ⟨mantissa, some scale, true⟩ (digits ++ rest) =
      readDigits negative ⟨mantissa * 10 ^ digits.length + digitsValue digits,
        some (scale + digits.length), true⟩ rest := by
  induction digits generalizing mantissa scale with
  | nil => simp [digitsValue]
  | cons c more ih =>
    obtain ⟨hc, hmore⟩ := List.forall_mem_cons.mp hdigits
    have hvalue : mantissa * 10 ^ (c :: more).length + digitsValue (c :: more) =
        (mantissa * 10 + (c.toNat - '0'.toNat)) * 10 ^ more.length + digitsValue more := by
      rw [digitsValue_cons, List.length_cons]
      ring
    rw [hvalue] at hfits ⊢
    rw [List.length_cons] at hscale ⊢
    have hgrow := le_mul_ten_pow (mantissa * 10 + (c.toNat - '0'.toNat)) more.length
    have hstep : mantissa * 10 + (c.toNat - '0'.toNat) < 2 ^ 96 := by omega
    rw [List.cons_append, readDigits, if_neg (by simp; omega),
      if_neg (ne_of_isDigit hc (by decide)), if_neg (ne_of_isDigit hc (by decide)),
      digitValue?_of_isDigit hc]
    dsimp only
    rw [if_pos hstep, Option.map_some, ih hmore (by omega) hfits]
    rw [Nat.add_assoc, Nat.add_comm 1]

/-- A finished reading has the digits and places that were read. -/
theorem finish_eq_some {scale : Nat} {x : Decimal}
    (h : Reading.finish negative mantissa scale = some x) :
    x.negative = (negative && mantissa != 0) ∧ x.mantissa = mantissa ∧ x.scale = scale := by
  unfold Reading.finish ofParts? at h
  split at h
  · cases h
    exact ⟨rfl, rfl, rfl⟩
  · cases h

end

/-! ## Numbers without a power of ten -/

section

variable {n : Numeral} {x : Decimal}

/-- The number is small enough to be read digit by digit: its places fit, and so do its digits when
it has places. -/
structure Fits (n : Numeral) : Prop where
  places_le : n.places.length ≤ 28
  digits_lt : n.places ≠ [] → n.digits < 2 ^ 96

/-- A sign in front of anything but a sign is read. -/
theorem ofPositional?_sign (negative : Bool) {text : List Char}
    (h : ∀ c ∈ text.head?, c ≠ '-' ∧ c ≠ '+') :
    ofPositional? (Double.signChars negative ++ text) =
      readDigits negative ⟨0, none, false⟩ text := by
  cases negative with
  | true => rfl
  | false =>
    show ofPositional? text = readDigits false ⟨0, none, false⟩ text
    unfold ofPositional?
    split
    · exact absurd rfl (h '-' rfl).1
    · exact absurd rfl (h '+' rfl).2
    · rfl

/-- A sign in front of digits is read. -/
theorem ofPositional?_signChars (negative : Bool) {digits : List Char}
    (hdigits : isDigits digits = true) (rest : List Char) :
    ofPositional? (Double.signChars negative ++ digits ++ rest) =
      readDigits negative ⟨0, none, false⟩ (digits ++ rest) := by
  obtain ⟨hne, hall⟩ := isDigits_iff.mp hdigits
  obtain ⟨c, more, rfl⟩ := List.exists_cons_of_ne_nil hne
  have hc := hall c List.mem_cons_self
  rw [List.append_assoc]
  apply ofPositional?_sign
  intro first hfirst
  obtain rfl : c = first := by simpa using hfirst
  exact ⟨ne_of_isDigit hc (by decide), ne_of_isDigit hc (by decide)⟩

/-- What is read of the sign and the digits, before the rest of a text. -/
theorem ofPositional?_mainChars (hfits : Fits n) (rest : List Char) :
    ofPositional? (n.mainChars ++ rest) =
      if digitsValue n.whole < 2 ^ 96 then
        readDigits n.negative
          ⟨n.digits, if n.places.isEmpty then none else some n.places.length, true⟩ rest
      else none := by
  obtain ⟨hne, hwhole⟩ := isDigits_iff.mp n.isWhole
  rw [Numeral.mainChars, List.append_assoc, ofPositional?_signChars _ n.isWhole,
    readDigits_whole hwhole _ _ (Nat.two_pow_pos 96), Nat.zero_mul, Nat.zero_add,
    List.isEmpty_eq_false_iff.mpr hne]
  congr 1
  cases hplaces : n.places with
  | nil => simp [Numeral.digits, hplaces]
  | cons c more =>
    have hlength := hfits.places_le
    have hdigits := hfits.digits_lt (by simp [hplaces])
    rw [← hplaces]
    rw [Numeral.digits, digitsValue_append] at hdigits
    have hempty : n.places.isEmpty = false := by simp [hplaces]
    rw [hempty, Numeral.digits, digitsValue_append]
    simp only [Bool.false_eq_true, if_false, List.cons_append]
    rw [readDigits]
    simp only [reduceCtorEq, if_false, if_true, Bool.not_false, Bool.or_true]
    rw [readDigits_places n.arePlaces rest (by omega : 0 + n.places.length ≤ 28) hdigits,
      Nat.zero_add]

/-- What is read of a number without a power of ten is that number. -/
theorem parts_of_mainChars (hfits : Fits n) (h : ofPositional? n.mainChars = some x) :
    x.negative = (n.negative && n.digits != 0) ∧ x.mantissa = n.digits ∧
      x.scale = n.places.length := by
  rw [← List.append_nil n.mainChars, ofPositional?_mainChars hfits] at h
  split at h
  · rw [readDigits, if_pos rfl] at h
    obtain ⟨hnegative, hmantissa, hscale⟩ := finish_eq_some h
    refine ⟨hnegative, hmantissa, hscale.trans ?_⟩
    cases n.places <;> rfl
  · cases h

/-- A decimal with the sign and the digits of a number stands for that number. -/
theorem value_of_parts (hnegative : x.negative = (n.negative && n.digits != 0)) {digits : Nat}
    (hdigits : n.digits = digits) :
    (if x.negative then -1 else 1 : ℚ) * digits = (if n.negative then -1 else 1) * digits := by
  subst hdigits
  rw [hnegative]
  by_cases hzero : n.digits = 0
  · simp [hzero]
  · simp [hzero]

/-- A number without a power of ten is read as itself. -/
theorem value_of_ofPositional? (hfits : Fits n) (hpower : n.power = none)
    (h : ofPositional? n.chars = some x) : x.value = n.value := by
  rw [Numeral.chars, hpower, Numeral.powerChars, List.append_nil] at h
  obtain ⟨hnegative, hmantissa, hscale⟩ := parts_of_mainChars hfits h
  rw [value, Numeral.value, hmantissa, hscale, value_of_parts hnegative rfl, hpower,
    Option.getD_none, zero_sub, zpow_neg, zpow_natCast, div_eq_mul_inv]

end

/-! ## Numbers with a power of ten -/

theorem ofParts?_eq_some {negative : Bool} {mantissa scale : Nat} {x : Decimal}
    (h : ofParts? negative mantissa scale = some x) :
    x.negative = negative ∧ x.mantissa = mantissa ∧ x.scale = scale := by
  unfold ofParts? at h
  split at h
  · cases h
    exact ⟨rfl, rfl, rfl⟩
  · cases h

section

variable {base x : Decimal} {count : Nat}

theorem value_of_pointLeft? (hplaces : base.scale + count ≤ 28)
    (h : base.pointLeft? count = some x) : x.value = base.value * 10 ^ (-count : ℤ) := by
  rw [pointLeft?, if_neg (by omega), reduceScale, dif_neg (by omega)] at h
  obtain ⟨hnegative, hmantissa, hscale⟩ := ofParts?_eq_some h
  rw [value, value, hnegative, hmantissa, hscale, zpow_neg, zpow_natCast, pow_add,
    div_mul_eq_div_div]
  rfl

theorem value_of_pointRight? (h : base.pointRight? count = some x) :
    x.value = base.value * 10 ^ (count : ℤ) := by
  unfold pointRight? at h
  split at h
  · cases h
  · obtain ⟨hnegative, hmantissa, hscale⟩ := ofParts?_eq_some h
    have hpow : (10 : ℚ) ^ (count - base.scale) * 10 ^ base.scale =
        10 ^ count * 10 ^ (base.scale - count) := by
      rw [← pow_add, ← pow_add]
      congr 1
      omega
    rw [value, value, hnegative, hmantissa, hscale, zpow_natCast, div_mul_eq_mul_div,
      div_eq_div_iff (by positivity) (by positivity)]
    push_cast
    rw [mul_assoc, mul_assoc, hpow]
    ring

end

theorem unsigned32?_plus (digits : List Char) :
    unsigned32? ('+' :: digits) =
      if isDigits digits && digitsValue digits < 2 ^ 32 then some (digitsValue digits) else none :=
  rfl

theorem unsigned32?_digit {c : Char} (hc : c.isDigit = true) (digits : List Char) :
    unsigned32? (c :: digits) = unsigned32? ('+' :: c :: digits) := by
  rw [unsigned32?_plus]
  unfold unsigned32?
  split
  · rename_i heq
    cases heq
    exact absurd hc (by decide)
  · rfl

theorem unsigned32?_plus_digitChars (count : Nat) :
    unsigned32? ('+' :: digitChars count) = if count < 2 ^ 32 then some count else none := by
  rw [unsigned32?_plus, isDigits_digitChars, digitsValue_digitChars, Bool.true_and]
  simp only [decide_eq_true_eq]

theorem unsigned32?_digitChars (count : Nat) :
    unsigned32? (digitChars count) = if count < 2 ^ 32 then some count else none := by
  obtain ⟨c, more, hdigits⟩ := List.exists_cons_of_length_pos (digitChars_length_pos count)
  have hc : c.isDigit = true := isDigit_of_mem_digitChars (hdigits ▸ List.mem_cons_self)
  rw [hdigits, unsigned32?_digit hc, ← hdigits, unsigned32?_plus_digitChars]

/-- A count that is too large to be read is too large for moving the point as well. -/
theorem bind_pointLeft? (base : Decimal) (count : Nat) :
    (if count < 2 ^ 32 then some count else none).bind base.pointLeft? = base.pointLeft? count := by
  split
  · rfl
  · exact (if_pos (by omega)).symm

theorem bind_pointRight? (base : Decimal) (count : Nat) :
    (if count < 2 ^ 32 then some count else none).bind base.pointRight? =
      base.pointRight? count := by
  split
  · rfl
  · exact (if_pos (by omega)).symm

section

variable {n : Numeral} {x : Decimal}

theorem readDigits_mark (negative : Bool) (state : Reading) (rest : List Char) :
    readDigits negative state ('e' :: rest) = none := by
  have hdigit : digitValue? 'e' = none := rfl
  rw [readDigits]
  split
  · rw [finishRounded, if_neg (by decide), hdigit]
    rfl
  · rw [if_neg (by decide), if_neg (by decide), hdigit]

theorem ofPositional?_of_power (hfits : Fits n) {power : Int} (hpower : n.power = some power) :
    ofPositional? n.chars = none := by
  rw [Numeral.chars, hpower, Numeral.powerChars, ofPositional?_mainChars hfits]
  split
  · exact readDigits_mark _ _ _
  · rfl

theorem isMark_of_mem_mainChars {c : Char} (h : c ∈ n.mainChars) :
    (c = 'e' || c = 'E') = false := by
  have hdigit {c : Char} (hc : c.isDigit = true) : (c = 'e' || c = 'E') = false := by
    simp [ne_of_isDigit hc (by decide : 'e'.isDigit = false),
      ne_of_isDigit hc (by decide : 'E'.isDigit = false)]
  obtain ⟨hne, hwhole⟩ := isDigits_iff.mp n.isWhole
  rcases List.mem_append.mp h with hmain | hplaces
  · rcases List.mem_append.mp hmain with hsign | hdigits
    · unfold Double.signChars at hsign
      split at hsign
      · rw [List.mem_singleton.mp hsign]
        decide
      · cases hsign
    · exact hdigit (hwhole c hdigits)
  · split at hplaces
    · cases hplaces
    · rcases List.mem_cons.mp hplaces with rfl | hdigits
      · decide
      · exact hdigit (n.arePlaces c hdigits)

theorem not_isMark_of_mem_mainChars {c : Char} (h : c ∈ n.mainChars) :
    (!(decide (c = 'e') || decide (c = 'E'))) = true := by
  rw [isMark_of_mem_mainChars h]
  rfl

theorem ofScientific?_of_no_power (hpower : n.power = none) : ofScientific? n.chars = none := by
  have hdrop : (n.mainChars ++ []).dropWhile (fun c => !(decide (c = 'e') || decide (c = 'E'))) =
      [] :=
    List.dropWhile_append_of_pos fun c hc => not_isMark_of_mem_mainChars hc
  rw [Numeral.chars, hpower, Numeral.powerChars, ofScientific?]
  dsimp only
  rw [hdrop]

theorem ofScientific?_of_power {power : Int} (hpower : n.power = some power) :
    ofScientific? n.chars = (ofPositional? n.mainChars).bind fun base =>
      if power < 0 then base.pointLeft? power.natAbs else base.pointRight? power.natAbs := by
  rw [Numeral.chars, hpower, Numeral.powerChars, ofScientific?]
  dsimp only
  rw [List.dropWhile_append_of_pos fun c hc => not_isMark_of_mem_mainChars hc,
    List.takeWhile_append_of_pos fun c hc => not_isMark_of_mem_mainChars hc,
    List.dropWhile_cons_of_neg (by decide), List.takeWhile_cons_of_neg (by decide), List.append_nil]
  by_cases hnegative : power < 0
  · simp only [if_pos hnegative]
    refine congrArg _ (funext fun base => ?_)
    rw [← bind_pointLeft?, ← unsigned32?_digitChars]
    rfl
  · simp only [if_neg hnegative]
    refine congrArg _ (funext fun base => ?_)
    rw [← bind_pointRight?, ← unsigned32?_plus_digitChars]
    rfl

/-- A number with a power of ten is read without it first. -/
theorem read?_of_power (hfits : Fits n) {power : Int} (hpower : n.power = some power) :
    read? n.chars = (ofPositional? n.mainChars).bind fun base =>
      if power < 0 then base.pointLeft? power.natAbs else base.pointRight? power.natAbs := by
  rw [read?, ofPositional?_of_power hfits hpower, Option.none_or, ofScientific?_of_power hpower]

/-- A number in decimal notation is read as itself when its places fit. -/
theorem value_of_read? (hfits : Fits n) (hplaces : n.places.length - n.power.getD 0 ≤ 28)
    (h : read? n.chars = some x) : x.value = n.value := by
  cases hpower : n.power with
  | none =>
    rw [read?, ofScientific?_of_no_power hpower, Option.or_none] at h
    exact value_of_ofPositional? hfits hpower h
  | some power =>
    rw [read?_of_power hfits hpower] at h
    obtain ⟨base, hbase, hmoved⟩ := Option.bind_eq_some_iff.mp h
    obtain ⟨hnegative, hmantissa, hscale⟩ := parts_of_mainChars hfits hbase
    rw [hpower, Option.getD_some] at hplaces
    have hvalue : base.value * 10 ^ power = n.value := by
      rw [value, Numeral.value, hmantissa, hscale, value_of_parts hnegative rfl, hpower,
        Option.getD_some, zpow_sub₀ (by norm_num), zpow_natCast, div_mul_eq_mul_div, mul_div_assoc]
    rw [← hvalue]
    split at hmoved
    · rw [value_of_pointLeft? (by omega) hmoved]
      congr 2
      omega
    · rw [value_of_pointRight? hmoved]
      congr 2
      omega

end

/-! ## Written doubles are read exactly -/

section

variable {x : Double} {d : Decimal}

/-- The digits of a number of which at most sixteen stand before the point are few enough. -/
theorem digits_mul_pow_lt {n : DecimalDigits} (hexponent : 0 ≤ n.exponent) (hpoint : n.point ≤ 16) :
    n.digits * 10 ^ n.exponent.toNat * 10 < 2 ^ 96 :=
  calc n.digits * 10 ^ n.exponent.toNat * 10
      < 10 ^ (digitChars n.digits).length * 10 ^ n.exponent.toNat * 10 := by
        refine Nat.mul_lt_mul_of_pos_right (Nat.mul_lt_mul_of_pos_right ?_ ?_) (by decide)
        · exact lt_ten_pow_length n.digits
        · exact Nat.pow_pos (by decide)
    _ = 10 ^ ((digitChars n.digits).length + n.exponent.toNat) * 10 := by rw [Nat.pow_add]
    _ ≤ 10 ^ 16 * 10 := by
        refine Nat.mul_le_mul_right 10 (Nat.pow_le_pow_right (by decide) ?_)
        rw [DecimalDigits.point] at hpoint
        omega
    _ < 2 ^ 96 := by norm_num

theorem length_digitChars_shortest (tie : TieRule) (hx : x.Canonical) :
    (digitChars (Double.shortest tie x).digits).length ≤ 18 := by
  refine (Nat.length_toDigits_le_iff (by decide) (by decide)).mpr ?_
  have hdigits := Double.shortest_digits_le tie hx
  omega

theorem digits_jsonNumeral_lt (hx : x.Canonical) : x.jsonNumeral.digits < 2 ^ 96 := by
  have hdigits := Double.shortest_digits_le .even hx
  obtain ⟨hpoint, hnumeral⟩ | ⟨-, -, hnumeral⟩ := x.jsonNumeral_cases
  · rw [hnumeral, DecimalDigits.positionalNumeral_digits _ _ _ rfl]
    split
    · rename_i hexponent
      obtain hzero | hpoint := hpoint
      · rw [Double.shortest_zero .even hzero]
        decide
      · exact digits_mul_pow_lt hexponent hpoint.2
    · omega
  · rw [hnumeral, DecimalDigits.scientificNumeral_digits]
    omega

theorem length_places_jsonNumeral_le (hx : x.Canonical) : x.jsonNumeral.places.length ≤ 28 := by
  have hlength := length_digitChars_shortest .even hx
  obtain ⟨hpoint, hnumeral⟩ | ⟨-, -, hnumeral⟩ := x.jsonNumeral_cases
  · rw [hnumeral, DecimalDigits.length_places_positionalNumeral]
    split
    · decide
    · obtain hzero | hpoint := hpoint
      · rw [Double.shortest_zero .even hzero]
        decide
      · rw [DecimalDigits.point] at hpoint
        rw [DecimalDigits.places]
        omega
  · rw [hnumeral, DecimalDigits.length_places_scientificNumeral]
    omega

theorem fits_jsonNumeral (hx : x.Canonical) : Fits x.jsonNumeral :=
  ⟨length_places_jsonNumeral_le hx, fun _ => digits_jsonNumeral_lt hx⟩

/-- The places of the JSON form, counted without the power of ten. -/
theorem places_jsonNumeral (hplaces : (Double.shortest .even x).places ≤ 28) :
    (x.jsonNumeral.places.length : Int) - x.jsonNumeral.power.getD 0 ≤ 28 := by
  rw [DecimalDigits.places] at hplaces
  obtain ⟨-, hnumeral⟩ | ⟨-, -, hnumeral⟩ := x.jsonNumeral_cases
  · rw [hnumeral, DecimalDigits.length_places_positionalNumeral,
      DecimalDigits.positionalNumeral_power, DecimalDigits.places, Option.getD_none]
    split
    · decide
    · omega
  · have hlength := digitChars_length_pos (Double.shortest .even x).digits
    rw [hnumeral, DecimalDigits.length_places_scientificNumeral,
      DecimalDigits.scientificNumeral_power, Option.getD_some, DecimalDigits.point]
    omega

theorem fits_plainNumeral (hx : x.Canonical) (hplaces : (Double.shortest .up x).places ≤ 28) :
    Fits x.plainNumeral := by
  have hdigits := Double.shortest_digits_le .up hx
  constructor
  · rw [Double.plainNumeral, DecimalDigits.length_places_positionalNumeral]
    split
    · decide
    · exact hplaces
  · intro hne
    rw [Double.plainNumeral, DecimalDigits.positionalNumeral_digits _ _ _ rfl, if_neg]
    · omega
    · intro hexponent
      refine hne (List.length_eq_zero_iff.mp ?_)
      rw [Double.plainNumeral, DecimalDigits.length_places_positionalNumeral, if_pos hexponent]
      rfl

/-- The JSON form of a double with at most twenty-eight places is read as the number it denotes. -/
theorem value_of_jsonChars (hx : x.Canonical)
    (hplaces : (Double.shortest .even x).places ≤ 28) (h : read? x.jsonChars = some d) :
    d.value = x.decimalValue .even := by
  rw [← x.jsonNumeral_chars] at h
  rw [← x.jsonNumeral_value]
  exact value_of_read? (fits_jsonNumeral hx) (places_jsonNumeral hplaces) h

/-- The plain form of a double with at most twenty-eight places is read as the number it denotes. -/
theorem value_of_plainChars (hx : x.Canonical)
    (hplaces : (Double.shortest .up x).places ≤ 28) (h : ofPositional? x.plainChars = some d) :
    d.value = x.decimalValue .up := by
  rw [← x.plainNumeral_chars] at h
  rw [← x.plainNumeral_value]
  exact value_of_ofPositional? (fits_plainNumeral hx hplaces) rfl h

end

/-! ## Written integers are read exactly -/

/-- The notation of an integer. -/
def integerNumeral (value : Int) : Numeral where
  negative := value < 0
  whole := digitChars value.natAbs
  places := []
  power := none
  isWhole := isDigits_digitChars _
  arePlaces := Double.isDigit_of_mem_nil

theorem integerNumeral_chars (value : Int) :
    (integerNumeral value).chars = Json.integerChars value := by
  simp [Numeral.chars, Numeral.mainChars, Numeral.powerChars, integerNumeral, Json.integerChars]

theorem integerNumeral_digits (value : Int) : (integerNumeral value).digits = value.natAbs := by
  rw [Numeral.digits, integerNumeral, List.append_nil, digitsValue_digitChars]

theorem fits_integerNumeral (value : Int) : Fits (integerNumeral value) :=
  ⟨Nat.zero_le 28, fun hne => absurd rfl hne⟩

theorem integerNumeral_value (value : Int) : (integerNumeral value).value = value := by
  rw [Numeral.value, integerNumeral_digits]
  obtain hnegative | hpositive := lt_or_ge value 0
  · simp [integerNumeral, hnegative, Nat.cast_natAbs, abs_of_neg hnegative]
  · simp [integerNumeral, hpositive.not_gt, Nat.cast_natAbs, abs_of_nonneg hpositive]

/-- The text of an integer denotes it. -/
theorem denotes_integerChars (value : Int) : Denotes (Json.integerChars value) value :=
  ⟨integerNumeral value, integerNumeral_chars value, integerNumeral_value value⟩

/-- A written integer is read as itself. -/
theorem value_of_integerChars {value : Int} {d : Decimal}
    (h : read? (Json.integerChars value) = some d) : d.value = value := by
  rw [← integerNumeral_chars] at h
  rw [← integerNumeral_value]
  refine value_of_read? (fits_integerNumeral value) ?_ h
  show ((0 : ℕ) : Int) - 0 ≤ 28
  decide

end DocumentMapping.Decimal
