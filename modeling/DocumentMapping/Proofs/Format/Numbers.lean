import DocumentMapping.Format.Template
import DocumentMapping.Proofs.Coercion.Integers
import DocumentMapping.Proofs.Format.Digits
import DocumentMapping.Proofs.Number.Hexadecimal
import DocumentMapping.Proofs.Sequencing

/-!
# Formatted numbers are read back

A number is written in its sign and its digits, with as many places as the format asks for and with
commas between groups of three where it asks for them. Without the commas the text is read as the
number, rounded to the places of the format.
-/

namespace DocumentMapping

/-- A value is a number. -/
inductive Scalar.IsNumber : Scalar → ℚ → Prop
  | integer (value : Int64) : IsNumber (.integer value) value.toInt
  | decimal (value : Decimal) : IsNumber (.decimal value) value.value

namespace Format

/-- The format of a number. -/
inductive NumberFormat where
  /-- All places, without zeros at the end. -/
  | plain
  /-- Rounded to at most a number of places, without zeros at the end. -/
  | rounded (places : Nat)
  /-- Rounded to exactly a number of places, with or without groups. -/
  | fixed (grouped : Bool) (places : Nat)
  /-- A percentage with groups and exactly a number of places. -/
  | percent (places : Nat)
  /-- A picture of digits. -/
  | picture (asked : Picture)
  /-- An integer with zeros in front up to a width. -/
  | integer (width : Nat)
  /-- The 64 bits of an integer with zeros in front up to a width. -/
  | bits (width : Nat)
deriving DecidableEq, Repr

namespace NumberFormat

/-- The format of a letter in either case with an optional precision. -/
def ofLetter? (letter : Char) (precision : Option Nat) : Option NumberFormat :=
  match letter.toUpper with
  | 'F' => some (.fixed false (precision.getD 2))
  | 'N' => some (.fixed true (precision.getD 2))
  | 'P' => some (.percent (precision.getD 2))
  | 'G' => some (precision.elim .plain .rounded)
  | 'D' => some (.integer (precision.getD 0))
  | 'X' => some (.bits (precision.getD 0))
  | _ => none

/-- The format that is written by nothing, by a picture, or by a letter with a precision. -/
def ofSpec? : List Char → Option NumberFormat
  | [] => some .plain
  | letter :: digits =>
    if isPicture (letter :: digits) then some (.picture (.ofSpec (letter :: digits)))
    else if digits.isEmpty then ofLetter? letter none
    else (Decimal.unsigned32? digits).bind fun precision => ofLetter? letter (some precision)

end NumberFormat

/-- A text shows a number by a display: in its sign and its digits, with or without groups of three
before the point, and so that it is read as the number. -/
structure ShowsNumber (text : List Char) (number : ℚ) (grouped : Bool) (d : Display) : Prop where
  hasForm : ∃ whole, (if grouped then InThrees d.whole whole else whole = d.whole) ∧
    text = Double.signChars d.negative ++ whole ++ pointChars d.places
  isRead : ∃ y, Decimal.read? (text.filter (· ≠ ',')) = some y ∧ y.value = number

/-- A display has the digits that a picture asks for. -/
structure Picture.Admits (asked : Picture) (d : Display) : Prop where
  minWhole_le : asked.minWhole ≤ d.whole.length
  minPlaces_le : asked.minPlaces ≤ d.places.length
  places_le : d.places.length ≤ asked.maxPlaces
  last_ne_zero : asked.minPlaces < d.places.length → d.places.getLast? ≠ some '0'

/-- A number can be written in a format: a percentage has to be a decimal, and where the format is
one of integers, the number has to be one of 64 bits. -/
def NumberFormat.Accepts (number : ℚ) : NumberFormat → Prop
  | .percent _ => |100 * number| < 2 ^ 96
  | .integer _ => ∃ integer : Int64, number = integer.toInt
  | .bits _ => ∃ integer : Int64, number = integer.toInt
  | _ => True

/-- What a text in a format shows of a number. -/
def NumberFormat.Shows (number : ℚ) (text : List Char) : NumberFormat → Prop
  | .plain => ∃ d, ShowsNumber text number false d
  | .rounded places => ∃ d, ShowsNumber text (roundedTo places number) false d
  | .fixed grouped places =>
    ∃ d, ShowsNumber text (roundedTo places number) grouped d ∧ d.places.length = places
  | .percent places =>
    ∃ shown d, text = shown ++ [' ', '%'] ∧
      ShowsNumber shown (roundedTo places (100 * number)) true d ∧ d.places.length = places
  | .picture asked =>
    ∃ d, ShowsNumber text (roundedTo asked.maxPlaces number) asked.grouped d ∧ asked.Admits d
  | .integer width =>
    ∃ d, ShowsNumber text number false d ∧ d.places = [] ∧ width ≤ d.whole.length
  | .bits width =>
    ∃ integer : Int, number = integer ∧
      hexNumber? text = some (integer % 2 ^ 64).toNat ∧ width ≤ text.length

/-! ## Displays -/

section

variable {d : Display} {x : Decimal}

/-- The text of a display, with or without groups before the point. -/
def displayChars (d : Display) (grouped : Bool) : List Char :=
  Double.signChars d.negative ++ (if grouped then groupDigits d.whole else d.whole) ++
    pointChars d.places

theorem displayChars_false (d : Display) : displayChars d false = d.chars :=
  rfl

theorem filter_digits {digits : List Char} (h : ∀ c ∈ digits, c.isDigit = true) :
    digits.filter (· ≠ ',') = digits :=
  List.filter_eq_self.mpr fun c hc =>
    decide_eq_true (Decimal.ne_of_isDigit (h c hc) (by decide))

/-- Without commas a display is as it was before. -/
theorem filter_displayChars (d : Display) (grouped : Bool) :
    (displayChars d grouped).filter (· ≠ ',') = d.chars := by
  have hsign : (Double.signChars d.negative).filter (· ≠ ',') = Double.signChars d.negative := by
    cases d.negative <;> decide
  have hwhole : (if grouped then groupDigits d.whole else d.whole).filter (· ≠ ',') = d.whole := by
    split
    · exact filter_groupDigits fun c hc => Decimal.ne_of_isDigit (d.isWhole c hc) (by decide)
    · exact filter_digits d.isWhole
  have hplaces : (pointChars d.places).filter (· ≠ ',') = pointChars d.places := by
    unfold pointChars
    split
    · rfl
    · rw [List.filter_cons_of_pos (by decide), filter_digits d.arePlaces]
  rw [displayChars, List.filter_append, List.filter_append, hsign, hwhole, hplaces, Display.chars]

theorem displayChars_ne (d : Display) (grouped : Bool) :
    ¬(displayChars d grouped = [] ∨ displayChars d grouped = ['-']) := by
  have hfilter := filter_displayChars d grouped
  obtain ⟨hnil, hsign⟩ := d.chars_ne
  rintro (h | h)
  · rw [h] at hfilter
    exact hnil hfilter.symm
  · rw [h] at hfilter
    exact hsign hfilter.symm

/-- A display of the value of a decimal shows it. -/
theorem showsNumber_displayChars (grouped : Bool) (h : x.value = d.value) :
    ShowsNumber (displayChars d grouped) d.value grouped d := by
  constructor
  · refine ⟨if grouped then groupDigits d.whole else d.whole, ?_, rfl⟩
    cases grouped with
    | true => exact inThrees_groupDigits d.whole
    | false => rfl
  · rw [filter_displayChars, ← h]
    exact d.exists_read? h

/-- The text of a decimal shows it. -/
theorem showsNumber_chars (x : Decimal) :
    ShowsNumber x.chars x.value false (x.display x.scale) := by
  have hvalue := x.value_display x.scale
  have hshown := showsNumber_displayChars false hvalue.symm
  rw [x.chars_eq, ← hvalue]
  exact hshown

end

/-! ## Fixed places -/

section

variable (x : Decimal) (places : Nat)

/-- A decimal rounded to a number of places and displayed with all of them. -/
def fixedDisplay : Display :=
  (x.roundHalfAway places).display places

theorem value_fixedDisplay : (fixedDisplay x places).value = roundedTo places x.value := by
  rw [fixedDisplay, Decimal.value_display, Decimal.value_roundHalfAway]

theorem length_places_fixedDisplay : (fixedDisplay x places).places.length = places :=
  Decimal.length_places_display (x.scale_roundHalfAway_le places)

theorem fixedChars_eq : fixedChars x places = (fixedDisplay x places).chars := by
  rw [fixedChars, Decimal.charsWithPlaces_eq (x.scale_roundHalfAway_le places), fixedDisplay]

theorem groupThousands_fixedChars :
    groupThousands (fixedChars x places) = displayChars (fixedDisplay x places) true := by
  rw [fixedChars_eq, Display.chars, groupThousands_eq (fixedDisplay x places).isWhole]
  rfl

theorem showsNumber_fixed (grouped : Bool) :
    ShowsNumber (displayChars (fixedDisplay x places) grouped) (roundedTo places x.value) grouped
      (fixedDisplay x places) := by
  have hvalue : (x.roundHalfAway places).value = (fixedDisplay x places).value := by
    rw [fixedDisplay, Decimal.value_display]
  rw [← value_fixedDisplay]
  exact showsNumber_displayChars grouped hvalue

/-- A rounded number is shown with all its places. -/
theorem shows_fixed (places : Nat) :
    (NumberFormat.fixed false places).Shows x.value (fixedChars x places) := by
  have hshows := showsNumber_fixed x places false
  rw [displayChars_false, ← fixedChars_eq] at hshows
  exact ⟨_, hshows, length_places_fixedDisplay x places⟩

/-- A rounded number is shown with all its places and with groups. -/
theorem shows_grouped (places : Nat) :
    (NumberFormat.fixed true places).Shows x.value (groupThousands (fixedChars x places)) := by
  rw [groupThousands_fixedChars]
  exact ⟨_, showsNumber_fixed x places true, length_places_fixedDisplay x places⟩

/-- A percentage is shown with all its places and with groups. -/
theorem shows_percent {percent : Decimal} (h : x.mul? .hundred = some percent) (places : Nat) :
    (NumberFormat.percent places).Shows x.value
      (groupThousands (fixedChars percent places) ++ [' ', '%']) := by
  obtain ⟨d, hshows, hlength⟩ := shows_grouped percent places
  rw [Decimal.value_of_mul?_hundred h] at hshows
  exact ⟨_, d, rfl, hshows, hlength⟩

end

/-! ## Without zeros at the end -/

section

variable (x : Decimal)

/-- A number is shown with all its places. -/
theorem shows_plain : NumberFormat.plain.Shows x.value x.normalize.chars := by
  rw [← x.value_normalize]
  exact ⟨_, showsNumber_chars x.normalize⟩

theorem shows_rounded (places : Nat) :
    (NumberFormat.rounded places).Shows x.value (x.roundHalfAway places).normalize.chars := by
  have hshows := showsNumber_chars (x.roundHalfAway places).normalize
  rw [Decimal.value_normalize, Decimal.value_roundHalfAway] at hshows
  exact ⟨_, hshows⟩

end

/-! ## Pictures -/

/-- A picture never asks for more places than it has room for. -/
theorem Picture.minPlaces_le_maxPlaces (spec : List Char) :
    (Picture.ofSpec spec).minPlaces ≤ (Picture.ofSpec spec).maxPlaces := by
  let places := (spec.dropWhile (· ≠ '.')).drop 1
  have hzeros : (places.takeWhile (· = '0')).filter (fun c => c = '0' || c = '#') =
      places.takeWhile (· = '0') := by
    refine List.filter_eq_self.mpr fun c hc => ?_
    obtain rfl : c = '0' := by simpa using List.mem_takeWhile_imp hc
    decide
  have hsublist := (List.takeWhile_sublist (l := places) (· = '0')).filter
    (fun c => c = '0' || c = '#')
  rw [hzeros] at hsublist
  exact hsublist.length_le

section

variable (x : Decimal) (asked : Picture)

/-- The digits before the point in a picture. -/
def pictureWhole : List Char :=
  padZeros asked.minWhole ((fixedDisplay x asked.maxPlaces).whole.dropWhile (· = '0'))

/-- The places in a picture. -/
def picturePlaces : List Char :=
  trimPlaces asked.minPlaces (fixedDisplay x asked.maxPlaces).places

theorem isDigit_of_mem_pictureWhole : ∀ c ∈ pictureWhole x asked, c.isDigit = true := by
  refine isDigit_of_mem_padZeros fun c hc => ?_
  exact (fixedDisplay x asked.maxPlaces).isWhole c ((List.dropWhile_sublist _).mem hc)

theorem isDigit_of_mem_picturePlaces : ∀ c ∈ picturePlaces x asked, c.isDigit = true := by
  obtain ⟨zeros, hzeros⟩ :=
    exists_zeros_trimPlaces asked.minPlaces (fixedDisplay x asked.maxPlaces).places
  intro c hc
  refine (fixedDisplay x asked.maxPlaces).arePlaces c ?_
  rw [hzeros]
  exact List.mem_append_left _ hc

/-- The text of a picture, unless no digit is left. -/
def pictureText : List Char :=
  Double.signChars (fixedDisplay x asked.maxPlaces).negative ++
    (if asked.grouped then groupDigits (pictureWhole x asked) else pictureWhole x asked) ++
    pointChars (picturePlaces x asked)

theorem pictureChars_eq :
    pictureChars x asked =
      if pictureText x asked = [] ∨ pictureText x asked = ['-'] then ['0']
      else pictureText x asked := by
  have hwhole := (fixedDisplay x asked.maxPlaces).isWhole
  have htext : fixedChars x asked.maxPlaces =
      Double.signChars (fixedDisplay x asked.maxPlaces).negative ++
        ((fixedDisplay x asked.maxPlaces).whole ++
          pointChars (fixedDisplay x asked.maxPlaces).places) := by
    rw [fixedChars_eq, Display.chars, List.append_assoc]
  -- the padded digits before the point are grouped as a text of their own, without sign and point
  have hgroups := groupThousands_digits (isDigit_of_mem_pictureWhole x asked)
  rw [pictureText, ← hgroups]
  simp only [pictureChars, htext, takeWhile_sign hwhole, List.drop_left, takeWhile_point hwhole,
    dropWhile_point hwhole]
  rfl

theorem length_picturePlaces (hplaces : asked.minPlaces ≤ asked.maxPlaces) :
    asked.minPlaces ≤ (picturePlaces x asked).length ∧
      (picturePlaces x asked).length ≤ asked.maxPlaces := by
  obtain ⟨zeros, hzeros⟩ :=
    exists_zeros_trimPlaces asked.minPlaces (fixedDisplay x asked.maxPlaces).places
  have hlength := congrArg List.length hzeros
  rw [length_places_fixedDisplay, List.length_append] at hlength
  constructor
  · apply le_length_trimPlaces
    rwa [length_places_fixedDisplay]
  · rw [picturePlaces]
    omega

/-- Zeros that are taken off or put in front do not change the value. -/
theorem div_pictureDigits :
    (digitsValue (pictureWhole x asked ++ picturePlaces x asked) /
      10 ^ (picturePlaces x asked).length : ℚ) =
      digitsValue ((fixedDisplay x asked.maxPlaces).whole ++
        (fixedDisplay x asked.maxPlaces).places) /
        10 ^ (fixedDisplay x asked.maxPlaces).places.length := by
  obtain ⟨zeros, hzeros⟩ :=
    exists_zeros_trimPlaces asked.minPlaces (fixedDisplay x asked.maxPlaces).places
  have hwhole : digitsValue (pictureWhole x asked) =
      digitsValue (fixedDisplay x asked.maxPlaces).whole := by
    rw [pictureWhole, digitsValue_padZeros, digitsValue_dropWhile_zero]
  have hdigits : digitsValue ((fixedDisplay x asked.maxPlaces).whole ++
      (fixedDisplay x asked.maxPlaces).places) =
      digitsValue (pictureWhole x asked ++ picturePlaces x asked) * 10 ^ zeros := by
    rw [hzeros, ← List.append_assoc, digitsValue_append, digitsValue_replicate_zero, Nat.add_zero,
      List.length_replicate, digitsValue_append, digitsValue_append, hwhole]
    rfl
  have hlength : (fixedDisplay x asked.maxPlaces).places.length =
      (picturePlaces x asked).length + zeros := by
    rw [hzeros, List.length_append, List.length_replicate]
    rfl
  rw [hdigits, hlength, pow_add]
  push_cast
  rw [mul_div_mul_right _ _ (by positivity)]

/-- The digits in a picture are those of the rounded number. -/
theorem roundedTo_pictureDigits :
    roundedTo asked.maxPlaces x.value =
      (if (fixedDisplay x asked.maxPlaces).negative then -1 else 1) *
        (digitsValue (pictureWhole x asked ++ picturePlaces x asked) /
          10 ^ (picturePlaces x asked).length) := by
  rw [← value_fixedDisplay, Display.value, div_pictureDigits]

/-- A display of the rounded number that has the digits asked for is what a picture shows. -/
theorem shows_picture_of_display {d : Display}
    (hvalue : roundedTo asked.maxPlaces x.value = d.value) (hadmits : asked.Admits d) :
    (NumberFormat.picture asked).Shows x.value (displayChars d asked.grouped) := by
  have hrounded : (x.roundHalfAway asked.maxPlaces).value = d.value := by
    rw [Decimal.value_roundHalfAway, hvalue]
  have hshows := showsNumber_displayChars asked.grouped hrounded
  rw [← hvalue] at hshows
  exact ⟨d, hshows, hadmits⟩

/-- The display of zero. -/
def zeroDisplay : Display where
  negative := false
  whole := ['0']
  places := []
  isWhole := Double.isDigit_of_mem_zero
  arePlaces := Double.isDigit_of_mem_nil
  isShown := .inl (List.cons_ne_nil _ _)

/-- The text of a picture shows the number, rounded to the places of the picture. -/
theorem shows_picture (hplaces : asked.minPlaces ≤ asked.maxPlaces) :
    (NumberFormat.picture asked).Shows x.value (pictureChars x asked) := by
  have hwhole : asked.minWhole ≤ (pictureWhole x asked).length := le_length_padZeros _ _
  obtain ⟨hleast, hmost⟩ := length_picturePlaces x asked hplaces
  by_cases hshown : pictureWhole x asked ≠ [] ∨ picturePlaces x asked ≠ []
  · let d : Display :=
      { negative := (fixedDisplay x asked.maxPlaces).negative
        whole := pictureWhole x asked
        places := picturePlaces x asked
        isWhole := isDigit_of_mem_pictureWhole x asked
        arePlaces := isDigit_of_mem_picturePlaces x asked
        isShown := hshown }
    have htext : pictureChars x asked = displayChars d asked.grouped := by
      rw [pictureChars_eq]
      exact if_neg (displayChars_ne d asked.grouped)
    rw [htext]
    apply shows_picture_of_display
    · exact roundedTo_pictureDigits x asked
    · exact ⟨hwhole, hleast, hmost, getLast?_trimPlaces⟩
  · -- a sign alone is left, and nothing of the number
    obtain ⟨hnone, hempty⟩ := not_or.mp hshown
    rw [not_not] at hnone hempty
    have hsign : pictureText x asked =
        Double.signChars (fixedDisplay x asked.maxPlaces).negative := by
      rw [pictureText, hnone, hempty]
      simp [groupDigits, pointChars]
    have htext : pictureChars x asked = displayChars zeroDisplay asked.grouped := by
      rw [pictureChars_eq, hsign]
      cases (fixedDisplay x asked.maxPlaces).negative <;> cases asked.grouped <;> rfl
    rw [htext]
    rw [hnone, List.length_nil] at hwhole
    rw [hempty, List.length_nil] at hleast
    apply shows_picture_of_display
    · rw [roundedTo_pictureDigits, hnone, hempty]
      simp [Display.value, zeroDisplay, digitsValue]
    · exact ⟨hwhole.trans (Nat.zero_le _), hleast, Nat.zero_le _,
        fun h => absurd h (Nat.not_lt_zero _)⟩

end

/-! ## Integers -/

section

variable {x : Decimal} {integer : Int64}

/-- Padded digits show an integer. -/
theorem shows_integer (width : Nat) (h : x.value = integer.toInt) :
    (NumberFormat.integer width).Shows x.value
      (Double.signChars (integer.toInt < 0) ++
        padZeros width (digitChars integer.toInt.natAbs)) := by
  let d : Display :=
    { negative := integer.toInt < 0
      whole := padZeros width (digitChars integer.toInt.natAbs)
      places := []
      isWhole := isDigit_of_mem_padZeros fun _ hc => isDigit_of_mem_digitChars hc
      arePlaces := Double.isDigit_of_mem_nil
      isShown := .inl (by
        have hlength := digitChars_length_pos integer.toInt.natAbs
        refine List.length_pos_iff.mp ?_
        rw [padZeros, List.length_append]
        omega) }
  have hdigits : digitsValue (d.whole ++ d.places) = integer.toInt.natAbs := by
    rw [show d.places = [] from rfl, List.append_nil]
    exact (digitsValue_padZeros _ _).trans (digitsValue_digitChars _)
  have hvalue : x.value = d.value := by
    have hnegative : d.negative = decide (integer.toInt < 0) := rfl
    have hplaces : d.places.length = 0 := rfl
    rw [h, Display.value, hdigits, hnegative, hplaces, pow_zero, div_one]
    obtain hlt | hge := lt_or_ge integer.toInt 0
    · simp [hlt, Nat.cast_natAbs, abs_of_neg hlt]
    · simp [hge.not_gt, Nat.cast_natAbs, abs_of_nonneg hge]
  have hshows := showsNumber_displayChars false hvalue
  rw [← hvalue] at hshows
  have htext : displayChars d false = Double.signChars (integer.toInt < 0) ++
      padZeros width (digitChars integer.toInt.natAbs) :=
    List.append_nil _
  rw [htext] at hshows
  exact ⟨d, hshows, rfl, le_length_padZeros _ _⟩

theorem toNat_toUInt64 (integer : Int64) :
    integer.toUInt64.toNat = (integer.toInt % 2 ^ 64).toNat := by
  have hbits : integer.toInt = Int.bmod integer.toUInt64.toNat (2 ^ 64) :=
    BitVec.toInt_eq_toNat_bmod integer.toBitVec
  have hmod : integer.toInt % 2 ^ 64 = integer.toUInt64.toNat :=
    calc integer.toInt % 2 ^ 64
        = Int.bmod integer.toUInt64.toNat (2 ^ 64) % (2 ^ 64 : ℕ) := by
          rw [hbits, Nat.cast_pow, Nat.cast_ofNat]
      _ = integer.toUInt64.toNat % (2 ^ 64 : ℕ) := Int.bmod_emod
      _ = integer.toUInt64.toNat := by exact_mod_cast Nat.mod_eq_of_lt integer.toUInt64.toNat_lt
  rw [hmod, Int.toNat_natCast]

/-- Padded hexadecimal digits in either case show the bits of an integer. -/
theorem shows_bits (width : Nat) (h : x.value = integer.toInt) :
    (NumberFormat.bits width).Shows x.value (padZeros width (bitChars integer)) ∧
      (NumberFormat.bits width).Shows x.value
        ((padZeros width (bitChars integer)).map Char.toUpper) := by
  obtain ⟨hdigits, hread⟩ := toDigits_sixteen integer.toUInt64.toNat
  have hpadded : hexNumber? (padZeros width (bitChars integer)) =
      some (integer.toInt % 2 ^ 64).toNat := by
    rw [padZeros, hexNumber?_replicate_zero, bitChars, hread, toNat_toUInt64]
  have hall : ∀ c ∈ padZeros width (bitChars integer), IsHexDigit c := by
    refine List.forall_mem_append.mpr ⟨fun c hc => ?_, hdigits⟩
    rw [List.eq_of_mem_replicate hc]
    exact isHexDigit_digitChar (by decide : 0 < 16)
  have hlength := le_length_padZeros width (bitChars integer)
  refine ⟨⟨integer.toInt, h, hpadded, hlength⟩, integer.toInt, h, ?_, ?_⟩
  · rw [hexNumber?_toUpper hall, hpadded]
  · rwa [List.length_map]

end

/-! ## Formats -/

section

variable {x : Decimal} {spec text : List Char}

/-- What is written by a letter shows the number. -/
theorem shows_of_letterChars {letter : Char} {precision : Option Nat}
    (h : letterChars x spec letter precision = .ok text) :
    ∃ format, NumberFormat.ofLetter? letter precision = some format ∧
      format.Accepts x.value ∧ format.Shows x.value text := by
  -- two letters ask for the integer of the value in the same words
  have hfold : (if x.isIntegral then x.toInt64? else none) = Scalar.integralInt64? x := rfl
  unfold letterChars at h
  rw [hfold] at h
  dsimp only at h
  unfold NumberFormat.ofLetter?
  split at h
  · rename_i hletter
    rw [hletter]
    cases h
    exact ⟨_, rfl, trivial, shows_grouped x _⟩
  · rename_i hletter
    rw [hletter]
    cases h
    exact ⟨_, rfl, trivial, shows_fixed x _⟩
  · rename_i hletter
    rw [hletter]
    split at h
    · rename_i percent hpercent
      cases h
      have hbound := percent.abs_value_lt
      rw [Decimal.value_of_mul?_hundred hpercent] at hbound
      exact ⟨_, rfl, hbound, shows_percent x hpercent _⟩
    · cases h
  · rename_i hletter
    rw [hletter]
    cases h
    cases precision with
    | none => exact ⟨_, rfl, trivial, shows_plain x⟩
    | some places => exact ⟨_, rfl, trivial, shows_rounded x places⟩
  · rename_i hletter
    rw [hletter]
    cases hintegral : Scalar.integralInt64? x with
    | none =>
      rw [hintegral] at h
      cases h
    | some integer =>
      have hvalue := integralInt64?_eq_some_iff.mp hintegral
      rw [hintegral] at h
      cases h
      exact ⟨_, rfl, ⟨integer, hvalue⟩, shows_integer _ hvalue⟩
  · rename_i hletter
    rw [hletter]
    cases hintegral : Scalar.integralInt64? x with
    | none =>
      rw [hintegral] at h
      cases h
    | some integer =>
      have hvalue := integralInt64?_eq_some_iff.mp hintegral
      obtain ⟨hlower, hupper⟩ := shows_bits (precision.getD 0) hvalue
      rw [hintegral] at h
      refine ⟨_, rfl, ⟨integer, hvalue⟩, ?_⟩
      cases h
      split
      · exact hupper
      · exact hlower
  · cases h

/-- A letter writes every number that its format accepts. -/
theorem exists_letterChars {letter : Char} {precision : Option Nat} {format : NumberFormat}
    (hformat : NumberFormat.ofLetter? letter precision = some format)
    (haccepts : format.Accepts x.value) (spec : List Char) :
    ∃ text, letterChars x spec letter precision = .ok text := by
  have hfold : (if x.isIntegral then x.toInt64? else none) = Scalar.integralInt64? x := rfl
  unfold letterChars
  rw [hfold]
  unfold NumberFormat.ofLetter? at hformat
  split at hformat
  · rename_i hletter
    rw [hletter]
    exact ⟨_, rfl⟩
  · rename_i hletter
    rw [hletter]
    exact ⟨_, rfl⟩
  · rename_i hletter
    cases hformat
    obtain ⟨percent, hpercent⟩ := Decimal.exists_mul?_hundred haccepts
    rw [hletter, hpercent]
    exact ⟨_, rfl⟩
  · rename_i hletter
    rw [hletter]
    exact ⟨_, rfl⟩
  · rename_i hletter
    cases hformat
    obtain ⟨integer, hvalue⟩ := haccepts
    rw [hletter, integralInt64?_of_value hvalue]
    exact ⟨_, rfl⟩
  · rename_i hletter
    cases hformat
    obtain ⟨integer, hvalue⟩ := haccepts
    rw [hletter, integralInt64?_of_value hvalue]
    exact ⟨_, rfl⟩
  · cases hformat

/-- What is written of a number shows it. -/
theorem shows_of_numberChars (h : numberChars x spec = .ok text) :
    ∃ format, NumberFormat.ofSpec? spec = some format ∧ format.Accepts x.value ∧
      format.Shows x.value text := by
  cases spec with
  | nil =>
    cases h
    exact ⟨_, rfl, trivial, shows_plain x⟩
  | cons letter digits =>
    rw [numberChars] at h
    rw [NumberFormat.ofSpec?]
    split at h
    · rename_i hpicture
      cases h
      rw [if_pos hpicture]
      exact ⟨_, rfl, trivial, shows_picture x _ (Picture.minPlaces_le_maxPlaces _)⟩
    · rename_i hpicture
      rw [if_neg hpicture]
      split at h
      · rename_i hempty
        rw [if_pos hempty]
        exact shows_of_letterChars h
      · rename_i hempty
        rw [if_neg hempty]
        cases hprecision : Decimal.unsigned32? digits with
        | none =>
          rw [hprecision] at h
          cases h
        | some precision =>
          rw [hprecision] at h
          rw [Option.bind_some]
          exact shows_of_letterChars h

/-- Every number is written that the format accepts. -/
theorem exists_numberChars {format : NumberFormat}
    (hformat : NumberFormat.ofSpec? spec = some format) (haccepts : format.Accepts x.value) :
    ∃ text, numberChars x spec = .ok text := by
  cases spec with
  | nil => exact ⟨_, rfl⟩
  | cons letter digits =>
    rw [NumberFormat.ofSpec?] at hformat
    rw [numberChars]
    split at hformat
    · rename_i hpicture
      rw [if_pos hpicture]
      exact ⟨_, rfl⟩
    · rename_i hpicture
      rw [if_neg hpicture]
      split at hformat
      · rename_i hempty
        rw [if_pos hempty]
        exact exists_letterChars hformat haccepts _
      · rename_i hempty
        rw [if_neg hempty]
        obtain ⟨precision, hprecision, hletter⟩ := Option.bind_eq_some_iff.mp hformat
        rw [hprecision]
        exact exists_letterChars hletter haccepts _

end

/-- A number is written as a decimal of its value. -/
theorem exists_decimal_of_isNumber {value : Scalar} {number : ℚ} (hnumber : value.IsNumber number) :
    ∃ x : Decimal, x.value = number ∧
      ∀ spec, valueChars value spec = (numberChars x spec).mapError .number := by
  cases hnumber with
  | integer value => exact ⟨.ofInt64 value, (Decimal.isWhole_ofInt64 value).value_eq, fun _ => rfl⟩
  | decimal value => exact ⟨value, rfl, fun _ => rfl⟩

theorem mapError_eq_ok_iff {fault : NumberFault → TemplateFault}
    {result : Except NumberFault (List Char)} {text : List Char} :
    result.mapError fault = .ok text ↔ result = .ok text := by
  cases result with
  | error problem => simp [Except.mapError]
  | ok chars => simp [Except.mapError]

section

variable {value : Scalar} {number : ℚ} {spec : List Char}

/-- A number is written exactly in the formats that accept it. -/
theorem exists_valueChars_iff (hnumber : value.IsNumber number) :
    (∃ text, valueChars value spec = .ok text) ↔
      ∃ format, NumberFormat.ofSpec? spec = some format ∧ format.Accepts number := by
  obtain ⟨x, rfl, hwritten⟩ := exists_decimal_of_isNumber hnumber
  simp only [hwritten, mapError_eq_ok_iff]
  constructor
  · rintro ⟨text, htext⟩
    obtain ⟨format, hformat, haccepts, -⟩ := shows_of_numberChars htext
    exact ⟨format, hformat, haccepts⟩
  · rintro ⟨format, hformat, haccepts⟩
    exact exists_numberChars hformat haccepts

/-- A number that is written in a format can be read back: without commas and a percent sign the
text is read as the number, rounded half away from zero to the places of the format, and its digits
are those that the format asks for. Hexadecimal digits are read as the integer modulo `2 ^ 64`. -/
theorem formatted_numbers_read_back {text : List Char} (hnumber : value.IsNumber number)
    (hwritten : valueChars value spec = .ok text) :
    ∃ format, NumberFormat.ofSpec? spec = some format ∧ format.Shows number text := by
  obtain ⟨x, rfl, hchars⟩ := exists_decimal_of_isNumber hnumber
  rw [hchars, mapError_eq_ok_iff] at hwritten
  obtain ⟨format, hformat, -, hshows⟩ := shows_of_numberChars hwritten
  exact ⟨format, hformat, hshows⟩

end

/-- Half of the last place is rounded away from zero, and the digits stand in groups of three. -/
theorem formatted_numbers_read_back_of_half :
    ∃ x : Decimal, x.value = -1234567895 / 1000 ∧
      valueChars (.decimal x) ['N', '2'] =
        .ok ['-', '1', ',', '2', '3', '4', ',', '5', '6', '7', '.', '9', '0'] ∧
      ∃ format, NumberFormat.ofSpec? ['N', '2'] = some format ∧
        format.Shows (-1234567895 / 1000)
          ['-', '1', ',', '2', '3', '4', ',', '5', '6', '7', '.', '9', '0'] := by
  have hvalue : (⟨true, 1234567895, 3, by decide, by decide⟩ : Decimal).value =
      -1234567895 / 1000 := by
    norm_num [Decimal.value]
  have hwritten : valueChars (.decimal ⟨true, 1234567895, 3, by decide, by decide⟩) ['N', '2'] =
      .ok ['-', '1', ',', '2', '3', '4', ',', '5', '6', '7', '.', '9', '0'] :=
    rfl
  refine ⟨_, hvalue, hwritten, ?_⟩
  rw [← hvalue]
  exact formatted_numbers_read_back (.decimal _) hwritten

end Format

end DocumentMapping
