import DocumentMapping.Json.Shape
import DocumentMapping.Proofs.Json.ReadBack

/-!
# Values of a known shape are read back

A text, a truth value, a count, an option that is present, a list and a name are read from their
compact text as they were. What such readers give can be read again: counts have 64 bits, and an
option that is read does not hold null.
-/

namespace DocumentMapping.Json

variable {α : Type} {depth : Nat}

/-- A value is read from its first character that is no blank. -/
theorem atValue_of_not_isSpace {read : Char → List Char → Except Fault (α × List Char)} {c : Char}
    (hc : isSpace c = false) (rest : List Char) : atValue read (c :: rest) = read c rest := by
  rw [atValue, skipSpaces_of_not_isSpace hc]

theorem exists_of_atValue {read : Char → List Char → Except Fault (α × List Char)}
    {text : List Char} {result : α × List Char} (h : atValue read text = .ok result) :
    ∃ c rest, skipSpaces text = c :: rest ∧ read c rest = .ok result := by
  unfold atValue at h
  split at h
  · cases h
  · exact ⟨_, _, ‹_›, h⟩

theorem wrongType_ne_ok {expected : String} {text : List Char} {result : α × List Char} :
    wrongType expected text ≠ .ok result := by
  unfold wrongType
  split
  · exact nofun
  · exact nofun

/-! ## Texts, truth values and counts -/

theorem readsAs_textShape (text : String) :
    ReadsAs (textShape depth) (Json.string text).chars text := by
  intro rest _
  rw [chars, stringChars_append]
  exact stringAfterQuote_flatMap_escapedChar text rest

theorem readsAs_booleanShape (value : Bool) :
    ReadsAs (booleanShape depth) (Json.boolean value).chars value := by
  cases value <;> exact fun rest _ => rfl

theorem asCount_natCast (count : Nat) (rest : List Char) :
    asCount (.integer count) rest = .ok (count, rest) := by
  dsimp only [asCount]
  rw [if_pos (Int.natCast_nonneg count), Int.toNat_natCast]

theorem readsAs_countShape {count : Nat} (hcount : count < 2 ^ 64) :
    ReadsAs (countShape depth) (Json.number (.integer count)).chars count := by
  intro rest hends
  have hnumber : ReadsNumber (integerChars count) (.integer count) :=
    readsNumber_integer (by omega) (by omega)
  rw [chars, numberChars]
  generalize integerChars count = text at hnumber ⊢
  cases hnumber with
  | @negative digits _ h =>
    change (numberAfterSign true (digits ++ rest)).bind _ = _
    rw [h rest hends]
    exact asCount_natCast count rest
  | @positive c more _ hc h =>
    have hread : numberAfterSign false (c :: (more ++ rest)) = .ok (.integer count, rest) :=
      h rest hends
    rw [List.cons_append, countShape, atValue_of_not_isSpace (isSpace_eq_false_of_isDigit hc),
      if_neg (Decimal.ne_of_isDigit hc rfl), if_pos hc, hread]
    exact asCount_natCast count rest

theorem lt_of_asCount {number : JsonNumber} {rest left : List Char} {count : Nat}
    (hfits : number.Fits) (h : asCount number rest = .ok (count, left)) : count < 2 ^ 64 := by
  cases number with
  | double x => cases h
  | integer value =>
    dsimp only [asCount] at h
    split at h
    · cases h
      have hupper := hfits.2
      omega
    · cases h

theorem gives_countShape : Gives (countShape depth) (· < 2 ^ 64) := by
  intro text count left h
  obtain ⟨c, rest, -, h⟩ := exists_of_atValue h
  split at h
  · obtain ⟨⟨number, _⟩, hnumber, h⟩ := Except.bind_eq_ok_iff.mp h
    exact lt_of_asCount (gives_numberAfterSign _ _ _ hnumber) h
  · split at h
    · obtain ⟨⟨number, _⟩, hnumber, h⟩ := Except.bind_eq_ok_iff.mp h
      exact lt_of_asCount (gives_numberAfterSign _ _ _ hnumber) h
    · exact absurd h wrongType_ne_ok

/-! ## Options -/

/-- An option is read as present when its text does not begin like the word for nothing. -/
theorem readsAs_optionShape {shape : Shape α} {text : List Char} {value : α}
    (hstart : ∃ c more, text = c :: more ∧ isSpace c = false ∧ c ≠ 'n')
    (h : ReadsAs (shape depth) text value) :
    ReadsAs (optionShape shape depth) text (some value) := by
  obtain ⟨c, more, rfl, hspace, hc⟩ := hstart
  intro rest hends
  rw [optionShape, List.cons_append, skipSpaces_of_not_isSpace hspace]
  split
  · cases ‹_›
    exact absurd rfl hc
  · rw [← List.cons_append, h rest hends]
    rfl

theorem readsAs_optionShape_textShape (text : String) :
    ReadsAs (optionShape textShape depth) (Json.string text).chars (some text) :=
  readsAs_optionShape ⟨_, _, rfl, rfl, by decide⟩ (readsAs_textShape text)

theorem readsAs_optionShape_anyShape {value : Json} (hnull : value ≠ .null)
    (h : IsReadable depth value) (hdoubles : DoublesReturn value) :
    ReadsAs (optionShape anyShape depth) value.chars (some value) := by
  obtain ⟨c, more, htext, hspace, -, hc⟩ := exists_chars_eq h hdoubles
  exact readsAs_optionShape ⟨c, more, htext, hspace, hc hnull⟩ (h.readsAs hdoubles)

/-- An option of any value is absent rather than null, and its value can be read again. -/
theorem gives_optionShape_anyShape :
    Gives (optionShape anyShape depth) fun constant =>
      ∀ value ∈ constant, value ≠ .null ∧ IsReadable depth value := by
  intro text constant left h
  unfold optionShape at h
  split at h
  · obtain ⟨_, -, h⟩ := Except.map_eq_ok_iff.mp h
    cases h
    exact nofun
  · rename_i hnull
    obtain ⟨⟨found, rest⟩, hfound, h⟩ := Except.map_eq_ok_iff.mp h
    cases h
    rintro value ⟨⟩
    refine ⟨?_, gives_value depth _ _ _ hfound⟩
    rintro rfl
    obtain ⟨container, hcontainer, hgives⟩ := exists_value_eq depth
    rw [anyShape, hcontainer] at hfound
    have hstart := startsWith_of_valueWith hfound
    generalize skipSpaces text = start at hnull hstart
    cases hstart with
    | null => exact hnull _ rfl
    | container h => exact hgives _ _ _ h

/-! ## Lists -/

theorem readsAs_listShape {shape : Shape α} {toJson : α → Json} {items : List α}
    (hstart : ∀ item ∈ items, StartsValue (toJson item).chars)
    (hread : ∀ item ∈ items, ReadsAs (shape depth) (toJson item).chars item) :
    ReadsAs (listShape shape (depth + 1)) (Json.array (items.map toJson)).chars items := by
  intro rest _
  have hcompose : chars ∘ toJson = fun item => (toJson item).chars := rfl
  rw [chars_array_append, List.map_map, hcompose]
  exact listItems_listed hstart hread true (by rw [List.length_append]; omega) rest

theorem gives_listShape {shape : Shape α} {good : α → Prop} (h : Gives (shape depth) good) :
    Gives (listShape shape (depth + 1)) fun items => ∀ item ∈ items, good item := by
  intro text items left hread
  obtain ⟨c, rest, -, hread⟩ := exists_of_atValue hread
  split at hread
  · exact gives_listItems h _ _ _ _ _ hread
  · exact absurd hread wrongType_ne_ok

/-! ## Names -/

theorem readsAs_choiceShape {values : List (String × α)} {name : String} {value : α}
    (h : OrderedMap.get? values name = some value) :
    ReadsAs (choiceShape values depth) (Json.string name).chars value := by
  intro rest _
  rw [chars, stringChars_append]
  change (stringAfterQuote _).bind _ = _
  rw [stringAfterQuote_flatMap_escapedChar]
  change named values name rest = _
  rw [named, h]

end DocumentMapping.Json
