import DocumentMapping.Mapping.Formatting
import DocumentMapping.Proofs.Format.Scanning
import DocumentMapping.Proofs.Number.Digits

/-!
# Templates made of segments

A template can be put together of literal texts, whose braces are doubled, and of placeholders for
the formatted value. What it gives is the literal texts and the written values one after the other,
wherever their braces touch. A template that has a brace outside such segments, or a placeholder for
another argument, is refused.
-/

namespace DocumentMapping

namespace Format

/-! ## Alignments -/

/-- The number that digits write, negative after a minus. -/
def signedValue (isNegative : Bool) (digits : List Char) : Int :=
  if isNegative then -digitsValue digits else digitsValue digits

/-- A number of 64 bits is read back. -/
theorem readInt64?_minusChars {isNegative : Bool} {digits : List Char} {value : Int64}
    (hdigits : isDigits digits = true) (hvalue : value.toInt = signedValue isNegative digits) :
    readInt64? (minusChars isNegative ++ digits) = some value := by
  have hlower := value.le_toInt
  have hupper := value.toInt_lt
  rw [← Int64.ofInt_toInt value, hvalue]
  rw [hvalue] at hlower hupper
  cases isNegative with
  | true =>
    simp only [readInt64?, minusChars, if_true, List.singleton_append, hdigits, Bool.not_true,
      Bool.false_eq_true, if_false]
    exact if_pos ⟨hlower, hupper⟩
  | false =>
    obtain ⟨-, hall⟩ := isDigits_iff.mp hdigits
    rw [minusChars, if_neg Bool.false_ne_true, List.nil_append]
    unfold readInt64?
    split
    rename_i hsign
    split at hsign
    -- a sign is no digit
    · exact absurd (hall '-' List.mem_cons_self) (by decide)
    · exact absurd (hall '+' List.mem_cons_self) (by decide)
    · cases hsign
      simp only [hdigits, Bool.not_true, Bool.false_eq_true, if_false]
      exact if_pos ⟨hlower, hupper⟩

/-- An alignment: an integer of 64 bits, written in decimal digits with an optional minus. -/
structure FieldAlignment where
  value : Int64
  isNegative : Bool
  digits : List Char
  isDigits : isDigits digits = true
  value_eq : value.toInt = signedValue isNegative digits

namespace FieldAlignment

/-- The shortest way to write an integer as an alignment. -/
def ofInt64 (value : Int64) : FieldAlignment where
  value
  isNegative := decide (value.toInt < 0)
  digits := digitChars value.toInt.natAbs
  isDigits := isDigits_digitChars _
  value_eq := by
    rw [signedValue, digitsValue_digitChars]
    by_cases hneg : value.toInt < 0
    · rw [decide_eq_true hneg, if_pos rfl]
      omega
    · rw [decide_eq_false hneg, if_neg Bool.false_ne_true]
      omega

/-- How an alignment is written in a placeholder. -/
def written (alignment : FieldAlignment) : WrittenAlignment where
  blanks := []
  isNegative := alignment.isNegative
  digits := alignment.digits
  areBlank := by simp
  digits_ne_nil := (isDigits_iff.mp alignment.isDigits).1
  areDigits := fun c hc =>
    Text.isDecimalDigit_of_isDigit ((isDigits_iff.mp alignment.isDigits).2 c hc)

end FieldAlignment

/-- A text filled with spaces to at least the width of an alignment and never cut: in front, or
behind when the alignment is negative. -/
structure Fills (alignment : Int) (text filled : List Char) : Prop where
  length_eq : filled.length = max alignment.natAbs text.length
  eq_append : ∃ spaces, filled =
    if 0 ≤ alignment then List.replicate spaces ' ' ++ text
    else text ++ List.replicate spaces ' '

theorem align_fills (alignment : Int) (text : List Char) :
    Fills alignment text (align alignment text) where
  length_eq := by
    unfold align
    split <;> simp <;> omega
  eq_append := ⟨alignment.natAbs - text.length, rfl⟩

/-! ## Segments -/

/-- A segment of a template: a literal text, or a placeholder for the value with an alignment and a
format if they are given. -/
inductive Segment where
  | literal (text : List Char)
  | placeholder (alignment : Option FieldAlignment) (spec : Option (List Char))
      (isUnbraced : ∀ text ∈ spec, ∀ c ∈ text, isBrace c = false)

namespace Segment

/-- How a placeholder for the value is written. -/
def written (alignment : Option FieldAlignment) (spec : Option (List Char))
    (isUnbraced : ∀ text ∈ spec, ∀ c ∈ text, isBrace c = false) : WrittenPlaceholder where
  argument := ['0']
  alignment := alignment.map (·.written)
  spec
  argument_ne_nil := by simp
  areDigits := by simpa using Text.isDecimalDigit_of_isDigit (c := '0') rfl
  isUnbraced

/-- The text of a segment; the braces of a literal are doubled. -/
def chars : Segment → List Char
  | literal text => text.flatMap fun c => if isBrace c then [c, c] else [c]
  | placeholder alignment spec isUnbraced => (written alignment spec isUnbraced).chars

/-- The template that prints segments in their order. -/
def template (segments : List Segment) : String :=
  String.ofList (segments.flatMap chars)

/-- What a segment stands for: a literal for itself, and a placeholder for the value written by the
format and filled to the alignment. -/
def render (value : Scalar) : Segment → Except TemplateFault (List Char)
  | literal text => .ok text
  | placeholder none spec _ => valueChars value (spec.getD [])
  | placeholder (some alignment) spec _ =>
    (valueChars value (spec.getD [])).map (align alignment.value.toInt)

/-- The pieces that a segment is cut into. -/
def pieces : Segment → List Piece
  | literal text => text.map fun c => if isBrace c then .brace c else .character c
  | placeholder alignment spec isUnbraced =>
    [.placeholder (written alignment spec isUnbraced).content]

/-- A segment is scanned as its pieces, whatever follows it. -/
theorem scans_append {rest : List Char} {found : List Piece} (segment : Segment)
    (h : Scans rest found) : Scans (segment.chars ++ rest) (segment.pieces ++ found) := by
  cases segment with
  | literal text =>
    induction text with
    | nil => exact h
    | cons c text ih =>
      rw [chars, pieces, List.flatMap_cons, List.map_cons, List.append_assoc]
      by_cases hbrace : isBrace c
      · rw [if_pos hbrace, if_pos hbrace]
        exact .brace hbrace ih
      · rw [if_neg hbrace, if_neg hbrace]
        refine .character (fun h => absurd h hbrace) (WrittenPlaceholder.cons_ne_chars ?_) ih
        exact fun hopening => hbrace (isBrace_iff.mpr (.inl hopening))
  | placeholder alignment spec isUnbraced => exact .placeholder _ h

theorem scans_template (segments : List Segment) :
    Scans (template segments).toList (segments.flatMap pieces) := by
  rw [template, String.toList_ofList]
  induction segments with
  | nil => exact .finished
  | cons segment segments ih => exact segment.scans_append ih

/-- A placeholder is written as what its segment stands for. -/
theorem placeholderChars_content (value : Scalar) (alignment : Option FieldAlignment)
    (spec : Option (List Char)) (isUnbraced : ∀ text ∈ spec, ∀ c ∈ text, isBrace c = false) :
    placeholderChars value (written alignment spec isUnbraced).content =
      render value (placeholder alignment spec isUnbraced) := by
  cases alignment with
  | none => exact bind_pure _
  | some alignment =>
    have hread : readInt64? alignment.written.number = some alignment.value :=
      readInt64?_minusChars alignment.isDigits alignment.value_eq
    simp only [placeholderChars, WrittenPlaceholder.content, written, Option.map_some, hread,
      render]
    cases valueChars value (spec.getD []) <;> rfl

/-- A literal is written as it is, before what follows it. -/
theorem renderPieces_literal (value : Scalar) (text : List Char) (found : List Piece) :
    renderPieces value ((literal text).pieces ++ found) =
      (renderPieces value found).map (text ++ ·) := by
  induction text with
  | nil => exact (id_map _).symm
  | cons c text ih =>
    rw [pieces, List.map_cons, List.cons_append]
    by_cases hbrace : isBrace c
    · rw [if_pos hbrace, renderPieces, ← pieces, ih]
      cases renderPieces value found <;> rfl
    · rw [if_neg hbrace, renderPieces, if_neg hbrace, ← pieces, ih]
      cases renderPieces value found <;> rfl

/-- Written pieces begin with what a segment stands for. -/
theorem renderPieces_append (value : Scalar) (segment : Segment) (found : List Piece) :
    renderPieces value (segment.pieces ++ found) =
      (segment.render value).bind fun text => (renderPieces value found).map (text ++ ·) := by
  cases segment with
  | literal text => exact renderPieces_literal value text found
  | placeholder alignment spec isUnbraced =>
    rw [pieces, List.singleton_append, renderPieces, placeholderChars_content]
    cases render value (placeholder alignment spec isUnbraced) with
    | error fault => rfl
    | ok text => cases renderPieces value found <;> rfl

theorem renderPieces_flatMap (value : Scalar) (segments : List Segment) :
    renderPieces value (segments.flatMap pieces) =
      (segments.mapM (render value)).map List.flatten := by
  induction segments with
  | nil => rfl
  | cons segment segments ih =>
    rw [List.flatMap_cons, renderPieces_append, ih, List.mapM_cons]
    cases render value segment with
    | error fault => rfl
    | ok text => cases segments.mapM (render value) <;> rfl

end Segment

/-! ## Refused templates -/

/-- A piece for which there is no writing: a brace on its own, or a placeholder for another argument
than the value. -/
def Piece.IsStray : Piece → Prop
  | .character c => isBrace c = true
  | .brace _ => False
  | .placeholder content => content.argument ≠ ['0']

/-- Pieces with a stray one among them are not written. -/
theorem renderPieces_of_isStray (value : Scalar) {found : List Piece}
    (h : ∃ piece ∈ found, piece.IsStray) : ∃ fault, renderPieces value found = .error fault := by
  induction found with
  | nil => simp at h
  | cons first rest ih =>
    have hrest (hfirst : ¬ first.IsStray) : ∃ fault, renderPieces value rest = .error fault := by
      obtain ⟨piece, hmem, hstray⟩ := h
      obtain rfl | hlater := List.mem_cons.mp hmem
      · exact absurd hstray hfirst
      · exact ih ⟨piece, hlater, hstray⟩
    cases first with
    | character c =>
      rw [renderPieces]
      by_cases hbrace : isBrace c = true
      · exact ⟨_, if_pos hbrace⟩
      · obtain ⟨fault, hfault⟩ := hrest hbrace
        rw [if_neg hbrace, hfault]
        exact ⟨fault, rfl⟩
    | brace c =>
      obtain ⟨fault, hfault⟩ := hrest id
      rw [renderPieces, hfault]
      exact ⟨fault, rfl⟩
    | placeholder content =>
      rw [renderPieces]
      cases hwritten : placeholderChars value content with
      | error fault => exact ⟨fault, rfl⟩
      | ok text =>
        have hargument : content.argument = ['0'] := by
          refine Decidable.byContradiction fun hother => ?_
          rw [placeholderChars, if_pos hother] at hwritten
          cases hwritten
        obtain ⟨fault, hfault⟩ := hrest (not_not.mpr hargument)
        rw [hfault]
        exact ⟨fault, rfl⟩

end Format

open Format in
/-- Templates write segment by segment. A template of segments gives the literal texts and the
written values one after the other, or the fault of the first segment that has one, and a value is
filled with spaces to its alignment and never cut. Each template has exactly one scan from left to
right, and it is refused if that scan leaves a brace on its own or finds another argument than the
value. -/
theorem templates_write_by_segments (value : Scalar) :
    (∀ segments : List Segment,
      value.format (Segment.template segments) =
        ((segments.mapM (Segment.render value)).map fun texts =>
          String.ofList texts.flatten).mapError (.invalidTemplate (Segment.template segments))) ∧
    (∀ (alignment : FieldAlignment) (text : List Char),
      Fills alignment.value.toInt text (align alignment.value.toInt text)) ∧
    (∀ template : String, ∃! found, Scans template.toList found) ∧
    ∀ (template : String) (found : List Piece), Scans template.toList found →
      (∃ piece ∈ found, piece.IsStray) →
        ∃ fault, value.format template = .error (.invalidTemplate template fault) := by
  refine ⟨fun segments => ?_, fun alignment => align_fills alignment.value.toInt,
    fun template => ?_, fun template found hscan hstray => ?_⟩
  · rw [Scalar.format, renderTemplate, scans_iff.mp (Segment.scans_template segments),
      Segment.renderPieces_flatMap]
    cases segments.mapM (Segment.render value) <;> rfl
  · exact ⟨_, scans_iff.mpr rfl, fun other h => (scans_iff.mp h).symm⟩
  · obtain ⟨fault, hfault⟩ := renderPieces_of_isStray value hstray
    exact ⟨fault, by rw [Scalar.format, renderTemplate, scans_iff.mp hscan, hfault]; rfl⟩

open Format in
/-- Doubled braces around placeholders, and a template that is one closing brace short. -/
theorem templates_write_by_segments_of_touching_braces :
    (Scalar.string "ab").format "\x7b\x7b\x7b0\x7d\x7d\x7d\x7b0,-4:U\x7d|" = .ok "\x7bab\x7dAB  |" ∧
      ∃ fault, (Scalar.string "ab").format "\x7b\x7b0\x7d" =
        .error (.invalidTemplate "\x7b\x7b0\x7d" fault) := by
  constructor
  · exact (templates_write_by_segments (.string "ab")).1
      [.literal ['\x7b'], .placeholder none none (by simp), .literal ['\x7d'],
        .placeholder (some (.ofInt64 (-4))) (some ['U']) (by simp [isBrace]), .literal ['|']]
  · have hscan : Scans ['\x7b', '\x7b', '0', '\x7d']
        [.brace '\x7b', .character '0', .character '\x7d'] :=
      .brace rfl
        (.character (by decide) (WrittenPlaceholder.cons_ne_chars (by decide))
          (.character (by decide) (WrittenPlaceholder.cons_ne_chars (by decide)) .finished))
    exact (templates_write_by_segments (.string "ab")).2.2.2 "\x7b\x7b0\x7d" _ hscan
      ⟨.character '\x7d', by simp, rfl⟩

end DocumentMapping
