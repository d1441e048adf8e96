import DocumentMapping.Format.Template
import DocumentMapping.Proofs.Text.CharSets

/-!
# The pieces of a template

A placeholder is written as

    "{" digits ("," blanks "-"? digits)? (":" spec)? "}"

with decimal digits of any script and a format without braces. A template is scanned from left to
right: where a doubled brace or a placeholder begins it is taken, and any other character stands
alone. Each template has exactly one such scan, the one that the reader finds.
-/

namespace DocumentMapping.Format

/-! ## Written placeholders -/

/-- A written alignment: a comma, white space and a number with an optional minus. -/
structure WrittenAlignment where
  blanks : List Char
  isNegative : Bool
  digits : List Char
  areBlank : ∀ c ∈ blanks, Text.isBlank c = true
  digits_ne_nil : digits ≠ []
  areDigits : ∀ c ∈ digits, Text.isDecimalDigit c = true

/-- The minus of a negative number. -/
def minusChars (isNegative : Bool) : List Char :=
  if isNegative then ['-'] else []

namespace WrittenAlignment

/-- The text of the number. -/
def number (alignment : WrittenAlignment) : List Char :=
  minusChars alignment.isNegative ++ alignment.digits

/-- The text of an alignment, which may be left out. -/
def chars : Option WrittenAlignment → List Char
  | none => []
  | some alignment => ',' :: alignment.blanks ++ alignment.number

end WrittenAlignment

/-- The text of a format, which may be left out. -/
def specChars : Option (List Char) → List Char
  | none => []
  | some spec => ':' :: spec

/-- A written placeholder. -/
structure WrittenPlaceholder where
  argument : List Char
  alignment : Option WrittenAlignment
  spec : Option (List Char)
  argument_ne_nil : argument ≠ []
  areDigits : ∀ c ∈ argument, Text.isDecimalDigit c = true
  isUnbraced : ∀ text ∈ spec, ∀ c ∈ text, isBrace c = false

namespace WrittenPlaceholder

/-- The text of a placeholder. -/
def chars (written : WrittenPlaceholder) : List Char :=
  '\x7b' :: written.argument ++ WrittenAlignment.chars written.alignment ++
    specChars written.spec ++ ['\x7d']

/-- What a placeholder says. -/
def content (written : WrittenPlaceholder) : Placeholder where
  argument := written.argument
  alignment := written.alignment.map (·.number)
  spec := written.spec.getD []

end WrittenPlaceholder

/-! ## Reading placeholders -/

section

variable {text rest : List Char}

theorem isBrace_iff {c : Char} : isBrace c = true ↔ c = '\x7b' ∨ c = '\x7d' := by
  simp [isBrace]

theorem isBlank_minus : Text.isBlank '-' = false := by decide +kernel

/-- The first digit of an alignment is neither a minus nor white space. -/
theorem WrittenAlignment.head_digits (alignment : WrittenAlignment) :
    ∀ c ∈ (alignment.digits ++ rest).head?, c ≠ '-' ∧ Text.isBlank c = false := by
  intro c hc
  obtain ⟨first, more, hdigits⟩ := List.exists_cons_of_ne_nil alignment.digits_ne_nil
  rw [hdigits, List.cons_append, List.head?_cons, Option.mem_some_iff] at hc
  subst hc
  have hdigit := alignment.areDigits first (by simp [hdigits])
  refine ⟨?_, Text.isBlank_eq_false hdigit⟩
  rintro rfl
  rw [Text.isDecimalDigit_eq_false (c := '-') (by decide) rfl] at hdigit
  cases hdigit

theorem WrittenAlignment.head_number (alignment : WrittenAlignment) :
    ∀ c ∈ (alignment.number ++ rest).head?, Text.isBlank c = false := by
  intro c hc
  rw [WrittenAlignment.number, List.append_assoc] at hc
  cases hsign : alignment.isNegative with
  | true =>
    rw [hsign, minusChars, if_pos rfl, List.cons_append, List.head?_cons,
      Option.mem_some_iff] at hc
    rw [← hc, isBlank_minus]
  | false =>
    rw [hsign] at hc
    exact (alignment.head_digits c hc).2

/-- A minus that may stand before other text is taken off. -/
theorem takeMinus_append (isNegative : Bool) (htext : ∀ c ∈ text.head?, c ≠ '-') :
    takeMinus (minusChars isNegative ++ text) = (minusChars isNegative, text) := by
  cases isNegative with
  | true => rfl
  | false =>
    rw [minusChars, if_neg Bool.false_ne_true, List.nil_append]
    unfold takeMinus
    split
    · exact absurd rfl (htext '-' rfl)
    · rfl

theorem takeMinus_sound (text : List Char) :
    ∃ isNegative, (takeMinus text).1 = minusChars isNegative ∧
      text = minusChars isNegative ++ (takeMinus text).2 := by
  unfold takeMinus
  split
  · exact ⟨true, rfl, rfl⟩
  · exact ⟨false, rfl, rfl⟩

theorem readAlignmentNumber_complete (alignment : WrittenAlignment)
    (hrest : ∀ c ∈ rest.head?, Text.isDecimalDigit c = false) :
    readAlignmentNumber (alignment.number ++ rest) = some (alignment.number, rest) := by
  have hunsigned : ∀ c ∈ (alignment.digits ++ rest).head?, c ≠ '-' := fun c hc =>
    (alignment.head_digits c hc).1
  rw [readAlignmentNumber, WrittenAlignment.number, List.append_assoc,
    takeMinus_append _ hunsigned, takeWhile_append_of_stop alignment.areDigits hrest,
    dropWhile_append_of_stop alignment.areDigits hrest, if_neg]
  simpa using alignment.digits_ne_nil

/-- A number that is read is that of an alignment with any white space before it. -/
theorem readAlignmentNumber_sound {blanks number : List Char}
    (hblanks : ∀ c ∈ blanks, Text.isBlank c = true)
    (h : readAlignmentNumber text = some (number, rest)) :
    ∃ alignment : WrittenAlignment, alignment.blanks = blanks ∧ alignment.number = number ∧
      text = number ++ rest := by
  obtain ⟨isNegative, hminus, hunsigned⟩ := takeMinus_sound text
  unfold readAlignmentNumber at h
  split at h
  · cases h
  · rename_i hdigits
    cases h
    let written : WrittenAlignment :=
      { blanks
        isNegative
        digits := (takeMinus text).2.takeWhile Text.isDecimalDigit
        areBlank := hblanks
        digits_ne_nil := fun hnil => hdigits (by rw [hnil]; rfl)
        areDigits := fun c hc => List.mem_takeWhile_imp hc }
    refine ⟨written, rfl, by rw [hminus]; rfl, ?_⟩
    rw [List.append_assoc, List.takeWhile_append_dropWhile, hminus, ← hunsigned]

theorem readAlignment_complete (alignment : Option WrittenAlignment)
    (hrest : ∀ c ∈ rest.head?, Text.isDecimalDigit c = false ∧ c ≠ ',') :
    readAlignment (WrittenAlignment.chars alignment ++ rest) =
      some (alignment.map (·.number), rest) := by
  cases alignment with
  | none =>
    rw [WrittenAlignment.chars, List.nil_append]
    unfold readAlignment
    split
    · exact absurd rfl (hrest ',' rfl).2
    · rfl
  | some alignment =>
    have hnumber := readAlignmentNumber_complete alignment fun c hc => (hrest c hc).1
    rw [WrittenAlignment.chars, List.cons_append, List.cons_append, List.append_assoc,
      readAlignment, dropWhile_append_of_stop alignment.areBlank alignment.head_number, hnumber]
    rfl

theorem readAlignment_sound {number : Option (List Char)}
    (h : readAlignment text = some (number, rest)) :
    ∃ alignment : Option WrittenAlignment, alignment.map (·.number) = number ∧
      text = WrittenAlignment.chars alignment ++ rest := by
  unfold readAlignment at h
  split at h
  · rename_i inner
    have hblanks : ∀ c ∈ inner.takeWhile Text.isBlank, Text.isBlank c = true := fun c hc =>
      List.mem_takeWhile_imp hc
    split at h
    · cases h
    · rename_i hread
      cases h
      obtain ⟨alignment, hleading, rfl, htext⟩ := readAlignmentNumber_sound hblanks hread
      refine ⟨some alignment, rfl, ?_⟩
      rw [WrittenAlignment.chars, List.cons_append, List.cons_append, List.append_assoc, hleading,
        ← htext, List.takeWhile_append_dropWhile]
  · cases h
    exact ⟨none, rfl, rfl⟩

theorem readSpec_complete {spec : Option (List Char)}
    (hspec : ∀ text ∈ spec, ∀ c ∈ text, isBrace c = false) (rest : List Char) :
    readSpec (specChars spec ++ '\x7d' :: rest) = (spec.getD [], '\x7d' :: rest) := by
  cases spec with
  | none => rfl
  | some spec =>
    have hall : ∀ c ∈ spec, (!isBrace c) = true := fun c hc => by rw [hspec spec rfl c hc]; rfl
    have hstop : ∀ c ∈ ('\x7d' :: rest).head?, (!isBrace c) = false := by
      rintro c hc
      cases hc
      rfl
    rw [specChars, List.cons_append, readSpec, takeWhile_append_of_stop hall hstop,
      dropWhile_append_of_stop hall hstop]
    rfl

theorem readSpec_sound {spec : List Char} (h : readSpec text = (spec, rest)) :
    ∃ written : Option (List Char), written.getD [] = spec ∧
      (∀ text ∈ written, ∀ c ∈ text, isBrace c = false) ∧ text = specChars written ++ rest := by
  unfold readSpec at h
  split at h
  · cases h
    refine ⟨some _, rfl, ?_, by simp [specChars]⟩
    rintro _ ⟨⟩ c hc
    simpa using List.mem_takeWhile_imp hc
  · cases h
    exact ⟨none, rfl, by simp, rfl⟩

/-- What follows the digits of an argument or an alignment does not continue them. -/
theorem head_specChars (spec : Option (List Char)) :
    ∀ c ∈ (specChars spec ++ '\x7d' :: rest).head?, Text.isDecimalDigit c = false ∧ c ≠ ',' := by
  intro c hc
  cases spec with
  | none =>
    cases hc
    exact ⟨Text.isDecimalDigit_eq_false (by decide) rfl, by decide⟩
  | some spec =>
    cases hc
    exact ⟨Text.isDecimalDigit_eq_false (by decide) rfl, by decide⟩

theorem head_alignmentChars (alignment : Option WrittenAlignment) (spec : Option (List Char))
    (rest : List Char) :
    ∀ c ∈ (WrittenAlignment.chars alignment ++ (specChars spec ++ '\x7d' :: rest)).head?,
      Text.isDecimalDigit c = false := by
  intro c hc
  cases alignment with
  | none => exact (head_specChars spec c hc).1
  | some alignment =>
    cases hc
    exact Text.isDecimalDigit_eq_false (by decide) rfl

theorem WrittenPlaceholder.chars_append (written : WrittenPlaceholder) (rest : List Char) :
    written.chars ++ rest =
      '\x7b' :: (written.argument ++ (WrittenAlignment.chars written.alignment ++
        (specChars written.spec ++ '\x7d' :: rest))) := by
  simp [chars]

/-- A placeholder begins with an opening brace. -/
theorem WrittenPlaceholder.cons_ne_chars {c : Char} (h : c ≠ '\x7b')
    (written : WrittenPlaceholder) (after : List Char) : c :: rest ≠ written.chars ++ after :=
  fun htext => h (List.cons.inj htext).1

theorem readPlaceholderEnd_sound {argument : List Char} {content : Placeholder}
    (h : readPlaceholderEnd argument text = some (content, rest)) :
    ∃ (alignment : Option WrittenAlignment) (spec : Option (List Char)),
      (∀ text ∈ spec, ∀ c ∈ text, isBrace c = false) ∧
        content = ⟨argument, alignment.map (·.number), spec.getD []⟩ ∧
        text = WrittenAlignment.chars alignment ++ (specChars spec ++ '\x7d' :: rest) := by
  unfold readPlaceholderEnd at h
  split at h
  · cases h
  · rename_i hnumber
    split at h
    · rename_i hspec
      cases h
      obtain ⟨alignment, rfl, rfl⟩ := readAlignment_sound hnumber
      obtain ⟨spec, rfl, hunbraced, rfl⟩ := readSpec_sound hspec
      exact ⟨alignment, spec, hunbraced, rfl, rfl⟩
    · cases h

/-- A placeholder is read exactly where one is written. -/
theorem readPlaceholder_iff {content : Placeholder} :
    readPlaceholder text = some (content, rest) ↔
      ∃ written : WrittenPlaceholder, written.content = content ∧
        '\x7b' :: text = written.chars ++ rest := by
  constructor
  · intro h
    unfold readPlaceholder at h
    split at h
    · cases h
    · rename_i hargument
      obtain ⟨alignment, spec, hunbraced, rfl, hending⟩ := readPlaceholderEnd_sound h
      let written : WrittenPlaceholder :=
        { argument := text.takeWhile Text.isDecimalDigit
          alignment
          spec
          argument_ne_nil := fun hnil => hargument (by rw [hnil]; rfl)
          areDigits := fun c hc => List.mem_takeWhile_imp hc
          isUnbraced := hunbraced }
      refine ⟨written, rfl, ?_⟩
      rw [WrittenPlaceholder.chars_append, ← hending, List.takeWhile_append_dropWhile]
  · rintro ⟨written, rfl, h⟩
    rw [WrittenPlaceholder.chars_append] at h
    have hstop := head_alignmentChars written.alignment written.spec rest
    rw [(List.cons.inj h).2, readPlaceholder, takeWhile_append_of_stop written.areDigits hstop,
      dropWhile_append_of_stop written.areDigits hstop,
      if_neg (by simpa using written.argument_ne_nil), readPlaceholderEnd,
      readAlignment_complete _ (head_specChars written.spec)]
    simp only [readSpec_complete written.isUnbraced, WrittenPlaceholder.content]

end

/-! ## Scans -/

/-- What a template is cut into from left to right: a doubled brace or a placeholder where one
begins, and any other character on its own. -/
inductive Scans : List Char → List Piece → Prop
  | finished : Scans [] []
  | brace {c : Char} {rest : List Char} {found : List Piece} (isBrace : isBrace c = true)
      (scans : Scans rest found) : Scans (c :: c :: rest) (.brace c :: found)
  | placeholder (written : WrittenPlaceholder) {rest : List Char} {found : List Piece}
      (scans : Scans rest found) :
      Scans (written.chars ++ rest) (.placeholder written.content :: found)
  | character {c : Char} {rest : List Char} {found : List Piece}
      (notDoubled : isBrace c = true → rest.head? ≠ some c)
      (notPlaceholder : ∀ (written : WrittenPlaceholder) (after : List Char),
        c :: rest ≠ written.chars ++ after)
      (scans : Scans rest found) : Scans (c :: rest) (.character c :: found)

section

variable {rest : List Char}

theorem pieces_brace {c : Char} (h : isBrace c = true) :
    pieces (c :: c :: rest) = .brace c :: pieces rest := by
  obtain rfl | rfl := isBrace_iff.mp h <;> rw [pieces]

/-- An opening brace that is not doubled begins a placeholder or stands alone. -/
theorem pieces_opening (h : rest.head? ≠ some '\x7b') :
    pieces ('\x7b' :: rest) =
      match readPlaceholder rest with
      | some (content, after) => .placeholder content :: pieces after
      | none => .character '\x7b' :: pieces rest := by
  rw [pieces]
  · split <;> simp_all
  · rintro more rfl
    exact h rfl

theorem pieces_placeholder (written : WrittenPlaceholder) (rest : List Char) :
    pieces (written.chars ++ rest) = .placeholder written.content :: pieces rest := by
  have htext := written.chars_append rest
  rw [htext, pieces_opening, readPlaceholder_iff.mpr ⟨written, rfl, htext.symm⟩]
  -- the argument begins with a digit
  obtain ⟨first, more, hdigits⟩ := List.exists_cons_of_ne_nil written.argument_ne_nil
  rw [hdigits, List.cons_append, List.head?_cons, Ne, Option.some.injEq]
  rintro rfl
  have hdigit := written.areDigits '\x7b' (by simp [hdigits])
  rw [Text.isDecimalDigit_eq_false (by decide) rfl] at hdigit
  cases hdigit

theorem pieces_character {c : Char} (hdoubled : isBrace c = true → rest.head? ≠ some c)
    (hplaceholder : ∀ (written : WrittenPlaceholder) (after : List Char),
      c :: rest ≠ written.chars ++ after) :
    pieces (c :: rest) = .character c :: pieces rest := by
  by_cases hopening : c = '\x7b'
  · subst hopening
    have hread : readPlaceholder rest = none := by
      cases hread : readPlaceholder rest with
      | none => rfl
      | some found =>
        obtain ⟨written, -, htext⟩ := readPlaceholder_iff.mp hread
        exact absurd htext (hplaceholder written found.2)
    rw [pieces_opening (hdoubled rfl), hread]
  · rw [pieces]
    · exact fun _ hc _ => hopening hc
    · rintro more rfl rfl
      exact hdoubled rfl rfl
    · exact hopening

end

/-- Each template has exactly one scan. -/
theorem scans_iff {text : List Char} {found : List Piece} :
    Scans text found ↔ pieces text = found := by
  constructor
  · intro h
    induction h with
    | finished => rw [pieces]
    | brace isBrace _ ih => rw [pieces_brace isBrace, ih]
    | placeholder written _ ih => rw [pieces_placeholder, ih]
    | character notDoubled notPlaceholder _ ih =>
      rw [pieces_character notDoubled notPlaceholder, ih]
  · rintro rfl
    fun_induction pieces text with
    | case1 => exact .finished
    | case2 rest ih => exact .brace rfl ih
    | case3 rest ih => exact .brace rfl ih
    | case4 rest hdoubled content after hread _ ih =>
      obtain ⟨written, rfl, htext⟩ := readPlaceholder_iff.mp hread
      rw [htext]
      exact .placeholder written ih
    | case5 rest hdoubled hread ih =>
      refine .character (fun _ hhead => ?_) (fun written after htext => ?_) ih
      · obtain ⟨more, rfl⟩ := List.head?_eq_some_iff.mp hhead
        exact hdoubled more rfl
      · rw [readPlaceholder_iff.mpr ⟨written, rfl, htext⟩] at hread
        cases hread
    | case6 c rest hopening hclosing hother ih =>
      refine .character (fun hbrace hhead => ?_) (WrittenPlaceholder.cons_ne_chars hother) ih
      obtain ⟨more, rfl⟩ := List.head?_eq_some_iff.mp hhead
      obtain rfl | rfl := isBrace_iff.mp hbrace
      · exact hopening more rfl rfl
      · exact hclosing more rfl rfl

end DocumentMapping.Format
