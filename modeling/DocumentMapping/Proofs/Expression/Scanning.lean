import Mathlib.Tactic.ByContra
import DocumentMapping.Expression.Token
import DocumentMapping.Proofs.Sequencing
import DocumentMapping.Proofs.Text.CharSets

/-!
# Tokens where they stand

A token is read from the start of a text, and what it takes up depends on what the text goes on
with: the digits of a number end where no digit follows, a word where it could not go on, and an
exclamation mark is a sign by itself only when no equality sign follows. Reading is described by a
relation between a token, the piece that it takes up and the text behind. The relation keeps holding
when the text behind is cut off, or goes on with a blank.
-/

namespace DocumentMapping.Expression

variable {token : Token} {piece tail : List Char}

/-! ## What a text goes on with -/

/-- The text does not go on with a character of a kind. -/
def Halts (p : Char → Bool) (text : List Char) : Prop :=
  ∀ c ∈ text.head?, p c = false

/-- The text ends, or goes on with a blank. -/
def Breaks (text : List Char) : Prop :=
  ∀ c ∈ text.head?, isSpace c = true

theorem breaks_nil : Breaks [] := by
  simp [Breaks]

theorem halts_nil (p : Char → Bool) : Halts p [] := by
  simp [Halts]

theorem halts_cons {p : Char → Bool} {c : Char} {text : List Char} :
    Halts p (c :: text) ↔ p c = false := by
  simp [Halts]

theorem halts_dropWhile (p : Char → Bool) (text : List Char) : Halts p (text.dropWhile p) :=
  fun c hc => by
    have hfirst := List.head?_dropWhile_not p text
    rwa [hc] at hfirst

/-- The blanks that may stand between tokens. -/
def blanks : List Char :=
  [' ', '\t', '\n', '\x0c', '\r']

theorem isSpace_iff {c : Char} : isSpace c = true ↔ c ∈ blanks := by
  simp [isSpace, blanks, or_assoc]

/-- No blank belongs to a kind of characters. -/
def OmitsBlanks (p : Char → Bool) : Prop :=
  ∀ c, isSpace c = true → p c = false

theorem omitsBlanks_of_blanks {p : Char → Bool}
    (h : ∀ c ∈ blanks, p c = false) : OmitsBlanks p :=
  fun c hc => h c (isSpace_iff.mp hc)

theorem omitsBlanks_isDigit : OmitsBlanks Char.isDigit :=
  omitsBlanks_of_blanks (forall_mem_of_all (by decide))

theorem omitsBlanks_equalSign : OmitsBlanks (· == '=') :=
  omitsBlanks_of_blanks (forall_mem_of_all (by decide))

/-- What ends before a text goes on ends there too when the text breaks off. -/
theorem Halts.of_breaks {p : Char → Bool} (hp : OmitsBlanks p) {before after rest : List Char}
    (h : Halts p (before ++ after)) (hrest : Breaks rest) : Halts p (before ++ rest) := by
  cases before with
  | nil => exact fun c hc => hp c (hrest c hc)
  | cons first more => exact h

/-! ## Signs -/

/-- The characters that signs begin with. -/
def signChars : List Char :=
  ['.', ',', '(', ')', '[', ']', '+', '-', '*', '/', '%', '=', '!', '<', '>', '&', '|', '?']

/-- The signs that an equality sign would make longer. -/
def extensibleSigns : List (List Char) :=
  [['!'], ['<'], ['>']]

theorem mem_signChars {c : Char} {rest : List Char} {found : Token × List Char}
    (h : scanSigns (c :: rest) = some found) : c ∈ signChars := by
  by_contra hc
  simp only [signChars, List.mem_cons, List.not_mem_nil, not_or, or_false] at hc
  simp [scanSigns, hc] at h

theorem scanSigns_eq_none {c : Char} (h : c ∉ signChars) (rest : List Char) :
    scanSigns (c :: rest) = none := by
  cases hscan : scanSigns (c :: rest) with
  | none => rfl
  | some found => exact absurd (mem_signChars hscan) h

theorem halts_equalSign {text : List Char} (h : ∀ rest, text = '=' :: rest → False) :
    Halts (· == '=') text := by
  cases text with
  | nil => exact halts_nil _
  | cons c rest => exact halts_cons.mpr (by simpa using fun heq => h rest (by rw [heq]))

/-- The piece of a sign alone gives the sign, and it is not made longer. -/
theorem exists_of_scanSigns {text : List Char} (h : scanSigns text = some (token, piece)) :
    ∃ tail, text = piece ++ tail ∧ scanSigns piece = some (token, piece) ∧
      (piece ∈ extensibleSigns → Halts (· == '=') tail) := by
  fun_cases scanSigns text
  all_goals simp only [scanSigns, Option.some.injEq, Prod.mk.injEq, reduceCtorEq] at h
  all_goals obtain ⟨rfl, rfl⟩ := h
  case case14 rest hrest => exact ⟨rest, rfl, rfl, fun _ => halts_equalSign hrest⟩
  case case16 rest hrest => exact ⟨rest, rfl, rfl, fun _ => halts_equalSign hrest⟩
  case case18 rest hrest => exact ⟨rest, rfl, rfl, fun _ => halts_equalSign hrest⟩
  all_goals exact ⟨_, rfl, rfl, fun hmem => absurd hmem (by decide)⟩

/-- A sign is read where it is not made longer. -/
theorem scanSigns_append (h : scanSigns piece = some (token, piece))
    (htail : piece ∈ extensibleSigns → Halts (· == '=') tail) :
    scanSigns (piece ++ tail) = some (token, piece) := by
  -- the first sign of two, when another character than the equality sign follows
  have hshort {c : Char} {token : Token}
      (hread : ∀ next more, next ≠ '=' → scanSigns (c :: next :: more) = some (token, [c]))
      (halone : scanSigns [c] = some (token, [c])) (hhalts : Halts (· == '=') tail) :
      scanSigns ([c] ++ tail) = some (token, [c]) := by
    cases tail with
    | nil => exact halone
    | cons next more => exact hread next more (by simpa [halts_cons] using hhalts)
  fun_cases scanSigns piece
  all_goals simp only [scanSigns, Option.some.injEq, Prod.mk.injEq, reduceCtorEq] at h
  all_goals obtain ⟨rfl, hpiece⟩ := h
  all_goals cases hpiece
  case case14 => exact hshort (fun _ _ hne => by simp [scanSigns, hne]) rfl (htail (by decide))
  case case16 => exact hshort (fun _ _ hne => by simp [scanSigns, hne]) rfl (htail (by decide))
  case case18 => exact hshort (fun _ _ hne => by simp [scanSigns, hne]) rfl (htail (by decide))
  all_goals rfl

/-! ## Strings -/

/-- A string behind its opening quote, the closing one included, and what it stands for. -/
inductive Quoted (quote : Char) : List Char → List Char → Prop
  | close : Quoted quote [] [quote]
  | escape {c value : Char} {content body : List Char} (hvalue : escaped? c = some value)
      (h : Quoted quote content body) : Quoted quote (value :: content) ('\\' :: c :: body)
  | plain {c : Char} {content body : List Char} (hmark : c ≠ '\\') (hquote : c ≠ quote)
      (h : Quoted quote content body) : Quoted quote (c :: content) (c :: body)

section

variable {quote : Char} {ahead : Nat} {content body text : List Char}

theorem exists_of_scanString
    (h : scanString quote ahead text = .ok (content, body)) :
    Quoted quote content body ∧ ∃ tail, text = body ++ tail := by
  induction ahead, text using scanString.induct quote generalizing content body with
  | case1 => simp [scanString] at h
  | case2 => simp [scanString] at h
  | case3 ahead c rest hvalue => simp [scanString, hvalue] at h
  | case4 ahead c rest value hvalue ih =>
    simp only [scanString, hvalue] at h
    obtain ⟨⟨more, piece⟩, hrest, h⟩ := Except.bind_eq_ok_iff.mp h
    cases h
    obtain ⟨hquoted, tail, rfl⟩ := ih hrest
    exact ⟨.escape hvalue hquoted, tail, rfl⟩
  | case5 ahead rest =>
    simp only [scanString, if_true] at h
    cases h
    exact ⟨.close, rest, rfl⟩
  | case6 ahead c rest hlast hescape hne ih =>
    have hmark : c ≠ '\\' := by
      rintro rfl
      cases rest with
      | nil => exact hlast rfl rfl
      | cons next more => exact hescape next more rfl rfl
    simp only [scanString, hne, if_false] at h
    obtain ⟨⟨more, piece⟩, hrest, h⟩ := Except.bind_eq_ok_iff.mp h
    cases h
    obtain ⟨hquoted, tail, rfl⟩ := ih hrest
    exact ⟨.plain hmark hne hquoted, tail, rfl⟩

theorem Quoted.scanString_append (h : Quoted quote content body) (hquote : quote ≠ '\\')
    (ahead : Nat) (tail : List Char) :
    scanString quote ahead (body ++ tail) = .ok (content, body) := by
  induction h generalizing ahead with
  | close => simp [scanString, hquote]
  | escape hvalue _ ih => simp [scanString, hvalue, ih]; rfl
  | plain hmark hne _ ih =>
    simp [scanString, hmark, hne, ih]; rfl

end

/-! ## Numbers -/

/-- The token of the piece of a number. -/
def numberToken (piece : List Char) : Token :=
  match readInt64? piece with
  | some value => .integer value
  | none => .decimal (String.ofList piece)

/-- Digits whose number fits are an integer, and all other pieces that begin with a digit are
decimals. -/
theorem numberToken_eq {piece : List Char} (h : ∃ c ∈ piece.head?, c.isDigit = true) :
    numberToken piece =
      if isDigits piece = true ∧ digitsValue piece < 2 ^ 63
      then .integer (Int64.ofInt (digitsValue piece))
      else .decimal (String.ofList piece) := by
  obtain ⟨c, hhead, hc⟩ := h
  have hread : readInt64? piece =
      if isDigits piece = true ∧ digitsValue piece < 2 ^ 63
      then some (Int64.ofInt (digitsValue piece)) else none := by
    unfold readInt64?
    split
    rename_i hsign
    split at hsign
    · cases hhead
      cases hc
    · cases hhead
      cases hc
    · cases hsign
      by_cases hdigits : isDigits piece = true
      · simp only [hdigits, Bool.not_true, Bool.false_eq_true, if_false, true_and]
        refine if_congr ?_ rfl rfl
        omega
      · simp [hdigits]
  rw [numberToken, hread]
  by_cases hfits : isDigits piece = true ∧ digitsValue piece < 2 ^ 63
  · rw [if_pos hfits, if_pos hfits]
  · rw [if_neg hfits, if_neg hfits]

/-- A point and the digits behind it, or nothing. -/
def IsFraction (fraction : List Char) : Prop :=
  fraction = [] ∨ ∃ digits ≠ [], (∀ c ∈ digits, c.isDigit = true) ∧ fraction = '.' :: digits

/-- The text does not go on with a point and a digit. -/
def OmitsFraction (text : List Char) : Prop :=
  ∀ rest, text = '.' :: rest → Halts Char.isDigit rest

theorem omitsFraction_of_scanFraction {text : List Char} (h : scanFraction text = []) :
    OmitsFraction text := by
  rintro rest rfl
  cases rest with
  | nil => exact halts_nil _
  | cons c more => exact halts_cons.mpr (by simpa [scanFraction, List.takeWhile_cons] using h)

theorem OmitsFraction.of_breaks {before after rest : List Char}
    (h : OmitsFraction (before ++ after)) (hrest : Breaks rest) :
    OmitsFraction (before ++ rest) := by
  cases before with
  | nil =>
    rintro more rfl
    exact absurd (hrest '.' rfl) (by decide)
  | cons c more =>
    intro text htext
    rw [List.cons_append, List.cons.injEq] at htext
    obtain ⟨rfl, rfl⟩ := htext
    exact (h (more ++ after) rfl).of_breaks omitsBlanks_isDigit hrest

/-- A number takes up its digits, and a fraction if there is one. -/
structure TakesNumber (digits fraction tail : List Char) : Prop where
  digits_ne_nil : digits ≠ []
  isDigit_of_mem : ∀ c ∈ digits, c.isDigit = true
  isFraction : IsFraction fraction
  halts : Halts Char.isDigit tail
  omitsFraction : fraction = [] → OmitsFraction tail

/-- What a fraction takes up -/
theorem exists_of_scanFraction (text : List Char) (h : Halts Char.isDigit text) :
    ∃ tail, text = scanFraction text ++ tail ∧ IsFraction (scanFraction text) ∧
      Halts Char.isDigit tail ∧ (scanFraction text = [] → OmitsFraction tail) := by
  by_cases hnone : scanFraction text = []
  · exact ⟨text, by rw [hnone]; rfl, .inl hnone, h, omitsFraction_of_scanFraction⟩
  · obtain ⟨rest, rfl⟩ : ∃ rest, text = '.' :: rest := by
      unfold scanFraction at hnone
      split at hnone
      · exact ⟨_, rfl⟩
      · exact absurd rfl hnone
    have hdigits : (rest.takeWhile Char.isDigit).isEmpty = false := by
      by_contra hempty
      exact hnone (by simpa [scanFraction] using hempty)
    have hfraction : scanFraction ('.' :: rest) = '.' :: rest.takeWhile Char.isDigit := by
      simp [scanFraction, hdigits]
    rw [hfraction]
    refine ⟨rest.dropWhile Char.isDigit, by simp, .inr ⟨_, by simpa using hdigits, ?_, rfl⟩,
      halts_dropWhile _ _, nofun⟩
    exact fun c hc => List.mem_takeWhile_imp hc

theorem scanFraction_append {fraction : List Char} (h : IsFraction fraction)
    (hhalts : Halts Char.isDigit tail) (htail : fraction = [] → OmitsFraction tail) :
    scanFraction (fraction ++ tail) = fraction := by
  obtain rfl | ⟨digits, hne, hdigits, rfl⟩ := h
  · cases tail with
    | nil => rfl
    | cons c rest =>
      by_cases hpoint : c = '.'
      · subst hpoint
        have hrest : ([] ++ rest).takeWhile Char.isDigit = [] :=
          takeWhile_append_of_stop (by simp) (htail rfl rest rfl)
        rw [List.nil_append] at hrest
        simp [scanFraction, hrest]
      · simp [scanFraction, hpoint]
  · have hrest := takeWhile_append_of_stop hdigits hhalts
    simp [scanFraction, hrest, hne]

/-- The piece that a number at the start of a text takes up. -/
def numberPiece (text : List Char) : List Char :=
  text.takeWhile Char.isDigit ++ scanFraction (text.dropWhile Char.isDigit)

theorem scanNumber_eq (text : List Char) :
    scanNumber text = (numberToken (numberPiece text), numberPiece text) := by
  have heq : scanNumber text = match readInt64? (numberPiece text) with
    | some value => (.integer value, numberPiece text)
    | none => (.decimal (String.ofList (numberPiece text)), numberPiece text) := rfl
  rw [heq, numberToken]
  cases readInt64? (numberPiece text) <;> rfl

theorem exists_takesNumber {c : Char} {rest : List Char} (hc : c.isDigit = true) :
    ∃ digits fraction tail, c :: rest = numberPiece (c :: rest) ++ tail ∧
      numberPiece (c :: rest) = digits ++ fraction ∧ TakesNumber digits fraction tail := by
  obtain ⟨tail, htail, hfraction, hhalts, hnone⟩ :=
    exists_of_scanFraction ((c :: rest).dropWhile Char.isDigit) (halts_dropWhile _ _)
  refine ⟨_, _, tail, ?_, rfl, ?_, fun c hc => List.mem_takeWhile_imp hc, hfraction, hhalts,
    hnone⟩
  · rw [numberPiece, List.append_assoc, ← htail, List.takeWhile_append_dropWhile]
  · simp [hc]

theorem TakesNumber.numberPiece_append {digits fraction : List Char}
    (h : TakesNumber digits fraction tail) :
    numberPiece (digits ++ fraction ++ tail) = digits ++ fraction := by
  have hstop : Halts Char.isDigit (fraction ++ tail) := by
    obtain rfl | ⟨more, -, -, rfl⟩ := h.isFraction
    · exact h.halts
    · exact halts_cons.mpr rfl
  rw [numberPiece, List.append_assoc, takeWhile_append_of_stop h.isDigit_of_mem hstop,
    dropWhile_append_of_stop h.isDigit_of_mem hstop,
    scanFraction_append h.isFraction h.halts h.omitsFraction]

/-! ## Tokens -/

/-- Whether a word may begin with a character. -/
def beginsWord (c : Char) : Bool :=
  c = '_' || Text.startsIdentifier c

/-- A token is read from a piece of text, with some text behind. -/
inductive Reads : Token → List Char → List Char → Prop
  | sign {token : Token} {piece tail : List Char} (h : scanSigns piece = some (token, piece))
      (htail : piece ∈ extensibleSigns → Halts (· == '=') tail) : Reads token piece tail
  | string {quote : Char} {content body tail : List Char} (hquote : quote = '\'' ∨ quote = '"')
      (h : Quoted quote content body) :
      Reads (.string (String.ofList content)) (quote :: body) tail
  | number {digits fraction tail : List Char} (h : TakesNumber digits fraction tail) :
      Reads (numberToken (digits ++ fraction)) (digits ++ fraction) tail
  | word {c : Char} {rest tail : List Char} (hc : beginsWord c = true)
      (hrest : ∀ c ∈ rest, Text.continuesIdentifier c = true)
      (htail : Halts Text.continuesIdentifier tail) :
      Reads (.identifier (String.ofList (c :: rest))) (c :: rest) tail

/-- A sign that nothing makes longer is read whatever follows. -/
theorem Reads.plainSign (h : scanSigns piece = some (token, piece))
    (hplain : piece ∉ extensibleSigns) : Reads token piece tail :=
  .sign h fun hmem => absurd hmem hplain

section

variable (tail : List Char)

theorem reads_dot : Reads .dot ['.'] tail :=
  .plainSign rfl (by decide)

theorem reads_comma : Reads .comma [','] tail :=
  .plainSign rfl (by decide)

theorem reads_leftParen : Reads .leftParen ['('] tail :=
  .plainSign rfl (by decide)

theorem reads_rightParen : Reads .rightParen [')'] tail :=
  .plainSign rfl (by decide)

theorem reads_leftBracket : Reads .leftBracket ['['] tail :=
  .plainSign rfl (by decide)

theorem reads_rightBracket : Reads .rightBracket [']'] tail :=
  .plainSign rfl (by decide)

theorem reads_minus : Reads (.operator .subtract) ['-'] tail :=
  .plainSign rfl (by decide)

end

/-- The characters that begin neither a number nor a word. -/
def marks : List Char :=
  signChars ++ ['\'', '"'] ++ blanks

/-- The ranges of ASCII characters that are in no word. -/
def gaps : List (Nat × Nat) :=
  [(0, 47), (58, 64), (91, 94), (96, 96), (123, 126)]

theorem not_ofWord_of_mem {c : Char} (h : c ∈ marks) :
    beginsWord c = false ∧ Text.continuesIdentifier c = false := by
  have hmarks : ∀ c ∈ marks, c ≠ '_' ∧ ∃ gap ∈ gaps, gap.1 ≤ c.toNat ∧ c.toNat ≤ gap.2 :=
    forall_mem_of_all (by decide)
  have hgaps : ∀ s ∈ [Text.identifierStartSet, Text.identifierContinueSet], ∀ gap ∈ gaps,
      Text.CharSet.countUpTo s.flips.toList gap.1 = Text.CharSet.countUpTo s.flips.toList gap.2 ∧
        Text.CharSet.countUpTo s.flips.toList gap.1 % 2 = 0 := by
    decide +kernel
  obtain ⟨hunderscore, gap, hgap, hlow, hhigh⟩ := hmarks c h
  have hstart : Text.startsIdentifier c = false :=
    Text.CharSet.contains_eq_false (hgaps _ List.mem_cons_self gap hgap) hlow hhigh
  refine ⟨by simp [beginsWord, hstart, hunderscore], ?_⟩
  exact Text.CharSet.contains_eq_false (hgaps _ (.tail _ List.mem_cons_self) gap hgap) hlow hhigh

theorem not_beginsWord_of_mem {c : Char} (h : c ∈ marks) : beginsWord c = false :=
  (not_ofWord_of_mem h).1

theorem not_continuesIdentifier_of_mem {c : Char} (h : c ∈ marks) :
    Text.continuesIdentifier c = false :=
  (not_ofWord_of_mem h).2

theorem omitsBlanks_continuesIdentifier : OmitsBlanks Text.continuesIdentifier :=
  fun _ hc => not_continuesIdentifier_of_mem (List.mem_append_right _ (isSpace_iff.mp hc))

theorem not_isDigit_of_mem {c : Char} (h : c ∈ marks) : c.isDigit = false := by
  have hmarks : ∀ c ∈ marks, c.isDigit = false := forall_mem_of_all (by decide)
  exact hmarks c h

theorem not_beginsWord_of_isDigit {c : Char} (h : c.isDigit = true) : beginsWord c = false := by
  obtain ⟨hlow, hhigh⟩ := Char.isDigit_iff_toNat.mp h
  have hstart : Text.startsIdentifier c = false :=
    Text.CharSet.contains_eq_false (by decide +kernel) hlow hhigh
  have hunderscore : c ≠ '_' := by
    rintro rfl
    cases h
  simp [beginsWord, hstart, hunderscore]

/-- A token is read from the start of a text exactly as the relation says. -/
theorem scan_eq_ok_iff {c : Char} {rest : List Char} :
    scan c rest = .ok (token, piece) ↔ ∃ tail, c :: rest = piece ++ tail ∧ Reads token piece tail := by
  constructor
  · intro h
    unfold scan at h
    cases hsign : scanSigns (c :: rest) with
    | some found =>
      rw [hsign] at h
      cases h
      obtain ⟨tail, htext, halone, htail⟩ := exists_of_scanSigns hsign
      exact ⟨tail, htext, .sign halone htail⟩
    | none =>
      simp only [hsign] at h
      split at h
      · rename_i hquote
        obtain ⟨⟨content, body⟩, hbody, h⟩ := Except.bind_eq_ok_iff.mp h
        cases h
        obtain ⟨hquoted, tail, rfl⟩ := exists_of_scanString hbody
        exact ⟨tail, rfl, .string hquote hquoted⟩
      · split at h
        · rename_i hdigit
          rw [scanNumber_eq] at h
          cases h
          obtain ⟨digits, fraction, tail, htext, hpiece, htakes⟩ := exists_takesNumber hdigit
          refine ⟨tail, htext, ?_⟩
          rw [hpiece]
          exact .number htakes
        · split at h
          · rename_i hword
            cases h
            refine ⟨rest.dropWhile Text.continuesIdentifier, by simp, ?_⟩
            exact .word (by simpa [beginsWord] using hword)
              (fun c hc => List.mem_takeWhile_imp hc) (halts_dropWhile _ _)
          · cases h
  · rintro ⟨tail, htext, hreads⟩
    cases hreads with
    | sign hsign htail =>
      rw [scan, htext, scanSigns_append hsign htail]
    | @string quote content body _ hquote hquoted =>
      rw [List.cons_append, List.cons.injEq] at htext
      obtain ⟨rfl, rfl⟩ := htext
      have hmark : c ∉ signChars ∧ c ≠ '\\' := by
        rcases hquote with rfl | rfl <;> decide
      rw [scan, scanSigns_eq_none hmark.1]
      simp only [hquote, if_true, hquoted.scanString_append hmark.2]
      rfl
    | @number digits fraction _ htakes =>
      obtain ⟨first, more, rfl⟩ := List.exists_cons_of_ne_nil htakes.digits_ne_nil
      have hpiece := htakes.numberPiece_append
      have hdigit := htakes.isDigit_of_mem first List.mem_cons_self
      rw [← htext] at hpiece
      rw [List.cons_append, List.cons_append, List.cons.injEq] at htext
      obtain ⟨rfl, -⟩ := htext
      have hmark : c ∉ marks := fun hmem => by simp [not_isDigit_of_mem hmem] at hdigit
      simp only [marks, List.mem_append, not_or, List.mem_cons, List.not_mem_nil, or_false] at hmark
      rw [scan, scanSigns_eq_none hmark.1.1]
      simp only [hmark.1.2, or_self, hdigit, if_true, if_false, scanNumber_eq, hpiece]
    | @word first more _ hfirst hmore htail =>
      rw [List.cons_append, List.cons.injEq] at htext
      obtain ⟨rfl, rfl⟩ := htext
      have hmark : c ∉ marks := fun hmem => by simp [not_beginsWord_of_mem hmem] at hfirst
      have hdigit : ¬c.isDigit = true := fun h => by
        simp [not_beginsWord_of_isDigit h] at hfirst
      simp only [marks, List.mem_append, not_or, List.mem_cons, List.not_mem_nil, or_false] at hmark
      have hword : c = '_' ∨ Text.startsIdentifier c = true := by simpa [beginsWord] using hfirst
      rw [scan, scanSigns_eq_none hmark.1.1]
      simp only [hmark.1.2, or_self, hdigit, Bool.false_eq_true, if_false, hword, if_true,
        takeWhile_append_of_stop hmore htail]

theorem Reads.exists_cons (h : Reads token piece tail) :
    ∃ c rest, piece = c :: rest ∧ isSpace c = false := by
  cases h with
  | sign hsign =>
    cases piece with
    | nil => cases hsign
    | cons c rest =>
      have hsigns : ∀ c ∈ signChars, isSpace c = false := forall_mem_of_all (by decide)
      exact ⟨c, rest, rfl, hsigns c (mem_signChars hsign)⟩
  | string hquote =>
    refine ⟨_, _, rfl, ?_⟩
    rcases hquote with rfl | rfl <;> decide
  | number htakes =>
    obtain ⟨c, rest, rfl⟩ := List.exists_cons_of_ne_nil htakes.digits_ne_nil
    refine ⟨c, _, rfl, ?_⟩
    by_contra hspace
    have hdigit := htakes.isDigit_of_mem c List.mem_cons_self
    rw [omitsBlanks_isDigit c (by simpa using hspace)] at hdigit
    cases hdigit
  | @word c rest _ hc =>
    refine ⟨c, rest, rfl, ?_⟩
    by_contra hspace
    have hmark : c ∈ marks :=
      List.mem_append_right _ (isSpace_iff.mp (by simpa using hspace))
    rw [not_beginsWord_of_mem hmark] at hc
    cases hc

/-- A token is still read when the text behind is replaced by one that breaks off sooner. -/
theorem Reads.of_breaks {before after rest : List Char} (h : Reads token piece (before ++ after))
    (hrest : Breaks rest) : Reads token piece (before ++ rest) := by
  cases h with
  | sign hsign htail =>
    exact .sign hsign fun hmem => (htail hmem).of_breaks omitsBlanks_equalSign hrest
  | string hquote hquoted => exact .string hquote hquoted
  | number htakes =>
    exact .number { htakes with
      halts := htakes.halts.of_breaks omitsBlanks_isDigit hrest
      omitsFraction := fun hnone => (htakes.omitsFraction hnone).of_breaks hrest }
  | word hc hmore htail =>
    exact .word hc hmore (htail.of_breaks omitsBlanks_continuesIdentifier hrest)

/-! ## Words -/

/-- Whether a text is a word. -/
def isWord : List Char → Bool
  | [] => false
  | c :: rest => beginsWord c && rest.all Text.continuesIdentifier

theorem exists_of_isWord {text : List Char} (h : isWord text = true) :
    ∃ c rest, text = c :: rest ∧ beginsWord c = true ∧
      ∀ c ∈ rest, Text.continuesIdentifier c = true := by
  cases text with
  | nil => cases h
  | cons c rest =>
    obtain ⟨hc, hrest⟩ := Bool.and_eq_true_iff.mp h
    exact ⟨c, rest, rfl, hc, List.all_eq_true.mp hrest⟩

theorem reads_word {name : String} (h : isWord name.toList = true)
    (htail : Halts Text.continuesIdentifier tail) :
    Reads (.identifier name) name.toList tail := by
  obtain ⟨c, rest, htext, hc, hrest⟩ := exists_of_isWord h
  have hreads := Reads.word hc hrest htail
  rwa [← htext, String.ofList_toList] at hreads

/-- A lower letter of the ASCII range or an underscore. -/
def IsLetter (c : Char) : Prop :=
  c = '_' ∨ 'a'.toNat ≤ c.toNat ∧ c.toNat ≤ 'z'.toNat

instance (c : Char) : Decidable (IsLetter c) :=
  inferInstanceAs (Decidable (_ ∨ _))

theorem IsLetter.isWord_chars {c : Char} (h : IsLetter c) :
    beginsWord c = true ∧ Text.continuesIdentifier c = true := by
  obtain rfl | ⟨hlow, hhigh⟩ := h
  · have hcontinues : Text.continuesIdentifier '_' = true := by
      simp only [Text.continuesIdentifier, Text.CharSet.contains_eq_countUpTo]
      decide +kernel
    exact ⟨rfl, hcontinues⟩
  · -- no membership changes between the first letter and the last one
    have hstart : Text.CharSet.countUpTo Text.identifierStartSet.flips.toList 'a'.toNat = 3 ∧
        Text.CharSet.countUpTo Text.identifierStartSet.flips.toList 'z'.toNat = 3 := by
      decide +kernel
    have hcontinue : Text.CharSet.countUpTo Text.identifierContinueSet.flips.toList 'a'.toNat = 7 ∧
        Text.CharSet.countUpTo Text.identifierContinueSet.flips.toList 'z'.toNat = 7 := by
      decide +kernel
    rw [beginsWord, Text.startsIdentifier, Text.continuesIdentifier,
      Text.CharSet.contains_eq (hstart.1.trans hstart.2.symm) hlow hhigh, hstart.1,
      Text.CharSet.contains_eq (hcontinue.1.trans hcontinue.2.symm) hlow hhigh, hcontinue.1]
    exact ⟨Bool.or_true _, rfl⟩

theorem isWord_of_letters {text : List Char}
    (h : text ≠ [] ∧ text.all (IsLetter ·) = true) : isWord text = true := by
  obtain ⟨hne, hall⟩ := h
  have h := forall_mem_of_all hall
  obtain ⟨c, rest, rfl⟩ := List.exists_cons_of_ne_nil hne
  refine Bool.and_eq_true_iff.mpr ⟨(h c List.mem_cons_self).isWord_chars.1, ?_⟩
  exact List.all_eq_true.mpr fun c hc => (h c (.tail _ hc)).isWord_chars.2

/-! ## Texts -/

/-- A text, from a byte offset on, consists of lexemes and of blanks between them. -/
inductive Lexed : Nat → List Char → List Lexeme → Prop
  | nil (position : Nat) : Lexed position [] []
  | blank {position : Nat} {c : Char} {text : List Char} {lexemes : List Lexeme}
      (hc : isSpace c = true) (h : Lexed (position + 1) text lexemes) :
      Lexed position (c :: text) lexemes
  | token {position : Nat} {token : Token} {piece tail : List Char} {lexemes : List Lexeme}
      (htoken : Reads token piece tail)
      (h : Lexed (position + Text.byteLength piece) tail lexemes) :
      Lexed position (piece ++ tail) (⟨token, piece, position⟩ :: lexemes)

theorem tokensFrom_append (h : Reads token piece tail) (position : Nat) :
    tokensFrom position (piece ++ tail) =
      (tokensFrom (position + Text.byteLength piece) tail).map (⟨token, piece, position⟩ :: ·) := by
  obtain ⟨c, rest, rfl, hspace⟩ := h.exists_cons
  have hscan : scan c (rest ++ tail) = .ok (token, c :: rest) := scan_eq_ok_iff.mpr ⟨tail, rfl, h⟩
  rw [List.cons_append, tokensFrom, hscan]
  simp only [hspace, Bool.false_eq_true, if_false, List.length_cons, Nat.add_sub_cancel,
    List.drop_left]
  cases tokensFrom (position + Text.byteLength (c :: rest)) tail <;> rfl

theorem lexed_of_tokensFrom {position : Nat} {text : List Char} {lexemes : List Lexeme}
    (h : tokensFrom position text = .ok lexemes) : Lexed position text lexemes := by
  induction position, text using tokensFrom.induct generalizing lexemes with
  | case1 position =>
    rw [tokensFrom] at h
    cases h
    exact .nil position
  | case2 position c rest hspace ih =>
    rw [tokensFrom, if_pos hspace] at h
    exact .blank hspace (ih h)
  | case3 position c rest hspace fault hscan =>
    simp [tokensFrom, hspace, hscan] at h
  | case4 position c rest hspace token piece hscan fault hfault =>
    simp [tokensFrom, hspace, hscan, hfault] at h
  | case5 position c rest hspace token piece hscan more hmore ih =>
    obtain ⟨tail, htext, hreads⟩ := scan_eq_ok_iff.mp hscan
    obtain ⟨first, others, rfl, -⟩ := hreads.exists_cons
    rw [List.cons_append, List.cons.injEq] at htext
    obtain ⟨rfl, rfl⟩ := htext
    simp only [List.length_cons, Nat.add_sub_cancel, List.drop_left] at hmore ih
    rw [← List.cons_append, tokensFrom_append hreads, hmore] at h
    cases h
    exact .token hreads (ih hmore)

/-- The tokens of a text are those that it consists of. -/
theorem tokensFrom_eq_ok_iff {position : Nat} {text : List Char} {lexemes : List Lexeme} :
    tokensFrom position text = .ok lexemes ↔ Lexed position text lexemes := by
  refine ⟨lexed_of_tokensFrom, fun h => ?_⟩
  induction h with
  | nil position => rw [tokensFrom]
  | blank hc _ ih => rw [tokensFrom, if_pos hc, ih]
  | token htoken _ ih => rw [tokensFrom_append htoken, ih]; rfl

end DocumentMapping.Expression
