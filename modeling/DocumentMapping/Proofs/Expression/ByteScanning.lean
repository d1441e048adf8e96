import DocumentMapping.Expression.Scanner
import DocumentMapping.Proofs.Expression.Coverage
import DocumentMapping.Proofs.Number.Digits

/-!
# Scanning bytes gives the tokens

The scanner of bytes always stands where a character begins: a byte of the ASCII range is a
character by itself, and the other bytes are none of those that it looks for. So it cuts every piece
between characters, passes at least one byte in every round, and gives the tokens of the text or the
same fault.
-/

namespace DocumentMapping.Expression

/-! ## The bytes of a text -/

theorem byteChars_append (first second : List Char) :
    byteChars (first ++ second) = byteChars first ++ byteChars second := by
  simp [byteChars]

@[simp] theorem byteChars_nil : byteChars [] = [] := rfl

@[simp] theorem length_byteChars (text : List Char) :
    (byteChars text).length = Text.byteLength text := by
  induction text with
  | nil => rfl
  | cons c rest ih =>
    rw [← List.singleton_append, byteChars_append, List.length_append, ih, Text.byteLength_append]
    simp [byteChars, String.length_utf8EncodeChar]

/-- What stands at a byte offset is what the text goes on with. -/
theorem drop_byteChars (before rest : List Char) :
    (byteChars (before ++ rest)).drop (Text.byteLength before) = byteChars rest := by
  rw [byteChars_append, ← length_byteChars, List.drop_left]

theorem getElem?_byteChars (before rest : List Char) (ahead : Nat) :
    (byteChars (before ++ rest))[Text.byteLength before + ahead]? = (byteChars rest)[ahead]? := by
  rw [← drop_byteChars before rest, List.getElem?_drop]

/-- Characters outside of the ASCII range. -/
def Wide (text : List Char) : Prop :=
  ∀ c ∈ text, 128 ≤ c.toNat

theorem utf8Size_of_ascii {c : Char} (h : c.toNat < 128) : c.utf8Size = 1 :=
  Char.utf8Size_eq_one_iff.mpr (UInt32.le_iff_toNat_le.mpr (Nat.le_of_lt_succ h))

theorem byteChars_of_ascii {c : Char} (h : c.toNat < 128) (rest : List Char) :
    byteChars (c :: rest) = c :: byteChars rest := by
  have hencode := String.utf8EncodeChar_eq_singleton (utf8Size_of_ascii h)
  have hbyte : Char.ofNat c.toUInt8.toNat = c := by
    have hsame : c.toUInt8.toNat = c.toNat % 2 ^ 8 := UInt32.toNat_toUInt8 c.val
    rw [hsame, Nat.mod_eq_of_lt (Nat.lt_trans h (by decide)), Char.ofNat_toNat]
  simp [byteChars, hencode, hbyte]

theorem le_toNat_of_mem_utf8EncodeChar {c : Char} (h : 128 ≤ c.toNat) :
    ∀ byte ∈ String.utf8EncodeChar c, 128 ≤ byte.toNat := by
  have hgt : ¬c.val.toNat ≤ 127 := Nat.not_le.mpr h
  simp only [String.utf8EncodeChar, hgt, if_false]
  split
  · simp
    omega
  · split
    · simp
      omega
    · simp
      omega

theorem toNat_ofNat_toNat (byte : UInt8) : (Char.ofNat byte.toNat).toNat = byte.toNat := by
  have hlt := byte.toNat_lt
  rw [Char.ofNat, dif_pos (.inl (by omega))]
  rfl

theorem byteChars_of_wide {c : Char} (h : 128 ≤ c.toNat) (rest : List Char) :
    ∃ first more, byteChars (c :: rest) = first :: (more ++ byteChars rest) ∧
      Wide (first :: more) := by
  have hne : (String.utf8EncodeChar c).map (fun byte => Char.ofNat byte.toNat) ≠ [] := by
    simp
  obtain ⟨first, more, heq⟩ := List.exists_cons_of_ne_nil hne
  refine ⟨first, more, by simp [byteChars, ← List.cons_append, ← heq], ?_⟩
  rw [← heq]
  intro other hmem
  obtain ⟨byte, hbyte, rfl⟩ := List.mem_map.mp hmem
  rw [toNat_ofNat_toNat]
  exact le_toNat_of_mem_utf8EncodeChar h byte hbyte

/-- A kind of characters in the ASCII range. -/
def OfAscii (p : Char → Bool) : Prop :=
  ∀ c, p c = true → c.toNat < 128

theorem ofAscii_isDigit : OfAscii Char.isDigit := fun c h => by
  have hle := (Char.isDigit_iff_toNat.mp h).2
  have hnine : '9'.toNat = 57 := rfl
  omega

theorem ofAscii_isSpace : OfAscii isSpace := by
  have hblanks : ∀ c ∈ blanks, c.toNat < 128 := forall_mem_of_all (by decide)
  exact fun c h => hblanks c (isSpace_iff.mp h)

theorem ofAscii_eq {mark : Char} (h : mark.toNat < 128) : OfAscii (· == mark) := fun c hc => by
  rwa [beq_iff_eq.mp hc]

section

variable {p : Char → Bool}

theorem OfAscii.eq_false (hp : OfAscii p) {c : Char} (h : 128 ≤ c.toNat) : p c = false := by
  by_contra hne
  have hlt := hp c (by simpa using hne)
  omega

/-- A run of ASCII characters is a run of as many bytes. -/
theorem OfAscii.takeWhile_byteChars (hp : OfAscii p) (text : List Char) :
    (byteChars text).takeWhile p = text.takeWhile p := by
  induction text with
  | nil => rfl
  | cons c rest ih =>
    obtain hascii | hwide := Nat.lt_or_ge c.toNat 128
    · rw [byteChars_of_ascii hascii, List.takeWhile_cons, List.takeWhile_cons, ih]
    · obtain ⟨first, more, heq, hall⟩ := byteChars_of_wide hwide rest
      have hfirst := hp.eq_false (hall first List.mem_cons_self)
      simp [heq, hfirst, hp.eq_false hwide]

theorem OfAscii.head?_byteChars (hp : OfAscii p) (text : List Char) :
    (byteChars text).head?.any p = text.head?.any p := by
  cases text with
  | nil => rfl
  | cons c rest =>
    obtain hascii | hwide := Nat.lt_or_ge c.toNat 128
    · rw [byteChars_of_ascii hascii]
      rfl
    · obtain ⟨first, more, heq, hall⟩ := byteChars_of_wide hwide rest
      have hfirst := hp.eq_false (hall first List.mem_cons_self)
      simp [heq, hfirst, hp.eq_false hwide]

theorem OfAscii.byteLength_takeWhile (hp : OfAscii p) (text : List Char) :
    (text.takeWhile p).length = Text.byteLength (text.takeWhile p) := by
  rw [← length_byteChars]
  induction text with
  | nil => rfl
  | cons c rest ih =>
    by_cases hc : p c = true
    · rw [List.takeWhile_cons_of_pos hc, byteChars_of_ascii (hp c hc), List.length_cons, ih,
        List.length_cons]
    · rw [List.takeWhile_cons_of_neg hc]
      rfl

theorem OfAscii.pastRun_eq (hp : OfAscii p) {text before rest : List Char}
    (h : text = before ++ rest) :
    pastRun p text (Text.byteLength before) = Text.byteLength (before ++ rest.takeWhile p) := by
  rw [h, pastRun, drop_byteChars, hp.takeWhile_byteChars, hp.byteLength_takeWhile,
    Text.byteLength_append]

end

/-! ## Cutting texts -/

section

variable {c : Char} {rest : List Char}

theorem charsFrom_cons (offset : Nat) :
    charsFrom (c :: rest) (c.utf8Size + offset) = charsFrom rest offset := by
  have hpos := c.utf8Size_pos
  obtain ⟨less, hless⟩ : ∃ less, c.utf8Size + offset = less + 1 :=
    ⟨c.utf8Size + offset - 1, by omega⟩
  rw [hless, charsFrom, if_pos (by omega), ← hless, Nat.add_sub_cancel_left]

theorem charsUpTo_cons (length : Nat) :
    charsUpTo (c :: rest) (c.utf8Size + length) = (charsUpTo rest length).map (c :: ·) := by
  have hpos := c.utf8Size_pos
  obtain ⟨less, hless⟩ : ∃ less, c.utf8Size + length = less + 1 :=
    ⟨c.utf8Size + length - 1, by omega⟩
  rw [hless, charsUpTo, if_pos (by omega), ← hless, Nat.add_sub_cancel_left]

end

theorem charsFrom_append (before rest : List Char) :
    charsFrom (before ++ rest) (Text.byteLength before) = .ok rest := by
  induction before with
  | nil => cases rest <;> rfl
  | cons c before ih => rw [List.cons_append, Text.byteLength_cons, charsFrom_cons, ih]

theorem charsUpTo_append (piece rest : List Char) :
    charsUpTo (piece ++ rest) (Text.byteLength piece) = .ok piece := by
  induction piece with
  | nil => cases rest <;> rfl
  | cons c piece ih =>
    rw [List.cons_append, Text.byteLength_cons, charsUpTo_cons, ih]
    rfl

theorem slice_eq {text before piece rest : List Char} (h : text = before ++ (piece ++ rest)) :
    slice text (Text.byteLength before) (Text.byteLength (before ++ piece)) = .ok piece := by
  subst h
  have hge : ¬Text.byteLength before + Text.byteLength piece < Text.byteLength before := by omega
  rw [slice, Text.byteLength_append, if_neg hge, charsFrom_append, Nat.add_sub_cancel_left]
  exact charsUpTo_append piece rest

/-! ## Signs -/

/-- All signs. -/
def signs : List (List Char) :=
  [['.'], [','], ['('], [')'], ['['], [']'], ['+'], ['-'], ['*'], ['/'], ['%'], ['=', '='],
    ['!', '='], ['!'], ['<', '='], ['<'], ['>', '='], ['>'], ['&', '&'], ['|', '|'], ['?', '?']]

section

variable {token : Token} {piece : List Char}

theorem mem_signs (h : scanSigns piece = some (token, piece)) : piece ∈ signs := by
  fun_cases scanSigns piece
  all_goals simp only [scanSigns, Option.some.injEq, Prod.mk.injEq, reduceCtorEq] at h
  all_goals obtain ⟨-, hpiece⟩ := h
  all_goals rw [← hpiece]; decide

theorem byteChars_append_of_ascii (h : ∀ c ∈ piece, c.toNat < 128) (rest : List Char) :
    byteChars (piece ++ rest) = piece ++ byteChars rest := by
  induction piece with
  | nil => rfl
  | cons c piece ih =>
    rw [List.cons_append, byteChars_of_ascii (h c List.mem_cons_self),
      ih fun c hc => h c (.tail _ hc), List.cons_append]

/-- Bytes of the ASCII range stand for characters. -/
theorem exists_of_byteChars_eq (h : ∀ c ∈ piece, c.toNat < 128) {text bytes : List Char}
    (htext : byteChars text = piece ++ bytes) :
    ∃ tail, text = piece ++ tail ∧ bytes = byteChars tail := by
  induction piece generalizing text with
  | nil => exact ⟨text, rfl, htext.symm⟩
  | cons c piece ih =>
    cases text with
    | nil => cases htext
    | cons first rest =>
      obtain hascii | hwide := Nat.lt_or_ge first.toNat 128
      · rw [byteChars_of_ascii hascii, List.cons_append, List.cons.injEq] at htext
        obtain ⟨rfl, htext⟩ := htext
        obtain ⟨tail, rfl, hbytes⟩ := ih (fun c hc => h c (.tail _ hc)) htext
        exact ⟨tail, rfl, hbytes⟩
      · obtain ⟨byte, more, heq, hall⟩ := byteChars_of_wide hwide rest
        rw [heq, List.cons_append, List.cons.injEq] at htext
        obtain ⟨rfl, -⟩ := htext
        have hlt := h byte List.mem_cons_self
        have hle := hall byte List.mem_cons_self
        omega

theorem scanSigns_eq_some_iff {text : List Char} :
    scanSigns text = some (token, piece) ↔ ∃ tail, text = piece ++ tail ∧
      scanSigns piece = some (token, piece) ∧ (piece ∈ extensibleSigns → Halts (· == '=') tail) := by
  refine ⟨exists_of_scanSigns, ?_⟩
  rintro ⟨tail, rfl, halone, htail⟩
  exact scanSigns_append halone htail

theorem OfAscii.halts_byteChars_iff {p : Char → Bool} (hp : OfAscii p) {text : List Char} :
    Halts p (byteChars text) ↔ Halts p text := by
  have hany (chars : List Char) : Halts p chars ↔ chars.head?.any p = false := by
    cases chars <;> simp [Halts]
  rw [hany, hany, hp.head?_byteChars]

theorem scanSigns_byteChars (text : List Char) : scanSigns (byteChars text) = scanSigns text := by
  have hsigns : ∀ sign ∈ signs, sign.all (·.toNat < 128) = true := by decide
  have hascii {piece : List Char} (h : piece ∈ signs) : ∀ c ∈ piece, c.toNat < 128 :=
    forall_mem_of_all (hsigns piece h)
  have hequal : OfAscii (· == '=') := ofAscii_eq (by decide)
  refine Option.ext fun (token, piece) =>
    scanSigns_eq_some_iff.trans (Iff.trans ?_ scanSigns_eq_some_iff.symm)
  constructor
  · rintro ⟨bytes, htext, halone, htail⟩
    obtain ⟨tail, rfl, rfl⟩ := exists_of_byteChars_eq (hascii (mem_signs halone)) htext
    exact ⟨tail, rfl, halone, fun hmem => hequal.halts_byteChars_iff.mp (htail hmem)⟩
  · rintro ⟨tail, rfl, halone, htail⟩
    exact ⟨byteChars tail, byteChars_append_of_ascii (hascii (mem_signs halone)) tail, halone,
      fun hmem => hequal.halts_byteChars_iff.mpr (htail hmem)⟩

/-- What a text goes on with behind a sign is told by two of its characters. -/
theorem scanSigns_take (text : List Char) : scanSigns (text.take 2) = scanSigns text := by
  have hlength : ∀ sign ∈ signs, sign.length ≤ 2 := by decide
  have hextensible : ∀ sign ∈ extensibleSigns, sign.length = 1 := by decide
  refine Option.ext fun (token, piece) =>
    scanSigns_eq_some_iff.trans (Iff.trans ?_ scanSigns_eq_some_iff.symm)
  constructor
  · rintro ⟨tail, htext, halone, htail⟩
    refine ⟨tail ++ text.drop 2, ?_, halone, fun hmem => ?_⟩
    · rw [← List.append_assoc, ← htext, List.take_append_drop]
    · cases tail with
      | nil =>
        have hshort := congrArg List.length htext
        have hdrop : text.drop 2 = [] := by
          rw [List.append_nil, List.length_take, hextensible piece hmem] at hshort
          exact List.drop_eq_nil_of_le (by omega)
        rw [hdrop]
        exact halts_nil _
      | cons c rest => exact htail hmem
  · rintro ⟨tail, rfl, halone, htail⟩
    refine ⟨tail.take (2 - piece.length), ?_, halone, fun hmem => ?_⟩
    · rw [List.take_append, List.take_of_length_le (hlength piece (mem_signs halone))]
    · rw [hextensible piece hmem]
      cases tail with
      | nil => exact halts_nil _
      | cons c rest => exact htail hmem

theorem signAt_eq (before rest : List Char) :
    signAt (before ++ rest) (Text.byteLength before) =
      (scanSigns rest).map fun (token, piece) => (token, Text.byteLength piece) := by
  rw [signAt, drop_byteChars, scanSigns_take, scanSigns_byteChars]
  cases h : scanSigns rest with
  | none => rfl
  | some found =>
    obtain ⟨token, piece⟩ := found
    obtain ⟨-, -, halone, -⟩ := exists_of_scanSigns h
    have hsigns : ∀ sign ∈ signs, sign.length = Text.byteLength sign := by decide
    simp [hsigns piece (mem_signs halone)]

end

/-! ## Numbers -/

/-- A point and a digit are told by their bytes. -/
theorem fraction_at_iff (text : List Char) :
    ((byteChars text)[0]? = some '.' ∧ ((byteChars text)[1]?).any Char.isDigit = true) ↔
      scanFraction text ≠ [] := by
  have hpoint : OfAscii (· == '.') := ofAscii_eq (by decide)
  cases text with
  | nil => decide
  | cons c rest =>
    by_cases hc : c = '.'
    · subst hc
      have hdigit := ofAscii_isDigit.head?_byteChars rest
      rw [List.head?_eq_getElem?] at hdigit
      rw [byteChars_of_ascii (by decide), List.getElem?_cons_zero, List.getElem?_cons_succ, hdigit]
      cases rest with
      | nil => simp [scanFraction]
      | cons d more => cases hd : d.isDigit <;> simp [scanFraction, hd]
    · have hhead := hpoint.head?_byteChars (c :: rest)
      rw [List.head?_eq_getElem?] at hhead
      have hfirst : (byteChars (c :: rest))[0]? ≠ some '.' := by
        intro heq
        rw [heq] at hhead
        exact hc (by simpa using hhead)
      simp [hfirst, scanFraction, hc]

theorem exists_of_scanFraction_ne_nil {text : List Char} (h : scanFraction text ≠ []) :
    ∃ rest, text = '.' :: rest ∧ scanFraction text = '.' :: rest.takeWhile Char.isDigit := by
  unfold scanFraction at h ⊢
  split at h
  · rename_i rest
    split at h
    · exact absurd rfl h
    · rename_i hdigits
      exact ⟨rest, rfl, if_neg hdigits⟩
  · exact absurd rfl h

/-- A piece with a point is no integer. -/
theorem numberToken_of_point {piece : List Char} (h : ∃ c ∈ piece.head?, c.isDigit = true)
    (hpoint : '.' ∈ piece) : numberToken piece = .decimal (String.ofList piece) := by
  rw [numberToken_eq h, if_neg]
  rintro ⟨hdigits, -⟩
  exact absurd ((isDigits_iff.mp hdigits).2 '.' hpoint) (by decide)

/-- A number is read from its bytes. -/
theorem numeralAt_eq (before : List Char) {text : List Char}
    (h : ∃ c ∈ text.head?, c.isDigit = true) :
    numeralAt (before ++ text) (Text.byteLength before) =
      .ok ⟨numberToken (numberPiece text), Text.byteLength before,
        Text.byteLength (before ++ numberPiece text)⟩ := by
  obtain ⟨digits, hdigits⟩ : ∃ digits, text.takeWhile Char.isDigit = digits := ⟨_, rfl⟩
  obtain ⟨behind, hbehind⟩ : ∃ behind, text.dropWhile Char.isDigit = behind := ⟨_, rfl⟩
  have htext : text = digits ++ behind := by
    rw [← hdigits, ← hbehind, List.takeWhile_append_dropWhile]
  have hpoint := ofAscii_isDigit.pastRun_eq (Eq.refl (before ++ text))
  have hat (ahead : Nat) :
      (byteChars (before ++ text))[Text.byteLength (before ++ digits) + ahead]? =
        (byteChars behind)[ahead]? := by
    rw [htext, ← List.append_assoc, getElem?_byteChars]
  have hat₀ := hat 0
  rw [Nat.add_zero] at hat₀
  rw [hdigits] at hpoint
  rw [numeralAt, numberPiece, hdigits, hbehind]
  simp only [hpoint, hat₀, hat 1, fraction_at_iff]
  by_cases hnone : scanFraction behind = []
  · rw [if_neg (by simp [hnone]), hnone, List.append_nil, slice_eq (congrArg _ htext), numberToken]
    cases hread : readInt64? digits <;> simp [Except.map, hread]
  · obtain ⟨more, rfl, hfraction⟩ := exists_of_scanFraction_ne_nil hnone
    have hbefore : Text.byteLength (before ++ digits) + 1 =
        Text.byteLength (before ++ digits ++ ['.']) := by
      simp
      rfl
    have hstop : pastRun Char.isDigit (before ++ text) (Text.byteLength (before ++ digits) + 1) =
        Text.byteLength (before ++ (digits ++ '.' :: more.takeWhile Char.isDigit)) := by
      have hsplit : before ++ text = before ++ digits ++ ['.'] ++ more := by simp [htext]
      rw [hbefore, ofAscii_isDigit.pastRun_eq hsplit]
      simp
    have hsplit : before ++ text = before ++ (digits ++ '.' :: more.takeWhile Char.isDigit ++
        more.dropWhile Char.isDigit) := by
      simp [htext]
    have hhead : ∃ c ∈ (digits ++ '.' :: more.takeWhile Char.isDigit).head?, c.isDigit = true := by
      obtain ⟨c, hc, hdigit⟩ := h
      obtain ⟨rest, rfl⟩ := List.head?_eq_some_iff.mp hc
      rw [← hdigits, List.takeWhile_cons_of_pos hdigit]
      exact ⟨c, rfl, hdigit⟩
    rw [if_pos hnone, hfraction, hstop, slice_eq hsplit, numberToken_of_point hhead (by simp)]
    rfl

/-! ## Strings -/

/-- A byte that stands for a character, or for none that is looked for. -/
theorem getElem?_byteChars_cons (c : Char) (rest : List Char) :
    ∃ byte, (byteChars (c :: rest))[0]? = some byte ∧
      (byte = c ∨ 128 ≤ byte.toNat ∧ 128 ≤ c.toNat) := by
  obtain hascii | hwide := Nat.lt_or_ge c.toNat 128
  · exact ⟨c, by rw [byteChars_of_ascii hascii]; rfl, .inl rfl⟩
  · obtain ⟨first, more, heq, hall⟩ := byteChars_of_wide hwide rest
    exact ⟨first, by rw [heq]; rfl, .inr ⟨hall first List.mem_cons_self, hwide⟩⟩

theorem escaped?_of_wide {c : Char} (h : 128 ≤ c.toNat) : escaped? c = none := by
  unfold escaped?
  split <;> first | rfl | (exfalso; revert h; decide)

theorem toNat_of_escaped? {c value : Char} (h : escaped? c = some value) : c.toNat < 128 := by
  by_contra hge
  rw [escaped?_of_wide (Nat.le_of_not_lt hge)] at h
  cases h

/-- What a scan of bytes gives for the rest of a string: the content read before goes in front, and
offsets count from the start of the text. -/
def stringResult (start position : Nat) (content : List Char) :
    Except ScanFault (List Char × List Char) → Except ScanFailure (List Char × Nat)
  | .ok (more, piece) => .ok (content ++ more, position + Text.byteLength piece)
  | .error fault => .error (.fault ⟨fault.problem, start + fault.ahead⟩)

theorem stringResult_bind (start position : Nat) (content more piece : List Char)
    (scanned : Except ScanFault (List Char × List Char)) :
    stringResult start position content (scanned >>= fun (x, y) => .ok (more ++ x, piece ++ y)) =
      stringResult start (position + Text.byteLength piece) (content ++ more) scanned := by
  cases scanned with
  | error fault => rfl
  | ok found =>
    change Except.ok _ = Except.ok _
    simp [Nat.add_assoc]

/-- The scanner is inside of a string: what stands in front of the string, what it has passed of the
string and the content of that. -/
structure InString (text before : List Char) (quote : Char) (scanned rest : List Char)
    (copied : Option (List Char)) (content : List Char) : Prop where
  text_eq : text = before ++ quote :: scanned ++ rest
  isQuote : quote = '\'' ∨ quote = '"'
  content_eq : copied.getD scanned = content

theorem byteLength_passed (before scanned piece : List Char) (quote : Char) :
    Text.byteLength (before ++ quote :: (scanned ++ piece)) =
      Text.byteLength (before ++ quote :: scanned) + Text.byteLength piece := by
  simp [Nat.add_assoc]

namespace InString

variable {text before scanned rest content : List Char} {quote : Char}
  {copied : Option (List Char)}

theorem quote_ascii (h : InString text before quote scanned rest copied content) :
    quote ≠ '\\' ∧ quote.toNat < 128 := by
  rcases h.isQuote with rfl | rfl <;> decide

theorem getElem?_eq (h : InString text before quote scanned rest copied content) (ahead : Nat) :
    (byteChars text)[Text.byteLength (before ++ quote :: scanned) + ahead]? =
      (byteChars rest)[ahead]? := by
  rw [h.text_eq, getElem?_byteChars]

theorem contentSoFar_eq (h : InString text before quote scanned rest copied content) :
    contentSoFar text (Text.byteLength before) (Text.byteLength (before ++ quote :: scanned)) copied =
      .ok content := by
  rw [← h.content_eq]
  cases copied with
  | some copy => rfl
  | none =>
    have hstart : Text.byteLength before + 1 = Text.byteLength (before ++ [quote]) := by
      simp [utf8Size_of_ascii h.quote_ascii.2]
    have hstop : before ++ quote :: scanned = before ++ [quote] ++ scanned := by simp
    have htext : text = before ++ [quote] ++ (scanned ++ rest) := by simp [h.text_eq]
    rw [contentSoFar, hstart, hstop, slice_eq htext]
    rfl

/-- The text ends inside of the string. -/
theorem stringFrom_nil (h : InString text before quote scanned [] copied content) (rounds : Nat) :
    stringFrom text quote (Text.byteLength before) (rounds + 1)
        (Text.byteLength (before ++ quote :: scanned)) copied =
      .error (.fault ⟨.unterminatedString, Text.byteLength before⟩) := by
  have hat := h.getElem?_eq 0
  rw [Nat.add_zero] at hat
  rw [stringFrom, hat]
  rfl

/-- The string ends. -/
theorem stringFrom_close (h : InString text before quote scanned (quote :: rest) copied content)
    (rounds : Nat) :
    stringFrom text quote (Text.byteLength before) (rounds + 1)
        (Text.byteLength (before ++ quote :: scanned)) copied =
      .ok (content, Text.byteLength (before ++ quote :: scanned) + 1) := by
  have hat := h.getElem?_eq 0
  rw [Nat.add_zero, byteChars_of_ascii h.quote_ascii.2] at hat
  rw [stringFrom, hat]
  simp only [List.getElem?_cons_zero, if_true, h.contentSoFar_eq]
  rfl

/-- An escape is told by the byte behind its mark. -/
theorem stringFrom_escape (h : InString text before quote scanned ('\\' :: rest) copied content)
    (rounds : Nat) :
    stringFrom text quote (Text.byteLength before) (rounds + 1)
        (Text.byteLength (before ++ quote :: scanned)) copied =
      match (byteChars rest)[0]? with
      | none => .error (.fault ⟨.unterminatedString, Text.byteLength before⟩)
      | some next =>
        match escaped? next with
        | none => .error (.fault ⟨.invalidEscape, Text.byteLength (before ++ quote :: scanned)⟩)
        | some value =>
          stringFrom text quote (Text.byteLength before) rounds
            (Text.byteLength (before ++ quote :: scanned) + 2) (some (content ++ [value])) := by
  have hat := h.getElem?_eq 0
  have hnext := h.getElem?_eq 1
  rw [Nat.add_zero, byteChars_of_ascii (by decide)] at hat
  rw [byteChars_of_ascii (by decide), List.getElem?_cons_succ] at hnext
  rw [stringFrom, hat, hnext]
  simp only [List.getElem?_cons_zero, h.quote_ascii.1.symm, if_false, if_true, h.contentSoFar_eq]
  rfl

/-- Any other character is passed as a whole. -/
theorem stringFrom_plain {c : Char}
    (h : InString text before quote scanned (c :: rest) copied content) (hquote : c ≠ quote)
    (hmark : c ≠ '\\') (rounds : Nat) :
    stringFrom text quote (Text.byteLength before) (rounds + 1)
        (Text.byteLength (before ++ quote :: scanned)) copied =
      stringFrom text quote (Text.byteLength before) rounds
        (Text.byteLength (before ++ quote :: (scanned ++ [c]))) (copied.map (· ++ [c])) := by
  obtain ⟨byte, hbyte, hsame⟩ := getElem?_byteChars_cons c rest
  have hother : byte ≠ quote ∧ byte ≠ '\\' := by
    rcases hsame with rfl | ⟨hwide, -⟩
    · exact ⟨hquote, hmark⟩
    · have hslash : '\\'.toNat < 128 := by decide
      have hascii := h.quote_ascii.2
      constructor <;> rintro rfl <;> omega
  have hat := (h.getElem?_eq 0).trans hbyte
  rw [Nat.add_zero] at hat
  have hfrom := charsFrom_append (before ++ quote :: scanned) (c :: rest)
  rw [← h.text_eq] at hfrom
  have hassoc : before ++ quote :: scanned ++ [c] = before ++ quote :: (scanned ++ [c]) := by simp
  have hposition : Text.byteLength (before ++ quote :: scanned) + c.utf8Size =
      Text.byteLength (before ++ quote :: (scanned ++ [c])) := by
    rw [← hassoc, Text.byteLength_append _ [c]]
    rfl
  have hslice : slice text (Text.byteLength (before ++ quote :: scanned))
      (Text.byteLength (before ++ quote :: (scanned ++ [c]))) = .ok [c] := by
    rw [← hassoc]
    exact slice_eq h.text_eq
  rw [stringFrom, hat]
  simp only [hother, if_false, hfrom]
  cases copied with
  | none =>
    rw [← hposition]
    rfl
  | some copy =>
    change (slice text _ (_ + c.utf8Size) >>= fun piece =>
      stringFrom text quote _ rounds (_ + c.utf8Size) (copy ++ piece)) = _
    rw [hposition, hslice]
    rfl

end InString

/-- The rest of a string is read from its bytes. -/
theorem stringFrom_eq {text before scanned rest content : List Char} {quote : Char}
    {copied : Option (List Char)} (ahead rounds : Nat)
    (h : InString text before quote scanned rest copied content)
    (hahead : ahead = Text.byteLength (quote :: scanned))
    (hrounds : Text.byteLength rest ≤ rounds) :
    stringFrom text quote (Text.byteLength before) (rounds + 1)
        (Text.byteLength (before ++ quote :: scanned)) copied =
      stringResult (Text.byteLength before) (Text.byteLength (before ++ quote :: scanned)) content
        (scanString quote ahead rest) := by
  induction ahead, rest using scanString.induct quote
    generalizing scanned copied content rounds with
  | case1 => exact h.stringFrom_nil rounds
  | case2 =>
    rw [h.stringFrom_escape]
    rfl
  | case3 ahead c rest hvalue =>
    obtain ⟨byte, hbyte, hsame⟩ := getElem?_byteChars_cons c rest
    have hnone : escaped? byte = none := by
      rcases hsame with rfl | ⟨hwide, -⟩
      · exact hvalue
      · exact escaped?_of_wide hwide
    rw [h.stringFrom_escape]
    simp only [hbyte, hnone, scanString, hvalue, stringResult, hahead, Text.byteLength_append]
  | case4 ahead c rest value hvalue ih =>
    have hascii := toNat_of_escaped? hvalue
    have hslash : '\\'.utf8Size = 1 := rfl
    have hpair : Text.byteLength ['\\', c] = 2 := by simp [hslash, utf8Size_of_ascii hascii]
    have hbehind : InString text before quote (scanned ++ ['\\', c]) rest
        (some (content ++ [value])) (content ++ [value]) :=
      ⟨by simp [h.text_eq], h.isQuote, rfl⟩
    rw [Text.byteLength_cons, Text.byteLength_cons] at hrounds
    obtain ⟨less, rfl⟩ : ∃ less, rounds = less + 1 := ⟨rounds - 1, by omega⟩
    have hmore := ih less hbehind (by rw [hahead, ← List.cons_append, Text.byteLength_append, hpair])
      (by omega)
    have hscan : scanString quote ahead ('\\' :: c :: rest) =
        scanString quote (ahead + 2) rest >>= fun (more, piece) =>
          .ok ([value] ++ more, ['\\', c] ++ piece) := by
      simp only [scanString, hvalue]
      rfl
    rw [h.stringFrom_escape, hscan, stringResult_bind, hpair]
    rw [byteChars_of_ascii hascii]
    simp only [List.getElem?_cons_zero, hvalue]
    rw [byteLength_passed, hpair] at hmore
    exact hmore
  | case5 ahead rest =>
    rw [h.stringFrom_close]
    simp only [scanString, if_true, stringResult, List.append_nil, Text.byteLength_cons,
      Text.byteLength_nil, utf8Size_of_ascii h.quote_ascii.2]
  | case6 ahead c rest hlast hescape hne ih =>
    have hmark : c ≠ '\\' := by
      rintro rfl
      cases rest with
      | nil => exact hlast rfl rfl
      | cons next more => exact hescape next more rfl rfl
    have hbehind : InString text before quote (scanned ++ [c]) rest (copied.map (· ++ [c]))
        (content ++ [c]) :=
      ⟨by simp [h.text_eq], h.isQuote, by rw [← h.content_eq]; cases copied <;> rfl⟩
    have hpos := c.utf8Size_pos
    have hone : Text.byteLength [c] = c.utf8Size := rfl
    rw [Text.byteLength_cons] at hrounds
    obtain ⟨less, rfl⟩ : ∃ less, rounds = less + 1 := ⟨rounds - 1, by omega⟩
    have hmore := ih less hbehind (by rw [hahead, ← List.cons_append, Text.byteLength_append, hone])
      (by omega)
    have hscan : scanString quote ahead (c :: rest) =
        scanString quote (ahead + c.utf8Size) rest >>= fun (more, piece) =>
          .ok ([c] ++ more, [c] ++ piece) := by
      simp only [scanString, hne, if_false]
      rfl
    rw [h.stringFrom_plain hne hmark, hmore, hscan, stringResult_bind, byteLength_passed]

/-! ## Tokens -/

/-- What a scan of bytes gives for a token that is read behind some text. -/
def spanResult (before : List Char) :
    Except ScanFault (Token × List Char) → Except ScanFailure (Option Span)
  | .ok (token, piece) =>
    .ok (some ⟨token, Text.byteLength before, Text.byteLength (before ++ piece)⟩)
  | .error fault => .error (.fault ⟨fault.problem, Text.byteLength before + fault.ahead⟩)

/-- A word is read from where it begins. -/
theorem wordAt_eq (before : List Char) (c : Char) (rest : List Char) :
    (wordAt (before ++ c :: rest) (Text.byteLength before)).map some =
      spanResult before
        (if c = '_' ∨ Text.startsIdentifier c then
          .ok (.identifier (String.ofList (c :: rest.takeWhile Text.continuesIdentifier)),
            c :: rest.takeWhile Text.continuesIdentifier)
        else .error ⟨.unexpectedCharacter c, 0⟩) := by
  obtain ⟨word, hword⟩ : ∃ word, rest.takeWhile Text.continuesIdentifier = word := ⟨_, rfl⟩
  obtain ⟨behind, hbehind⟩ : ∃ behind, rest.dropWhile Text.continuesIdentifier = behind :=
    ⟨_, rfl⟩
  have htext : rest = word ++ behind := by
    rw [← hword, ← hbehind, List.takeWhile_append_dropWhile]
  have hpiece := slice_eq (Eq.refl (before ++ (c :: word ++ behind)))
  rw [wordAt, charsFrom_append]
  change (if _ then _ else _ : Except ScanFailure Span).map some = _
  rw [hword, hbehind, htext]
  split
  · cases behind with
    | nil =>
      rw [List.append_nil] at hpiece ⊢
      simp only [hpiece]
      rfl
    | cons next more =>
      simp only [← Text.byteLength_append]
      rw [← List.cons_append, hpiece]
      rfl
  · rfl

/-- The token behind some blanks is read from its bytes. -/
theorem nextSpan_eq {rounds : Nat} (before rest : List Char) (h : Text.byteLength rest ≤ rounds) :
    nextSpan rounds (before ++ rest) (Text.byteLength before) =
      match rest.dropWhile isSpace with
      | [] => .ok none
      | c :: more => spanResult (before ++ rest.takeWhile isSpace) (scan c more) := by
  obtain ⟨spaces, hspaces⟩ : ∃ spaces, rest.takeWhile isSpace = spaces := ⟨_, rfl⟩
  obtain ⟨behind, hbehind⟩ : ∃ behind, rest.dropWhile isSpace = behind := ⟨_, rfl⟩
  have htext : rest = spaces ++ behind := by
    rw [← hspaces, ← hbehind, List.takeWhile_append_dropWhile]
  have hstart := ofAscii_isSpace.pastRun_eq (Eq.refl (before ++ rest))
  rw [hspaces] at hstart
  rw [nextSpan, hspaces, hbehind]
  simp only [hstart]
  rw [htext, ← List.append_assoc]
  have hat := getElem?_byteChars (before ++ spaces) behind 0
  rw [Nat.add_zero] at hat
  rw [hat]
  cases behind with
  | nil => rfl
  | cons c more =>
    obtain ⟨byte, hbyte, hsame⟩ := getElem?_byteChars_cons c more
    have hkind {p : Char → Bool} (hp : OfAscii p) : p byte = p c := by
      rcases hsame with rfl | ⟨hbyteWide, hcWide⟩
      · rfl
      · rw [hp.eq_false hbyteWide, hp.eq_false hcWide]
    have hquote : (byte = '\'' ∨ byte = '"') ↔ (c = '\'' ∨ c = '"') := by
      have hsingle : (byte == '\'') = (c == '\'') := hkind (ofAscii_eq (by decide))
      have hdouble : (byte == '"') = (c == '"') := hkind (ofAscii_eq (by decide))
      rw [Bool.eq_iff_iff, beq_iff_eq, beq_iff_eq] at hsingle hdouble
      rw [hsingle, hdouble]
    have hdigit := hkind ofAscii_isDigit
    rw [hbyte]
    simp only [scan, signAt_eq, hdigit, hquote]
    cases hsign : scanSigns (c :: more) with
    | some found =>
      simp only [Option.map_some, spanResult, Text.byteLength_append]
    | none =>
      simp only [Option.map_none]
      split
      · rename_i hmark
        have hascii : c.toNat < 128 := by
          rcases hmark with rfl | rfl <;> decide
        obtain rfl : byte = c := by
          rcases hsame with heq | ⟨-, hwide⟩
          · exact heq
          · omega
        have hone := utf8Size_of_ascii hascii
        rw [htext, Text.byteLength_append, Text.byteLength_cons] at h
        obtain ⟨less, rfl⟩ : ∃ less, rounds = less + 1 := ⟨rounds - 1, by omega⟩
        have hopened : InString (before ++ spaces ++ byte :: more) (before ++ spaces) byte [] more
            none [] := ⟨by simp, hmark, rfl⟩
        have hstring := stringFrom_eq 1 less hopened (by simp [hone]) (by omega)
        have hbehind : Text.byteLength (before ++ spaces) + 1 =
            Text.byteLength (before ++ spaces ++ [byte]) := by
          simp [hone, Nat.add_assoc]
        rw [hbehind, hstring]
        cases hscan : scanString byte 1 more with
        | error fault => rfl
        | ok found =>
          change Except.ok _ = Except.ok _
          simp [hone, Nat.add_assoc]
      · split
        · rename_i hc
          rw [numeralAt_eq _ ⟨c, rfl, hc⟩, scanNumber_eq]
          rfl
        · exact wordAt_eq (before ++ spaces) c more

/-! ## Texts -/

/-- The byte offsets between which a lexeme stands. -/
def Lexeme.span (lexeme : Lexeme) : Span :=
  ⟨lexeme.token, lexeme.position, lexeme.stop⟩

/-- What a scan of bytes gives for a text with some tokens, or with a fault. -/
def spansResult : Except CompileFault (List Lexeme) → Except ScanFailure (List Span)
  | .ok lexemes => .ok (lexemes.map Lexeme.span)
  | .error fault => .error (.fault fault)

theorem tokensFrom_skip (position : Nat) (text : List Char) :
    tokensFrom position text =
      tokensFrom (position + Text.byteLength (text.takeWhile isSpace)) (text.dropWhile isSpace) := by
  induction text generalizing position with
  | nil => rfl
  | cons c rest ih =>
    by_cases hc : isSpace c = true
    · rw [tokensFrom, if_pos hc, ih, List.takeWhile_cons_of_pos hc, List.dropWhile_cons_of_pos hc,
        Text.byteLength_cons, utf8Size_of_isSpace hc, Nat.add_assoc]
    · rw [List.takeWhile_cons_of_neg hc, List.dropWhile_cons_of_neg hc]
      rfl

/-- Every round of the scanner reads a token and what stands in front of it. -/
theorem spansFrom_eq {inner : Nat} (before rest : List Char) (rounds : Nat)
    (hinner : Text.byteLength rest ≤ inner) (hrounds : Text.byteLength rest < rounds) :
    spansFrom inner (before ++ rest) rounds (Text.byteLength before) =
      spansResult (tokensFrom (Text.byteLength before) rest) := by
  induction rounds generalizing before rest with
  | zero => omega
  | succ rounds ih =>
    rw [spansFrom, nextSpan_eq before rest hinner, tokensFrom_skip]
    have htext := List.takeWhile_append_dropWhile (p := isSpace) (l := rest)
    obtain ⟨spaces, hspaces⟩ : ∃ spaces, rest.takeWhile isSpace = spaces := ⟨_, rfl⟩
    have hbehind := halts_dropWhile isSpace rest
    rw [← Text.byteLength_append, hspaces]
    cases hdrop : rest.dropWhile isSpace with
    | nil =>
      rw [tokensFrom]
      rfl
    | cons c more =>
      rw [hdrop, halts_cons] at hbehind
      cases hscan : scan c more with
      | error fault =>
        rw [tokensFrom]
        simp only [hbehind, hscan, Bool.false_eq_true, if_false]
        rfl
      | ok found =>
        obtain ⟨token, piece⟩ := found
        obtain ⟨tail, hpiece, hreads⟩ := scan_eq_ok_iff.mp hscan
        rw [hdrop, hspaces, hpiece] at htext
        obtain ⟨_, _, hcons, -⟩ := hreads.exists_cons
        have hpos : 0 < Text.byteLength piece := Text.byteLength_pos (by simp [hcons])
        rw [← htext, Text.byteLength_append, Text.byteLength_append] at hinner hrounds
        have hmore := ih (before ++ spaces ++ piece) tail (by omega) (by omega)
        rw [List.append_assoc, List.append_assoc, htext] at hmore
        simp only [hscan]
        rw [hpiece, tokensFrom_append hreads, ← Text.byteLength_append]
        change (spansFrom inner (before ++ rest) rounds
          (Text.byteLength (before ++ spaces ++ piece))).map _ = _
        rw [hmore]
        cases tokensFrom (Text.byteLength (before ++ spaces ++ piece)) tail with
        | error fault => rfl
        | ok lexemes =>
          change Except.ok _ = Except.ok _
          simp [Lexeme.span, Lexeme.stop, Nat.add_assoc]

/-- The scanner of bytes ends, cuts no character, and gives the tokens of the text or the same
fault; and the tokens of a text cover it. -/
theorem tokens_cover_text {text : List Char} {rounds : Nat}
    (hrounds : Text.byteLength text < rounds) :
    spans rounds text = spansResult (tokens text) ∧
      ∀ lexemes, tokens text = .ok lexemes → Covers text lexemes :=
  ⟨spansFrom_eq [] text rounds (Nat.le_of_lt hrounds) hrounds, fun _ => covers_of_tokens⟩

theorem quoted_sum_covered :
    ∃ text rounds lexemes, Text.byteLength text < rounds ∧ tokens text = .ok lexemes ∧
      spans rounds text = .ok (lexemes.map Lexeme.span) ∧ Covers text lexemes := by
  have hlength : Text.byteLength "'ü' +1.5".toList < 20 := by decide
  have htokens : tokens "'ü' +1.5".toList = .ok
      [⟨.string "ü", "'ü'".toList, 0⟩, ⟨.operator .add, "+".toList, 5⟩,
        ⟨.decimal "1.5", "1.5".toList, 6⟩] := by
    decide +kernel
  obtain ⟨hspans, hcovers⟩ := tokens_cover_text hlength
  exact ⟨_, _, _, hlength, htokens, by rw [hspans, htokens]; rfl, hcovers _ htokens⟩

end DocumentMapping.Expression
