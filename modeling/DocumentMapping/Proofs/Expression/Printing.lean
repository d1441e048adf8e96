import DocumentMapping.Proofs.Expression.WrittenForm

/-!
# Printed expressions are read again

The text of a legible expression consists of the tokens of its derivation, so it is read as that
expression. Every token is read from the piece that was printed for it, because the text behind
cannot make it longer: behind an operand there is a blank, a bracket, a comma, or a point with a word.

An expression that is not legible has a text that is refused or that means something else.
-/

namespace DocumentMapping.Expression

/-! ## Texts and their tokens -/

/-- A text consists of tokens and of blanks between them, with some text behind. -/
inductive Spells : List Token → List Char → List Char → Prop
  | nil (tail : List Char) : Spells [] [] tail
  | blank {tokens : List Token} {c : Char} {text tail : List Char} (hc : isSpace c = true)
      (h : Spells tokens text tail) : Spells tokens (c :: text) tail
  | token {token : Token} {tokens : List Token} {piece text tail : List Char}
      (htoken : Reads token piece (text ++ tail)) (h : Spells tokens text tail) :
      Spells (token :: tokens) (piece ++ text) tail

section

variable {token : Token} {tokens more : List Token} {piece text second tail : List Char}

theorem Spells.append (h : Spells tokens text (second ++ tail)) (hmore : Spells more second tail) :
    Spells (tokens ++ more) (text ++ second) tail := by
  generalize hbehind : second ++ tail = behind at h
  induction h with
  | nil => exact hmore
  | blank hc _ ih => exact .blank hc (ih hbehind)
  | @token _ _ _ text _ htoken _ ih =>
    rw [List.append_assoc]
    refine .token ?_ (ih hbehind)
    rwa [List.append_assoc, hbehind]

theorem Reads.spells (h : Reads token piece tail) : Spells [token] piece tail := by
  have hspells : Spells [token] (piece ++ []) tail := .token h (.nil tail)
  rwa [List.append_nil] at hspells

/-- A text that consists of tokens is cut into lexemes with these tokens. -/
theorem Spells.exists_lexed (h : Spells tokens text []) (position : Nat) :
    ∃ lexemes, Lexed position text lexemes ∧ tokensOf lexemes = tokens := by
  generalize hbehind : ([] : List Char) = behind at h
  induction h generalizing position with
  | nil => exact ⟨[], .nil position, rfl⟩
  | blank hc _ ih =>
    obtain ⟨lexemes, hlexed, htokens⟩ := ih (position + 1) hbehind
    exact ⟨lexemes, .blank hc hlexed, htokens⟩
  | token htoken _ ih =>
    obtain ⟨lexemes, hlexed, rfl⟩ := ih (position + Text.byteLength _) hbehind
    rw [← hbehind, List.append_nil] at htoken
    exact ⟨_, .token htoken hlexed, rfl⟩

end

/-! ## What is printed behind an operand -/

/-- A text that makes no number and no word before it longer. -/
structure Ends (tail : List Char) : Prop where
  digit : Halts Char.isDigit tail
  word : Halts Text.continuesIdentifier tail
  fraction : OmitsFraction tail

/-- The characters that are printed right behind an operand, the point apart. -/
def closers : List Char :=
  [' ', '[', ']', ')', ',']

theorem ends_nil : Ends [] :=
  ⟨halts_nil _, halts_nil _, nofun⟩

theorem ends_cons {c : Char} (h : c ∈ closers) (rest : List Char) : Ends (c :: rest) := by
  have hclosers : ∀ c ∈ closers, c ∈ marks ∧ c ≠ '.' := forall_mem_of_all (by decide)
  obtain ⟨hmark, hpoint⟩ := hclosers c h
  refine ⟨halts_cons.mpr (not_isDigit_of_mem hmark),
    halts_cons.mpr (not_continuesIdentifier_of_mem hmark), ?_⟩
  rintro more ⟨⟩
  exact absurd rfl hpoint

/-- A point with a word behind it is not the point of a fraction. -/
theorem ends_member {name : List Char} (h : isWord name = true) (rest : List Char) :
    Ends ('.' :: (name ++ rest)) := by
  obtain ⟨c, more, rfl, hc, -⟩ := exists_of_isWord h
  refine ⟨halts_cons.mpr rfl, halts_cons.mpr (not_continuesIdentifier_of_mem (by decide)), ?_⟩
  rintro text ⟨⟩
  refine halts_cons.mpr ?_
  by_contra hdigit
  rw [not_beginsWord_of_isDigit (by simpa using hdigit)] at hc
  cases hc

/-! ## Printed tokens -/

section

variable {tail : List Char}

theorem Function.isWord_name (function : Function) : isWord function.name.toList :=
  isWord_of_letters (by cases function <;> decide)

theorem Word.isWord_name (word : Word) : isWord word.name.toList :=
  isWord_of_letters (by rcases word with - | - | - | (- | - | -) <;> decide)

/-- The text of a number without a sign. -/
theorem mainChars_of_positive {n : Numeral} (h : n.negative = false) :
    n.mainChars = n.whole ++ if n.places.isEmpty then [] else '.' :: n.places := by
  rw [Numeral.mainChars, h, Double.signChars, if_neg Bool.false_ne_true, List.nil_append]

/-- A number without a sign is read from its text. -/
theorem reads_mainChars {n : Numeral} (h : n.negative = false) (htail : Ends tail) :
    Reads (numberToken n.mainChars) n.mainChars tail := by
  obtain ⟨hne, hwhole⟩ := isDigits_iff.mp n.isWhole
  rw [mainChars_of_positive h]
  refine .number ⟨hne, hwhole, ?_, htail.digit, fun _ => htail.fraction⟩
  split
  · exact .inl rfl
  · rename_i hplaces
    exact .inr ⟨n.places, by simpa using hplaces, n.arePlaces, rfl⟩

/-- A number without a sign is an integer when it has no places and fits. -/
theorem numberToken_mainChars {n : Numeral} (h : n.negative = false) :
    numberToken n.mainChars =
      if n.places = [] ∧ n.digits < 2 ^ 63 then .integer (Int64.ofInt n.digits)
      else .decimal (String.ofList n.mainChars) := by
  obtain ⟨hne, hwhole⟩ := isDigits_iff.mp n.isWhole
  obtain ⟨c, rest, htext⟩ := List.exists_cons_of_ne_nil hne
  have hc : ∃ c ∈ n.mainChars.head?, c.isDigit = true :=
    ⟨c, by rw [mainChars_of_positive h, htext]; rfl, hwhole c (htext ▸ List.mem_cons_self)⟩
  rw [numberToken_eq hc]
  by_cases hplaces : n.places = []
  · have hmain : n.mainChars = n.whole := by rw [mainChars_of_positive h, hplaces]; simp
    have hdigits : n.digits = digitsValue n.whole := by
      rw [Numeral.digits, hplaces, List.append_nil]
    simp only [hmain, n.isWhole, hplaces, hdigits, true_and]
  · have hpoint : '.' ∈ n.mainChars := by simp [mainChars_of_positive h, hplaces]
    rw [if_neg fun hwrong => absurd ((isDigits_iff.mp hwrong.1).2 '.' hpoint) (by decide),
      if_neg fun hwrong => hplaces hwrong.1]

theorem reads_integerChars {value : Int64} (h : 0 ≤ value.toInt) (htail : Ends tail) :
    Reads (.integer value) (Json.integerChars value.toInt) tail := by
  have hsign : (Decimal.integerNumeral value.toInt).negative = false :=
    decide_eq_false (not_lt.mpr h)
  have hmain : (Decimal.integerNumeral value.toInt).mainChars = Json.integerChars value.toInt :=
    List.append_nil _
  have hlt := value.toInt_lt
  have hreads := reads_mainChars hsign htail
  rw [numberToken_mainChars hsign, Decimal.integerNumeral_digits, if_pos ⟨rfl, by omega⟩,
    Int.natAbs_of_nonneg h, Int64.ofInt_toInt, hmain] at hreads
  exact hreads

theorem reads_decimalChars {value : Decimal} (h : value.negative = false)
    (hexceeds : value.ExceedsIntegers) (htail : Ends tail) :
    Reads (.decimal value.text) value.chars tail := by
  have hreads := reads_mainChars (n := value.numeral) h htail
  rw [numberToken_mainChars h, Decimal.digits_numeral, if_neg ?_] at hreads
  · exact hreads
  · rintro ⟨hplaces, hlt⟩
    have hscale := value.length_numeral_places
    rw [hplaces, List.length_nil] at hscale
    rw [Decimal.ExceedsIntegers] at hexceeds
    omega

/-- The characters of a printed string behind the opening quote. -/
theorem quoted_of_no_backslash {text : List Char} (h : '\\' ∉ text) :
    Quoted '\'' text
      ((text.flatMap fun c => if c = '\'' then ['\\', '\''] else [c]) ++ ['\'']) := by
  induction text with
  | nil => exact .close
  | cons c rest ih =>
    rw [List.mem_cons, not_or] at h
    have hrest := ih h.2
    rw [List.flatMap_cons, List.append_assoc]
    split
    · rename_i hquote
      subst hquote
      exact .escape rfl hrest
    · rename_i hquote
      exact .plain (Ne.symm h.1) hquote hrest

theorem reads_string {text : String} (h : '\\' ∉ text.toList) :
    Reads (.string text) (literalChars (.string text)) tail := by
  have hreads : Reads (.string (String.ofList text.toList)) _ tail :=
    .string (.inl rfl) (quoted_of_no_backslash h)
  rwa [String.ofList_toList] at hreads

theorem reads_operator (op : BinaryOperator) (rest : List Char) :
    Reads (.operator op) op.symbol.toList (' ' :: rest) := by
  refine .sign ?_ fun _ => halts_cons.mpr rfl
  cases op <;> rfl

/-- A printed literal consists of the tokens of its derivation. -/
theorem ProperLiteral.spells_literalForm {value : Scalar} (h : ProperLiteral value)
    (hlegible : LegiblePart (.literal value)) (htail : Ends tail) :
    Spells (literalForm value).tokens (literalChars value) tail := by
  cases h with
  | null => exact (reads_word (Word.isWord_name .null) htail.word).spells
  | boolean value =>
    cases value with
    | true => exact (reads_word (Word.isWord_name .true) htail.word).spells
    | false => exact (reads_word (Word.isWord_name .false) htail.word).spells
  | string text => exact (reads_string hlegible).spells
  | @integer value hleast =>
    rw [literalForm]
    by_cases hsign : value.toInt < 0
    · have hneg : (-value).toInt = -value.toInt := Proper.toInt_neg (.literal (.integer hleast))
      have hchars : literalChars (.integer value) = '-' :: Json.integerChars (-value).toInt := by
        simp [literalChars, Scalar.chars, Json.integerChars, Double.signChars, hneg, hsign,
          hsign.le]
      rw [if_pos hsign, hchars]
      exact .token (reads_minus _) (reads_integerChars (by omega) htail).spells
    · rw [if_neg hsign]
      exact (reads_integerChars (by omega) htail).spells
  | @decimal value hexceeds =>
    rw [literalForm]
    by_cases hsign : value.negative = true
    · have hchars : literalChars (.decimal value) = '-' :: value.neg.chars := by
        simp [literalChars, Scalar.chars, Decimal.chars, Decimal.paddedDigits, Decimal.neg,
          Double.signChars, hsign]
      have hneg : value.neg.negative = false := by simp [Decimal.neg, hsign]
      have hexceeds : value.neg.ExceedsIntegers := hexceeds
      rw [if_pos hsign, hchars]
      exact .token (reads_minus _) (reads_decimalChars hneg hexceeds htail).spells
    · rw [if_neg hsign]
      exact (reads_decimalChars (by simpa using hsign) hexceeds htail).spells

end

/-! ## Printed expressions -/

section

variable {expression : Expression} {tail : List Char}

theorem exists_cons_of_isWord {text : List Char} (h : isWord text = true) :
    ∃ c rest, text = c :: rest ∧ c ≠ '=' := by
  obtain ⟨c, rest, htext, hc, -⟩ := exists_of_isWord h
  refine ⟨c, rest, htext, ?_⟩
  rintro rfl
  rw [not_beginsWord_of_mem (by decide)] at hc
  cases hc

theorem exists_cons_of_mainChars (n : Numeral) : ∃ c rest, n.mainChars = c :: rest ∧ c ≠ '=' := by
  obtain ⟨hne, hwhole⟩ := isDigits_iff.mp n.isWhole
  obtain ⟨c, rest, htext⟩ := List.exists_cons_of_ne_nil hne
  rw [Numeral.mainChars, htext]
  cases n.negative with
  | true => exact ⟨'-', _, rfl, by decide⟩
  | false =>
    exact ⟨c, _, rfl, Decimal.ne_of_isDigit (hwhole c (htext ▸ List.mem_cons_self)) (by decide)⟩

/-- No printed expression begins with an equality sign, which an exclamation mark in front of it
would take up. -/
theorem Proper.exists_cons (h : Proper expression) :
    ∃ c rest, expression.chars = c :: rest ∧ c ≠ '=' := by
  have happend {first second : List Char} (h : ∃ c rest, first = c :: rest ∧ c ≠ '=') :
      ∃ c rest, first ++ second = c :: rest ∧ c ≠ '=' := by
    obtain ⟨c, rest, rfl, hc⟩ := h
    exact ⟨c, rest ++ second, rfl, hc⟩
  induction h with
  | literal hvalue =>
    cases hvalue with
    | null => exact ⟨'n', _, rfl, by decide⟩
    | boolean value => cases value <;> exact ⟨_, _, rfl, by decide⟩
    | string text => exact ⟨'\'', _, rfl, by decide⟩
    | @integer value _ =>
      have hmain : chars (.literal (.integer value)) =
          (Decimal.integerNumeral value.toInt).mainChars := (List.append_nil _).symm
      rw [hmain]
      exact exists_cons_of_mainChars _
    | @decimal value _ => exact exists_cons_of_mainChars value.numeral
  | input root => exact exists_cons_of_isWord (Word.isWord_name (.input root))
  | member _ _ ih => exact happend ih
  | index _ _ ih => exact happend (happend ih)
  | negate => exact ⟨'-', _, rfl, by decide⟩
  | not => exact ⟨'!', _, rfl, by decide⟩
  | binary => exact ⟨'(', _, rfl, by decide⟩
  | @call function _ _ _ _ => exact happend (happend (exists_cons_of_isWord function.isWord_name))

/-- Arguments that consist of the tokens of their derivations do so with commas and blanks between
them. -/
theorem spells_listed {arguments : List Expression}
    (h : ∀ argument ∈ arguments, ∀ {tail}, Ends tail →
      Spells argument.form.tokens argument.chars tail) (htail : Ends tail) :
    Spells (Written.listTokens (forms arguments)) (listed (argumentChars arguments)) tail := by
  induction arguments with
  | nil => exact .nil tail
  | cons argument rest ih =>
    obtain ⟨hargument, hrest⟩ := List.forall_mem_cons.mp h
    cases rest with
    | nil =>
      rw [forms, forms, Written.listTokens, Written.moreTokens, List.append_nil]
      exact hargument htail
    | cons next more =>
      rw [forms, Written.listTokens, Written.moreTokens_of_ne_nil (by simp [forms])]
      exact (hargument (ends_cons (by decide) _)).append
        (.token (reads_comma _) (.blank rfl (ih hrest)))

/-- A printed expression consists of the tokens of its derivation, whatever is printed behind it. -/
theorem Proper.spells_form (h : Proper expression) (hlegible : expression.Legible)
    (htail : Ends tail) : Spells expression.form.tokens expression.chars tail := by
  induction h generalizing tail with
  | literal hvalue => exact hvalue.spells_literalForm (hlegible _ List.mem_cons_self) htail
  | input root => exact (reads_word (Word.isWord_name (.input root)) htail.word).spells
  | member name _ ih =>
    obtain ⟨⟨-, hname⟩, hbase⟩ := legible_member.mp hlegible
    exact (ih hbase (ends_member hname tail)).append
      (.token (reads_dot _) (reads_word hname htail.word).spells)
  | index _ _ ihbase ihposition =>
    obtain ⟨-, hbase, hposition⟩ := legible_index.mp hlegible
    rw [chars, List.append_assoc, List.cons_append]
    exact (ihbase hbase (ends_cons (by decide) _)).append (.token (reads_leftBracket _)
      ((ihposition hposition (ends_cons (by decide) _)).append (reads_rightBracket _).spells))
  | negate _ _ ih => exact .token (reads_minus _) (ih (legible_unary.mp hlegible) htail)
  | @not operand hoperand ih =>
    obtain ⟨c, rest, htext, hc⟩ := hoperand.exists_cons
    have hhalts : Halts (· == '=') (operand.chars ++ tail) := by
      rw [htext]
      exact halts_cons.mpr (by simpa using hc)
    have hnot : Reads .not ['!'] (operand.chars ++ tail) := .sign rfl fun _ => hhalts
    exact .token hnot (ih (legible_unary.mp hlegible) htail)
  | binary op _ _ ihleft ihright =>
    obtain ⟨hleft, hright⟩ := legible_binary.mp hlegible
    rw [form, Written.tokens, Written.tokens, chars]
    simp only [List.append_assoc, List.cons_append]
    exact .token (reads_leftParen _) ((ihleft hleft (ends_cons (by decide) _)).append
      (.blank rfl (.token (reads_operator op _)
        (.blank rfl ((ihright hright (ends_cons (by decide) _)).append
          (reads_rightParen _).spells)))))
  | @call function arguments _ _ ih =>
    have harguments : Spells (Written.listTokens (forms arguments))
        (listed (argumentChars arguments)) (')' :: tail) :=
      spells_listed (fun argument hmem => ih argument hmem (legible_call.mp hlegible argument hmem))
        (ends_cons (by decide) _)
    have hparen (behind : List Char) : Halts Text.continuesIdentifier ('(' :: behind) :=
      halts_cons.mpr (not_continuesIdentifier_of_mem (by decide))
    rw [chars, List.append_assoc, List.cons_append]
    exact .token (reads_word function.isWord_name (hparen _)) (.token (reads_leftParen _)
      (harguments.append (reads_rightParen _).spells))

end

theorem ofLexemes_eq_ok_of_derivedFrom {lexemes : List Lexeme} {written : Written}
    (h : written.DerivedFrom (tokensOf lexemes)) : ofLexemes lexemes = .ok written.tree :=
  ofLexemes_eq_ok_iff_derivation.mpr
    ⟨written, rfl, (derivation_eq_some_iff (by simp [tokensOf])).mpr h⟩

/-- The text of an expression that has been read is read as the same expression, when the
expression is legible. -/
theorem printed_expressions_are_read_again {source : String} {result : Expression}
    (h : read source = .ok result) (hlegible : result.Legible) :
    read result.text = .ok result := by
  have hproper := proper_of_read h
  obtain ⟨lexemes, hlexed, htokens⟩ := (hproper.spells_form hlegible ends_nil).exists_lexed 0
  have hderived : result.form.DerivedFrom (tokensOf lexemes) :=
    ⟨(hproper.derives_form hlegible).1.loosen (by decide), htokens.symm⟩
  have hread := ofLexemes_eq_ok_of_derivedFrom hderived
  rw [hproper.tree_form] at hread
  rw [read, text, String.toList_ofList, Expression.tokens, tokensFrom_eq_ok_iff.mpr hlexed]
  exact congrArg (Except.mapError _) hread

theorem quoted_choice_is_read_again :
    let result : Expression := .binary .coalesce (.member (.literal (.string "it's")) "a")
      (.literal (.decimal ⟨true, 150, 2, by decide, by decide⟩))
    result.text = "('it\\'s'.a ?? -1.50)" ∧ read result.text = .ok result := by
  intro result
  have hname : isWord "a".toList = true := isWord_of_letters (by decide)
  have hquoted : Quoted '"' "it's".toList ("it's".toList ++ ['"']) :=
    .plain (by decide) (by decide) (.plain (by decide) (by decide)
      (.plain (by decide) (by decide) (.plain (by decide) (by decide) .close)))
  have hnumber : TakesNumber ['1'] ['.', '5', '0'] [] :=
    ⟨by decide, forall_mem_of_all (by decide),
      .inr ⟨['5', '0'], by decide, forall_mem_of_all (by decide), rfl⟩, halts_nil _, nofun⟩
  have hlexed : Lexed 0 "\"it's\".a ?? -1.50".toList _ :=
    .token (.string (.inr rfl) hquoted) (.token (reads_dot _)
      (.token (reads_word hname (ends_cons (by decide) _).word)
        (.blank rfl (.token (reads_operator .coalesce _)
          (.blank rfl (.token (reads_minus _) (.token (.number hnumber) (.nil _))))))))
  have hread : read "\"it's\".a ?? -1.50" = .ok result := by
    rw [read, Expression.tokens, tokensFrom_eq_ok_iff.mpr hlexed]
    rfl
  have hplain : '\\' ∉ "it's".toList := by decide
  have hlegible : result.Legible :=
    legible_binary.mpr ⟨legible_member.mpr ⟨⟨rfl, hname⟩,
      List.forall_mem_singleton.mpr hplain⟩, List.forall_mem_singleton.mpr trivial⟩
  exact ⟨rfl, printed_expressions_are_read_again hread hlegible⟩

/-- A string with a backslash is printed as a text that is refused, and so is a name that is no
word. The text of an index after a minus means the minus of the index. -/
theorem printed_expressions_are_lost :
    (read "'a\\\\b'" = .ok (.literal (.string "a\\b")) ∧
      text (.literal (.string "a\\b")) = "'a\\b'" ∧
      read "'a\\b'" = .error ⟨.invalidEscape, 2⟩) ∧
    (read "'x'.'1'" = .ok (.member (.literal (.string "x")) "1") ∧
      text (.member (.literal (.string "x")) "1") = "'x'.1" ∧
      read "'x'.1" = .error ⟨.expectedName, 4⟩) ∧
    (read "(-'x')[1]" =
        .ok (.index (.unary .negate (.literal (.string "x"))) (.literal (.integer 1))) ∧
      text (.index (.unary .negate (.literal (.string "x"))) (.literal (.integer 1))) = "-'x'[1]" ∧
      read "-'x'[1]" =
        .ok (.unary .negate (.index (.literal (.string "x")) (.literal (.integer 1))))) := by
  have hescaped : tokens "'a\\\\b'".toList = .ok [⟨.string "a\\b", "'a\\\\b'".toList, 0⟩] := by
    decide +kernel
  have hplain : tokens "'a\\b'".toList = .error ⟨.invalidEscape, 2⟩ := by
    decide +kernel
  have hquoted : tokens "'x'.'1'".toList = .ok [⟨.string "x", "'x'".toList, 0⟩, ⟨.dot, ['.'], 3⟩,
      ⟨.string "1", "'1'".toList, 4⟩] := by
    decide +kernel
  have hbare : tokens "'x'.1".toList = .ok [⟨.string "x", "'x'".toList, 0⟩, ⟨.dot, ['.'], 3⟩,
      ⟨.integer 1, ['1'], 4⟩] := by
    decide +kernel
  have hgroup : tokens "(-'x')[1]".toList = .ok [⟨.leftParen, ['('], 0⟩,
      ⟨.operator .subtract, ['-'], 1⟩, ⟨.string "x", "'x'".toList, 2⟩, ⟨.rightParen, [')'], 5⟩,
      ⟨.leftBracket, ['['], 6⟩, ⟨.integer 1, ['1'], 7⟩, ⟨.rightBracket, [']'], 8⟩] := by
    decide +kernel
  have hopen : tokens "-'x'[1]".toList = .ok [⟨.operator .subtract, ['-'], 0⟩,
      ⟨.string "x", "'x'".toList, 1⟩, ⟨.leftBracket, ['['], 4⟩, ⟨.integer 1, ['1'], 5⟩,
      ⟨.rightBracket, [']'], 6⟩] := by
    decide +kernel
  refine ⟨⟨?_, rfl, ?_⟩, ⟨?_, rfl, ?_⟩, ?_, rfl, ?_⟩
  · rw [read, hescaped]
    rfl
  · rw [read, hplain]
  · rw [read, hquoted]
    rfl
  · rw [read, hbare]
    rfl
  · rw [read, hgroup]
    rfl
  · rw [read, hopen]
    rfl

end DocumentMapping.Expression
