import DocumentMapping.Proofs.Expression.Grammar
import DocumentMapping.Proofs.Sequencing

/-!
# Reading derivations

A reader of derivations takes an operator only when it is at least as tight as the asked level,
which is how it finds the levels of the grammar without a function for each of them. What it reads
is a derivation of the asked level after which no such operator is left, and each derivation is read
whole where the tokens go on with a looser operator. So some tokens have at most one derivation,
which is what is read from them.

The fuel that a reader needs grows with four times the number of tokens.
-/

namespace DocumentMapping.Expression

/-! ## Reading derivations -/

/-- The word of a name. -/
def Word.ofName? (name : String) : Option Word :=
  Word.all.find? (·.name = name)

/-- The tokens after a token. -/
def after? (token : Token) : List Token → Option (List Token)
  | [] => none
  | first :: rest => if first = token then some rest else none

/-- Reads the name of a member. -/
def writtenName? : List Token → Option (WrittenName × List Token)
  | .identifier name :: rest => some (.bare name, rest)
  | .string name :: rest => some (.quoted name, rest)
  | _ => none

mutual

/-- Reads a derivation whose operators have at least a level. -/
def derivation : Nat → Nat → List Token → Option (Written × List Token)
  | 0, _, _ => none
  | fuel + 1, level, tokens => do
    let (left, rest) ← operandDerivation fuel tokens
    extension fuel level left rest

/-- Reads the derivation of an operand. -/
def operandDerivation : Nat → List Token → Option (Written × List Token)
  | _, [] => none
  | 0, _ => none
  | fuel + 1, token :: rest =>
    match token with
    | .integer value => some (.integer value, rest)
    | .decimal text => do
      let value ← Decimal.ofPositional? text.toList
      some (.decimal text value, rest)
    | .string value => some (.string value, rest)
    | .leftParen => do
      let (inner, rest) ← derivation fuel loosestLevel rest
      let rest ← after? .rightParen rest
      some (.grouped inner, rest)
    | .operator .subtract => do
      let (operand, rest) ← derivation fuel unaryLevel rest
      some (.unary .negate operand, rest)
    | .not => do
      let (operand, rest) ← derivation fuel unaryLevel rest
      some (.unary .not operand, rest)
    | .identifier name =>
      match after? .leftParen rest with
      | some inside => do
        let (list, rest) ← argumentDerivations fuel inside
        let function ← (Function.resolve name list.length).toOption
        some (.call function list, rest)
      | none => do
        let word ← Word.ofName? name
        some (.word word, rest)
    | _ => none

/-- Reads what follows an operand: members, indexes, and operators of at least a level. -/
def extension : Nat → Nat → Written → List Token → Option (Written × List Token)
  | _, _, left, [] => some (left, [])
  | 0, _, left, tokens => some (left, tokens)
  | fuel + 1, level, left, token :: rest =>
    match token with
    | .dot => do
      let (name, rest) ← writtenName? rest
      extension fuel level (.member left name) rest
    | .leftBracket => do
      let (position, rest) ← derivation fuel loosestLevel rest
      let rest ← after? .rightBracket rest
      extension fuel level (.index left position) rest
    | .operator op =>
      if level ≤ op.level then do
        let (right, rest) ← derivation fuel op.rightLevel rest
        extension fuel level (.binary op left right) rest
      else some (left, token :: rest)
    | _ => some (left, token :: rest)

/-- Reads the derivations of arguments after an opening parenthesis, and the closing one. -/
def argumentDerivations : Nat → List Token → Option (List Written × List Token)
  | 0, _ => none
  | fuel + 1, tokens =>
    match after? .rightParen tokens with
    | some rest => some ([], rest)
    | none => argumentDerivationsFrom fuel tokens

/-- Reads the derivations of at least one argument, and the closing parenthesis. -/
def argumentDerivationsFrom : Nat → List Token → Option (List Written × List Token)
  | 0, _ => none
  | fuel + 1, tokens => do
    let (first, rest) ← derivation fuel loosestLevel tokens
    match after? .comma rest with
    | some rest => do
      let (more, rest) ← argumentDerivationsFrom fuel rest
      some (first :: more, rest)
    | none => do
      let rest ← after? .rightParen rest
      some ([first], rest)

end

/-! ## Parts of the readers -/

section

variable (fuel : Nat) (rest : List Token)

theorem operandDerivation_decimal (text : String) :
    operandDerivation (fuel + 1) (.decimal text :: rest) =
      (Decimal.ofPositional? text.toList).bind fun value => some (.decimal text value, rest) :=
  rfl

theorem operandDerivation_leftParen :
    operandDerivation (fuel + 1) (.leftParen :: rest) =
      (derivation fuel loosestLevel rest).bind fun (inner, rest) =>
        (after? .rightParen rest).bind fun rest => some (.grouped inner, rest) :=
  rfl

theorem operandDerivation_sign (op : UnaryOperator) :
    operandDerivation (fuel + 1) (op.token :: rest) =
      (derivation fuel unaryLevel rest).bind fun (operand, rest) =>
        some (.unary op operand, rest) := by
  cases op <;> rfl

theorem operandDerivation_identifier (name : String) :
    operandDerivation (fuel + 1) (.identifier name :: rest) =
      match after? .leftParen rest with
      | some inside =>
        (argumentDerivations fuel inside).bind fun (list, rest) =>
          (Function.resolve name list.length).toOption.bind fun function =>
            some (.call function list, rest)
      | none => (Word.ofName? name).bind fun word => some (.word word, rest) :=
  rfl

end

theorem after?_eq_some_iff {token : Token} {tokens rest : List Token} :
    after? token tokens = some rest ↔ tokens = token :: rest := by
  cases tokens with
  | nil => simp [after?]
  | cons first more => simp [after?]

@[simp] theorem after?_cons_self (token : Token) (rest : List Token) :
    after? token (token :: rest) = some rest := by
  simp [after?]

theorem writtenName?_eq_some_iff {tokens rest : List Token} {name : WrittenName} :
    writtenName? tokens = some (name, rest) ↔ tokens = name.token :: rest := by
  constructor
  · intro h
    unfold writtenName? at h
    split at h <;> cases h <;> rfl
  · rintro rfl
    cases name <;> rfl

theorem Word.ofName?_eq_some_iff {name : String} {word : Word} :
    Word.ofName? name = some word ↔ word.name = name := by
  constructor
  · intro h
    simpa using List.find?_some h
  · rintro rfl
    rcases word with _ | _ | _ | root
    · decide
    · decide
    · decide
    · cases root <;> decide

theorem Function.ofName?_eq_some_iff {name : String} {function : Function} :
    Function.ofName? name = some function ↔ function.name = name := by
  constructor
  · intro h
    simpa using List.find?_some h
  · rintro rfl
    cases function <;> decide

theorem Function.resolve_eq_ok_iff {name : String} {count : Nat} {function : Function} :
    Function.resolve name count = .ok function ↔
      function.name = name ∧ function.arity.admits count = true := by
  rw [← Function.ofName?_eq_some_iff]
  unfold Function.resolve
  cases hname : Function.ofName? name with
  | none => simp
  | some found =>
    by_cases hcount : found.arity.admits count = true
    · simp only [if_pos hcount, Except.ok.injEq, Option.some.injEq, iff_self_and]
      rintro rfl
      exact hcount
    · simp only [if_neg hcount, Option.some.injEq, reduceCtorEq, false_iff, not_and]
      rintro rfl
      exact hcount

theorem Written.moreTokens_of_ne_nil {list : List Written} (h : list ≠ []) :
    Written.moreTokens list = .comma :: Written.listTokens list := by
  cases list with
  | nil => exact absurd rfl h
  | cons first rest => rfl

/-! ## The operator that comes next -/

/-- How tightly a token binds to the operand before it, if it can follow one. -/
def Token.bindingLevel? : Token → Option Nat
  | .dot => some 9
  | .leftBracket => some 9
  | .operator op => some op.level
  | _ => none

/-- The tokens go on with nothing that binds to an operand at a level or more tightly. -/
def Stops (level : Nat) (tokens : List Token) : Prop :=
  ∀ token ∈ tokens.head?, ∀ binding ∈ token.bindingLevel?, binding < level

/-- The tokens do not go on with a parenthesis, which would make a call of a word before it. -/
def EndsWord (tokens : List Token) : Prop :=
  ∀ token ∈ tokens.head?, token ≠ .leftParen

section

variable {level : Nat} {tokens rest : List Token} {token : Token}

theorem stops_nil (level : Nat) : Stops level [] := by
  intro token htoken
  cases htoken

theorem stops_cons :
    Stops level (token :: rest) ↔ ∀ binding ∈ token.bindingLevel?, binding < level := by
  simp [Stops]

theorem stops_of_no_binding (h : token.bindingLevel? = none) : Stops level (token :: rest) := by
  rw [stops_cons, h]
  intro binding hbinding
  cases hbinding

theorem Stops.mono {higher : Nat} (h : Stops level tokens) (hle : level ≤ higher) :
    Stops higher tokens :=
  fun token htoken binding hbinding => (h token htoken binding hbinding).trans_le hle

theorem stops_ten (tokens : List Token) : Stops 10 tokens := by
  intro token _ binding hbinding
  cases token with
  | operator op =>
    cases hbinding
    exact op.level_le_seven.trans_lt (by decide)
  | _ => cases hbinding <;> decide

theorem stops_eight_of_stops_nine (h : Stops 9 tokens) : Stops 8 tokens := by
  intro token htoken binding hbinding
  have hlt := h token htoken binding hbinding
  cases token with
  | operator op =>
    cases hbinding
    exact op.level_le_seven.trans_lt (by decide)
  | _ => cases hbinding <;> exact absurd hlt (lt_irrefl 9)

theorem endsWord_nil : EndsWord [] := by
  intro token htoken
  cases htoken

theorem endsWord_cons : EndsWord (token :: rest) ↔ token ≠ .leftParen := by
  simp [EndsWord]

theorem EndsWord.after?_leftParen (h : EndsWord tokens) : after? .leftParen tokens = none := by
  cases tokens with
  | nil => rfl
  | cons token rest => exact if_neg (endsWord_cons.mp h)

/-- Where nothing of the level follows, an operand is left as it is. -/
theorem extension_of_stops (fuel : Nat) (left : Written) (h : Stops level tokens)
    (hlevel : level ≤ 8) : extension fuel level left tokens = some (left, tokens) := by
  cases tokens with
  | nil => cases fuel <;> rfl
  | cons token rest =>
    rw [stops_cons] at h
    cases fuel with
    | zero => rfl
    | succ fuel =>
      cases token with
      | operator op =>
        have hlt := h op.level rfl
        rw [extension, if_neg hlt.not_ge]
      | dot => exact absurd (h 9 rfl) (by omega)
      | leftBracket => exact absurd (h 9 rfl) (by omega)
      | _ => rfl

end

/-! ## What is read is a derivation -/

/-- An operand after which the reading at a level can go on: it is of the level, and tight enough
to be the left operand of what follows. -/
structure Extendable (level : Nat) (left : Written) (tokens : List Token) : Prop where
  derives : Derives level left
  ofPart : ∀ token ∈ tokens.head?, token.bindingLevel? = some 9 → Derives 9 left
  ofOperator : ∀ op, tokens.head? = some (.operator op) → level ≤ op.level →
    Derives op.leftLevel left

theorem BinaryOperator.leftLevel_le_seven (op : BinaryOperator) : op.leftLevel ≤ 7 := by
  cases op <;> decide

theorem BinaryOperator.rightLevel_le_eight (op : BinaryOperator) : op.rightLevel ≤ 8 := by
  cases op <;> decide

/-- An operator that is looser than what a right operand takes is loose enough for the whole to be
its left operand. -/
theorem BinaryOperator.leftLevel_le_of_lt_rightLevel {op next : BinaryOperator}
    (h : next.level < op.rightLevel) : next.leftLevel ≤ op.level := by
  have hnext := next.one_le_level
  unfold BinaryOperator.rightLevel at h
  unfold BinaryOperator.leftLevel
  by_cases hop : op = .coalesce
  · subst hop
    exact absurd h hnext.not_gt
  · have hlevel : 2 ≤ op.level := by cases op <;> first | exact absurd rfl hop | decide
    rw [if_neg hop] at h
    split <;> omega

section

variable {level : Nat} {left : Written} {tokens : List Token}

theorem Extendable.of_stops {own bound : Nat} (h : Derives own left) (hlevel : level ≤ own)
    (hstops : Stops bound tokens) (hpart : bound ≤ 9 ∨ 9 ≤ own)
    (hop : ∀ op : BinaryOperator, level ≤ op.level → op.level < bound → op.leftLevel ≤ own) :
    Extendable level left tokens where
  derives := h.loosen hlevel
  ofPart token htoken hbinding := by
    have hlt := hstops token htoken 9 hbinding
    exact h.loosen (by omega)
  ofOperator op htoken hle := h.loosen (hop op hle (hstops _ htoken _ rfl))

theorem Extendable.of_tight (h : Derives 9 left) (hlevel : level ≤ 8) :
    Extendable level left tokens :=
  .of_stops h (by omega) (stops_ten tokens) (.inr le_rfl)
    fun op _ _ => op.leftLevel_le_seven.trans (by decide)

theorem Extendable.of_sign (h : Derives 8 left) (hlevel : level ≤ 8) (hstops : Stops 8 tokens) :
    Extendable level left tokens :=
  .of_stops h hlevel hstops (.inl (by decide))
    fun op _ _ => op.leftLevel_le_seven.trans (by decide)

theorem Extendable.of_binary {op : BinaryOperator} (h : Derives op.level left)
    (hlevel : level ≤ op.level) (hstops : Stops op.rightLevel tokens) :
    Extendable level left tokens :=
  .of_stops h hlevel hstops (.inl (op.rightLevel_le_eight.trans (by decide)))
    fun _ _ hlt => BinaryOperator.leftLevel_le_of_lt_rightLevel hlt

end

/-- With this fuel, whatever the readers take from few enough tokens is what they say. -/
structure ReadsDerivations (fuel : Nat) : Prop where
  derivation {level : Nat} {tokens rest : List Token} {written : Written}
    (hfuel : 4 * tokens.length + 1 ≤ fuel) (hlevel : level ≤ 8)
    (h : derivation fuel level tokens = some (written, rest)) :
    tokens = written.tokens ++ rest ∧ Derives level written ∧ Stops level rest
  operand {tokens rest : List Token} {written : Written} (hfuel : 4 * tokens.length ≤ fuel)
    (h : operandDerivation fuel tokens = some (written, rest)) :
    tokens = written.tokens ++ rest ∧ (Derives 10 written ∨ Derives 8 written ∧ Stops 8 rest)
  extension {level : Nat} {left written : Written} {tokens rest : List Token}
    (hfuel : 4 * tokens.length ≤ fuel) (hlevel : level ≤ 8) (hleft : Extendable level left tokens)
    (h : extension fuel level left tokens = some (written, rest)) :
    left.tokens ++ tokens = written.tokens ++ rest ∧ Derives level written ∧ Stops level rest
  arguments {tokens rest : List Token} {list : List Written}
    (hfuel : 4 * tokens.length + 3 ≤ fuel)
    (h : argumentDerivations fuel tokens = some (list, rest)) :
    tokens = Written.listTokens list ++ .rightParen :: rest ∧
      ∀ argument ∈ list, Derives 1 argument
  argumentsFrom {tokens rest : List Token} {list : List Written}
    (hfuel : 4 * tokens.length + 2 ≤ fuel)
    (h : argumentDerivationsFrom fuel tokens = some (list, rest)) :
    tokens = Written.listTokens list ++ .rightParen :: rest ∧ list ≠ [] ∧
      ∀ argument ∈ list, Derives 1 argument

section

variable {fuel level : Nat} {tokens rest : List Token} {left written : Written}
  {list : List Written}

theorem derivation_sound (ih : ReadsDerivations fuel) (hfuel : 4 * tokens.length + 1 ≤ fuel + 1)
    (hlevel : level ≤ 8) (h : derivation (fuel + 1) level tokens = some (written, rest)) :
    tokens = written.tokens ++ rest ∧ Derives level written ∧ Stops level rest := by
  rw [derivation] at h
  obtain ⟨⟨first, more⟩, hfirst, hmore⟩ := Option.bind_eq_some_iff.mp h
  obtain ⟨rfl, hderives⟩ := ih.operand (by omega) hfirst
  have hextendable : Extendable level first more := by
    rcases hderives with hprimary | ⟨hsign, hstops⟩
    · exact .of_tight hprimary.looser hlevel
    · exact .of_sign hsign hlevel hstops
  rw [List.length_append] at hfuel
  exact ih.extension (by omega) hlevel hextendable hmore

theorem operandDerivation_sound (ih : ReadsDerivations fuel) (hfuel : 4 * tokens.length ≤ fuel + 1)
    (h : operandDerivation (fuel + 1) tokens = some (written, rest)) :
    tokens = written.tokens ++ rest ∧
      (Derives 10 written ∨ Derives 8 written ∧ Stops 8 rest) := by
  cases tokens with
  | nil => cases h
  | cons token more =>
    rw [List.length_cons] at hfuel
    cases token with
    | integer value =>
      cases h
      exact ⟨rfl, .inl (.integer value)⟩
    | decimal text =>
      obtain ⟨value, hvalue, hread⟩ := Option.bind_eq_some_iff.mp h
      cases hread
      exact ⟨rfl, .inl (.decimal hvalue)⟩
    | string value =>
      cases h
      exact ⟨rfl, .inl (.string value)⟩
    | leftParen =>
      obtain ⟨⟨inner, afterInner⟩, hinner, hclosed⟩ := Option.bind_eq_some_iff.mp h
      obtain ⟨afterParen, hparen, hread⟩ := Option.bind_eq_some_iff.mp hclosed
      cases hread
      obtain ⟨rfl, hderives, -⟩ := ih.derivation (by omega) (by decide) hinner
      rw [after?_eq_some_iff.mp hparen]
      exact ⟨by simp [Written.tokens], .inl (.grouped hderives)⟩
    | operator op =>
      cases op with
      | subtract =>
        obtain ⟨⟨operand, afterOperand⟩, hoperand, hread⟩ := Option.bind_eq_some_iff.mp h
        cases hread
        obtain ⟨rfl, hderives, hstops⟩ := ih.derivation (by omega) le_rfl hoperand
        exact ⟨rfl, .inr ⟨.sign hderives, hstops⟩⟩
      | _ => cases h
    | not =>
      obtain ⟨⟨operand, afterOperand⟩, hoperand, hread⟩ := Option.bind_eq_some_iff.mp h
      cases hread
      obtain ⟨rfl, hderives, hstops⟩ := ih.derivation (by omega) le_rfl hoperand
      exact ⟨rfl, .inr ⟨.sign hderives, hstops⟩⟩
    | identifier name =>
      rw [operandDerivation_identifier] at h
      cases hparen : after? .leftParen more with
      | none =>
        rw [hparen] at h
        obtain ⟨word, hword, hread⟩ := Option.bind_eq_some_iff.mp h
        cases hread
        obtain rfl := Word.ofName?_eq_some_iff.mp hword
        exact ⟨rfl, .inl (.word word)⟩
      | some inside =>
        rw [hparen] at h
        obtain ⟨⟨list, afterCall⟩, hlist, hcall⟩ := Option.bind_eq_some_iff.mp h
        obtain ⟨function, hfunction, hread⟩ := Option.bind_eq_some_iff.mp hcall
        cases hread
        obtain ⟨rfl, hcount⟩ :=
          Function.resolve_eq_ok_iff.mp (Except.toOption_eq_some_iff.mp hfunction)
        obtain rfl := after?_eq_some_iff.mp hparen
        rw [List.length_cons] at hfuel
        obtain ⟨rfl, harguments⟩ := ih.arguments (by omega) hlist
        exact ⟨by simp [Written.tokens], .inl (.call hcount harguments)⟩
    | _ => cases h

theorem extension_sound (ih : ReadsDerivations fuel) (hfuel : 4 * tokens.length ≤ fuel + 1)
    (hlevel : level ≤ 8) (hleft : Extendable level left tokens)
    (h : extension (fuel + 1) level left tokens = some (written, rest)) :
    left.tokens ++ tokens = written.tokens ++ rest ∧ Derives level written ∧ Stops level rest := by
  have hstopped (hstops : Stops level tokens) :
      left.tokens ++ tokens = written.tokens ++ rest ∧ Derives level written ∧
        Stops level rest := by
    rw [extension_of_stops _ _ hstops hlevel] at h
    cases h
    exact ⟨rfl, hleft.derives, hstops⟩
  cases tokens with
  | nil => exact hstopped (stops_nil level)
  | cons token more =>
    rw [List.length_cons] at hfuel
    cases token with
    | dot =>
      obtain ⟨⟨name, afterName⟩, hname, hread⟩ := Option.bind_eq_some_iff.mp h
      obtain rfl := writtenName?_eq_some_iff.mp hname
      rw [List.length_cons] at hfuel
      have hmember : Derives 9 (left.member name) := .member (hleft.ofPart _ rfl rfl)
      simpa [Written.tokens] using
        ih.extension (by omega) hlevel (.of_tight hmember hlevel) hread
    | leftBracket =>
      obtain ⟨⟨position, afterPosition⟩, hposition, hclosed⟩ := Option.bind_eq_some_iff.mp h
      obtain ⟨afterBracket, hbracket, hread⟩ := Option.bind_eq_some_iff.mp hclosed
      obtain ⟨rfl, hderives, -⟩ := ih.derivation (by omega) (by decide) hposition
      obtain rfl := after?_eq_some_iff.mp hbracket
      rw [List.length_append, List.length_cons] at hfuel
      have hindex : Derives 9 (left.index position) := .index (hleft.ofPart _ rfl rfl) hderives
      simpa [Written.tokens] using
        ih.extension (by omega) hlevel (.of_tight hindex hlevel) hread
    | operator op =>
      by_cases hle : level ≤ op.level
      · rw [extension, if_pos hle] at h
        obtain ⟨⟨right, afterRight⟩, hright, hread⟩ := Option.bind_eq_some_iff.mp h
        obtain ⟨rfl, hderives, hstops⟩ :=
          ih.derivation (by omega) op.rightLevel_le_eight hright
        rw [List.length_append] at hfuel
        have hbinary : Derives op.level (left.binary op right) :=
          .binary (hleft.ofOperator op rfl hle) hderives
        simpa [Written.tokens] using
          ih.extension (by omega) hlevel (.of_binary hbinary hle hstops) hread
      · refine hstopped (stops_cons.mpr ?_)
        intro binding hbinding
        cases hbinding
        exact Nat.lt_of_not_le hle
    | _ => exact hstopped (stops_of_no_binding rfl)

theorem argumentDerivations_sound (ih : ReadsDerivations fuel)
    (hfuel : 4 * tokens.length + 3 ≤ fuel + 1)
    (h : argumentDerivations (fuel + 1) tokens = some (list, rest)) :
    tokens = Written.listTokens list ++ .rightParen :: rest ∧
      ∀ argument ∈ list, Derives 1 argument := by
  rw [argumentDerivations] at h
  cases hparen : after? .rightParen tokens with
  | none =>
    rw [hparen] at h
    obtain ⟨htokens, -, hderives⟩ := ih.argumentsFrom (by omega) h
    exact ⟨htokens, hderives⟩
  | some afterParen =>
    rw [hparen] at h
    cases h
    exact ⟨after?_eq_some_iff.mp hparen, List.forall_mem_nil _⟩

theorem argumentDerivationsFrom_sound (ih : ReadsDerivations fuel)
    (hfuel : 4 * tokens.length + 2 ≤ fuel + 1)
    (h : argumentDerivationsFrom (fuel + 1) tokens = some (list, rest)) :
    tokens = Written.listTokens list ++ .rightParen :: rest ∧ list ≠ [] ∧
      ∀ argument ∈ list, Derives 1 argument := by
  rw [argumentDerivationsFrom] at h
  obtain ⟨⟨first, afterFirst⟩, hfirst, hmore⟩ := Option.bind_eq_some_iff.mp h
  obtain ⟨rfl, hderives, -⟩ := ih.derivation (by omega) (by decide) hfirst
  rw [List.length_append] at hfuel
  cases hcomma : after? .comma afterFirst with
  | none =>
    simp only [hcomma] at hmore
    obtain ⟨afterParen, hparen, hread⟩ := Option.bind_eq_some_iff.mp hmore
    cases hread
    obtain rfl := after?_eq_some_iff.mp hparen
    refine ⟨by simp [Written.listTokens, Written.moreTokens], List.cons_ne_nil _ _, ?_⟩
    exact List.forall_mem_singleton.mpr hderives
  | some afterComma =>
    simp only [hcomma] at hmore
    obtain ⟨⟨others, afterOthers⟩, hothers, hread⟩ := Option.bind_eq_some_iff.mp hmore
    cases hread
    obtain rfl := after?_eq_some_iff.mp hcomma
    rw [List.length_cons] at hfuel
    obtain ⟨rfl, hne, hall⟩ := ih.argumentsFrom (by omega) hothers
    refine ⟨?_, List.cons_ne_nil _ _, List.forall_mem_cons.mpr ⟨hderives, hall⟩⟩
    simp [Written.listTokens, Written.moreTokens_of_ne_nil hne]

end

theorem readsDerivations (fuel : Nat) : ReadsDerivations fuel := by
  induction fuel with
  | zero =>
    refine ⟨?_, ?_, ?_, ?_, ?_⟩
    · intro level tokens rest written hfuel
      omega
    · intro tokens rest written hfuel h
      obtain rfl := List.eq_nil_of_length_eq_zero (by omega : tokens.length = 0)
      cases h
    · intro level left written tokens rest hfuel _ hleft h
      obtain rfl := List.eq_nil_of_length_eq_zero (by omega : tokens.length = 0)
      cases h
      exact ⟨rfl, hleft.derives, stops_nil level⟩
    · intro tokens rest list hfuel
      omega
    · intro tokens rest list hfuel
      omega
  | succ fuel ih =>
    exact {
      derivation := derivation_sound ih
      operand := operandDerivation_sound ih
      extension := extension_sound ih
      arguments := argumentDerivations_sound ih
      argumentsFrom := argumentDerivationsFrom_sound ih }

/-! ## Derivations are read whole -/

/-- The least level of an operator after which a derivation of a level does not go on. -/
def rightBound (level : Nat) : Nat :=
  if level ≤ 1 then 1 else level + 1

theorem rightBound_mono {level higher : Nat} (h : level ≤ higher) :
    rightBound level ≤ rightBound higher := by
  unfold rightBound
  split <;> split <;> omega

theorem BinaryOperator.rightBound_level (op : BinaryOperator) :
    rightBound op.level = op.rightLevel := by
  cases op <;> decide

theorem BinaryOperator.level_lt_rightBound_leftLevel (op : BinaryOperator) :
    op.level < rightBound op.leftLevel := by
  cases op <;> decide

/-- A derivation is read whole at each level up to its own, and the reading goes on from it. -/
structure ReadWhole (own : Nat) (written : Written) : Prop where
  reads {level fuel : Nat} {rest : List Token} (hlevel : level ≤ own)
    (hfuel : 4 * (written.tokens ++ rest).length + 1 ≤ fuel) (hstops : Stops (rightBound own) rest)
    (hword : EndsWord rest) :
    ∃ fuel', 4 * rest.length ≤ fuel' ∧
      derivation fuel level (written.tokens ++ rest) = extension fuel' level written rest

namespace ReadWhole

variable {own level fuel : Nat} {written : Written} {rest : List Token}

theorem looser (h : ReadWhole (own + 1) written) : ReadWhole own written where
  reads hlevel hfuel hstops hword :=
    h.reads (hlevel.trans (Nat.le_succ own)) hfuel
      (hstops.mono (rightBound_mono (Nat.le_succ own))) hword

theorem derivation_eq (h : ReadWhole level written) (hlevel : level ≤ 8)
    (hfuel : 4 * (written.tokens ++ rest).length + 1 ≤ fuel) (hstops : Stops level rest)
    (hword : EndsWord rest) :
    derivation fuel level (written.tokens ++ rest) = some (written, rest) := by
  have hbound : level ≤ rightBound level := by
    unfold rightBound
    split <;> omega
  obtain ⟨fuel', -, hread⟩ := h.reads le_rfl hfuel (hstops.mono hbound) hword
  rw [hread, extension_of_stops fuel' written hstops hlevel]

/-- An operand that is read whole. -/
theorem of_operand {token : Token} {more : List Token} (htokens : written.tokens = token :: more)
    (h : ∀ {fuel : Nat} {rest : List Token}, 4 * (more ++ rest).length + 3 ≤ fuel →
      Stops (rightBound own) rest → EndsWord rest →
      operandDerivation (fuel + 1) (token :: (more ++ rest)) = some (written, rest)) :
    ReadWhole own written := by
  refine ⟨?_⟩
  intro level fuel rest _ hfuel hstops hword
  rw [htokens, List.cons_append] at hfuel ⊢
  rw [List.length_cons] at hfuel
  obtain ⟨fuel, rfl⟩ : ∃ less, fuel = less + 2 := ⟨fuel - 2, by omega⟩
  have hoperand := h (by omega : 4 * (more ++ rest).length + 3 ≤ fuel) hstops hword
  rw [List.length_append] at hfuel
  exact ⟨fuel + 1, by omega, by rw [derivation, hoperand]; rfl⟩

theorem binary {op : BinaryOperator} {left right : Written} (hleft : ReadWhole op.leftLevel left)
    (hright : ReadWhole op.rightLevel right) : ReadWhole op.level (.binary op left right) := by
  refine ⟨?_⟩
  intro level fuel rest hlevel hfuel hstops hword
  have hleftLevel : op.level ≤ op.leftLevel := by cases op <;> decide
  rw [op.rightBound_level] at hstops
  rw [show (Written.binary op left right).tokens ++ rest =
    left.tokens ++ .operator op :: (right.tokens ++ rest) by simp [Written.tokens]] at hfuel ⊢
  obtain ⟨fuel', hfuel', hread⟩ := hleft.reads (hlevel.trans hleftLevel) hfuel
    (stops_cons.mpr fun binding hbinding => by
      cases hbinding
      exact op.level_lt_rightBound_leftLevel)
    (endsWord_cons.mpr (by simp))
  rw [List.length_cons] at hfuel'
  obtain ⟨fuel', rfl⟩ : ∃ less, fuel' = less + 1 := ⟨fuel' - 1, by omega⟩
  have hoperand := hright.derivation_eq op.rightLevel_le_eight
    (by omega : 4 * (right.tokens ++ rest).length + 1 ≤ fuel') hstops hword
  rw [List.length_append] at hfuel'
  refine ⟨fuel', by omega, ?_⟩
  rw [hread, extension, if_pos hlevel, hoperand]
  rfl

theorem sign {op : UnaryOperator} {operand : Written} (h : ReadWhole 8 operand) :
    ReadWhole 8 (.unary op operand) := by
  refine of_operand (rfl : _ = op.token :: operand.tokens) ?_
  intro fuel rest hfuel hstops hword
  have hoperand : derivation fuel unaryLevel (operand.tokens ++ rest) = some (operand, rest) :=
    h.derivation_eq le_rfl (by omega) (stops_eight_of_stops_nine hstops) hword
  rw [operandDerivation_sign, hoperand]
  rfl

theorem member {base : Written} {name : WrittenName} (h : ReadWhole 9 base) :
    ReadWhole 9 (.member base name) := by
  refine ⟨?_⟩
  intro level fuel rest hlevel hfuel hstops hword
  rw [show (Written.member base name).tokens ++ rest =
    base.tokens ++ .dot :: name.token :: rest by simp [Written.tokens]] at hfuel ⊢
  obtain ⟨fuel', hfuel', hread⟩ := h.reads hlevel hfuel (stops_ten _) (endsWord_cons.mpr (by simp))
  simp only [List.length_cons] at hfuel'
  obtain ⟨fuel', rfl⟩ : ∃ less, fuel' = less + 1 := ⟨fuel' - 1, by omega⟩
  refine ⟨fuel', by omega, ?_⟩
  rw [hread, extension, writtenName?_eq_some_iff.mpr rfl]
  rfl

theorem index {base position : Written} (hbase : ReadWhole 9 base)
    (hposition : ReadWhole 1 position) : ReadWhole 9 (.index base position) := by
  refine ⟨?_⟩
  intro level fuel rest hlevel hfuel hstops hword
  rw [show (Written.index base position).tokens ++ rest =
    base.tokens ++ .leftBracket :: (position.tokens ++ .rightBracket :: rest) by
      simp [Written.tokens]] at hfuel ⊢
  obtain ⟨fuel', hfuel', hread⟩ :=
    hbase.reads hlevel hfuel (stops_ten _) (endsWord_cons.mpr (by simp))
  rw [List.length_cons] at hfuel'
  obtain ⟨fuel', rfl⟩ : ∃ less, fuel' = less + 1 := ⟨fuel' - 1, by omega⟩
  have hinner := hposition.derivation_eq (by decide)
    (by omega : 4 * (position.tokens ++ .rightBracket :: rest).length + 1 ≤ fuel')
    (stops_of_no_binding rfl) (endsWord_cons.mpr (by simp))
  simp only [List.length_append, List.length_cons] at hfuel'
  refine ⟨fuel', by omega, ?_⟩
  rw [hread, extension, show loosestLevel = 1 from rfl, hinner]
  simp

theorem integer (value : Int64) : ReadWhole 10 (.integer value) :=
  of_operand rfl fun _ _ _ => rfl

theorem decimal {text : String} {value : Decimal}
    (h : Decimal.ofPositional? text.toList = some value) : ReadWhole 10 (.decimal text value) := by
  refine of_operand rfl ?_
  intro fuel rest _ _ _
  rw [List.nil_append, operandDerivation_decimal, h]
  rfl

theorem string (value : String) : ReadWhole 10 (.string value) :=
  of_operand rfl fun _ _ _ => rfl

theorem word (name : Word) : ReadWhole 10 (.word name) := by
  refine of_operand rfl ?_
  intro fuel rest _ _ hword
  rw [List.nil_append, operandDerivation_identifier, hword.after?_leftParen,
    Word.ofName?_eq_some_iff.mpr rfl]
  rfl

theorem grouped {inner : Written} (h : ReadWhole 1 inner) : ReadWhole 10 (.grouped inner) := by
  refine of_operand rfl ?_
  intro fuel rest hfuel _ _
  rw [List.append_assoc, List.singleton_append] at hfuel ⊢
  have hinner : derivation fuel loosestLevel (inner.tokens ++ .rightParen :: rest) =
      some (inner, .rightParen :: rest) :=
    h.derivation_eq (by decide) (by omega) (stops_of_no_binding rfl)
      (endsWord_cons.mpr (by decide))
  rw [operandDerivation_leftParen, hinner]
  simp

end ReadWhole

/-! ## Arguments are read whole -/

section

variable {fuel : Nat} {rest : List Token} {list : List Written}

theorem derivation_rightParen (fuel level : Nat) (rest : List Token) :
    derivation fuel level (.rightParen :: rest) = none := by
  cases fuel with
  | zero => rfl
  | succ fuel => cases fuel <;> rfl

theorem argumentDerivationsFrom_complete (hne : list ≠ [])
    (h : ∀ argument ∈ list, ReadWhole 1 argument)
    (hfuel : 4 * (Written.listTokens list ++ .rightParen :: rest).length + 2 ≤ fuel) :
    argumentDerivationsFrom fuel (Written.listTokens list ++ .rightParen :: rest) =
      some (list, rest) := by
  induction list generalizing fuel with
  | nil => exact absurd rfl hne
  | cons first more ih =>
    obtain ⟨hfirst, hmore⟩ := List.forall_mem_cons.mp h
    obtain ⟨fuel, rfl⟩ : ∃ less, fuel = less + 1 := ⟨fuel - 1, by omega⟩
    rw [Written.listTokens, List.append_assoc] at hfuel ⊢
    cases more with
    | nil =>
      have hread : derivation fuel loosestLevel (first.tokens ++ .rightParen :: rest) =
          some (first, .rightParen :: rest) :=
        hfirst.derivation_eq (by decide) (by simpa [Written.moreTokens] using hfuel)
          (stops_of_no_binding rfl)
          (endsWord_cons.mpr (by decide))
      rw [argumentDerivationsFrom]
      simp [Written.moreTokens, hread, after?]
    | cons next others =>
      rw [Written.moreTokens_of_ne_nil (List.cons_ne_nil _ _), List.cons_append] at hfuel ⊢
      have hread : derivation fuel loosestLevel
          (first.tokens ++ .comma ::
            (Written.listTokens (next :: others) ++ .rightParen :: rest)) =
          some (first, .comma :: (Written.listTokens (next :: others) ++ .rightParen :: rest)) :=
        hfirst.derivation_eq (by decide) (by omega)
          (stops_of_no_binding rfl)
          (endsWord_cons.mpr (by decide))
      rw [List.length_append, List.length_cons] at hfuel
      have hothers := ih (List.cons_ne_nil _ _) hmore
        (by omega : 4 * (Written.listTokens (next :: others) ++ .rightParen :: rest).length + 2 ≤
          fuel)
      rw [argumentDerivationsFrom]
      simp [hread, hothers]

theorem argumentDerivations_complete (h : ∀ argument ∈ list, ReadWhole 1 argument)
    (hfuel : 4 * (Written.listTokens list ++ .rightParen :: rest).length + 3 ≤ fuel) :
    argumentDerivations fuel (Written.listTokens list ++ .rightParen :: rest) =
      some (list, rest) := by
  obtain ⟨fuel, rfl⟩ : ∃ less, fuel = less + 1 := ⟨fuel - 1, by omega⟩
  cases list with
  | nil => rfl
  | cons first more =>
    have hread := argumentDerivationsFrom_complete (List.cons_ne_nil first more) h
      (by omega : 4 * (Written.listTokens (first :: more) ++ .rightParen :: rest).length + 2 ≤ fuel)
    rw [argumentDerivations]
    cases hparen :
        after? .rightParen (Written.listTokens (first :: more) ++ .rightParen :: rest) with
    | none => exact hread
    | some afterParen =>
      -- No argument begins with a closing parenthesis.
      obtain ⟨less, rfl⟩ : ∃ less, fuel = less + 1 := ⟨fuel - 1, by omega⟩
      rw [after?_eq_some_iff.mp hparen, argumentDerivationsFrom, derivation_rightParen] at hread
      cases hread

end

theorem ReadWhole.call {function : Function} {arguments : List Written}
    (hcount : function.arity.admits arguments.length = true)
    (h : ∀ argument ∈ arguments, ReadWhole 1 argument) :
    ReadWhole 10 (.call function arguments) := by
  refine of_operand rfl ?_
  intro fuel rest hfuel _ _
  rw [List.cons_append, List.append_assoc, List.singleton_append] at hfuel ⊢
  rw [List.length_cons] at hfuel
  have hread : argumentDerivations fuel (Written.listTokens arguments ++ .rightParen :: rest) =
      some (arguments, rest) :=
    argumentDerivations_complete h (by omega)
  rw [operandDerivation_identifier]
  simp [hread, Function.resolve_eq_ok_iff.mpr ⟨rfl, hcount⟩, Except.toOption]

theorem Derives.readWhole {level : Nat} {written : Written} (h : Derives level written) :
    ReadWhole level written := by
  induction h with
  | looser _ ih => exact ih.looser
  | @choice left right _ _ ihleft ihright =>
    show ReadWhole BinaryOperator.coalesce.level (.binary .coalesce left right)
    exact .binary ihleft ihright
  | chain hop _ _ ihleft ihright =>
    obtain ⟨hne, rfl⟩ := mem_chained_iff.mp hop
    refine .binary ?_ ?_
    · rw [BinaryOperator.leftLevel, if_neg hne]
      exact ihleft
    · rw [BinaryOperator.rightLevel, if_neg hne]
      exact ihright
  | sign _ ih => exact .sign ih
  | member _ ih => exact .member ih
  | index _ _ ihbase ihposition => exact .index ihbase ihposition
  | integer value => exact .integer value
  | decimal h => exact .decimal h
  | string value => exact .string value
  | word name => exact .word name
  | grouped _ ih => exact .grouped ih
  | call hcount _ ih => exact .call hcount ih

/-! ## What is read and what is derived -/

section

variable {fuel : Nat} {tokens : List Token} {written other : Written}

/-- With enough fuel, exactly the derivation of some tokens is read from them. -/
theorem derivation_eq_some_iff (hfuel : 4 * tokens.length + 1 ≤ fuel) :
    derivation fuel loosestLevel tokens = some (written, []) ↔ written.DerivedFrom tokens := by
  constructor
  · intro h
    obtain ⟨htokens, hderives, -⟩ := (readsDerivations fuel).derivation hfuel (by decide) h
    exact ⟨hderives, by simpa using htokens.symm⟩
  · rintro ⟨hderives, rfl⟩
    have hread := hderives.readWhole.derivation_eq (by decide)
      (by simpa using hfuel : 4 * (written.tokens ++ []).length + 1 ≤ fuel) (stops_nil 1)
      endsWord_nil
    rwa [List.append_nil] at hread

theorem Written.DerivedFrom.unique (h : written.DerivedFrom tokens)
    (hother : other.DerivedFrom tokens) : other = written := by
  have hread := (derivation_eq_some_iff le_rfl).mpr h
  rw [(derivation_eq_some_iff le_rfl).mpr hother] at hread
  cases hread
  rfl

end

end DocumentMapping.Expression
