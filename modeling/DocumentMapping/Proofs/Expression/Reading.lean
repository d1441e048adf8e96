import DocumentMapping.Proofs.Expression.Derivation

/-!
# Reading expressions follows their grammar

The reader of expressions takes the same tokens as the reader of derivations, and gives what the
derivation denotes. So lexemes are read as an expression exactly when their tokens have a
derivation, which is then the only one.
-/

namespace DocumentMapping.Expression

/-! ## The reader of expressions and the reader of derivations -/

/-- The tokens of lexemes. -/
def tokensOf (lexemes : List Lexeme) : List Token :=
  lexemes.map Lexeme.token

/-- Both readers stop, or both take the same tokens and the one result is the value of the other. -/
inductive Agrees {α β : Type} (value : β → α) (parsed : Parsed α)
    (derived : Option (β × List Token)) : Prop
  | stopped (stop : Stop) (hparsed : parsed = .error stop) (hderived : derived = none)
  | taken (found : β) (rest : List Lexeme) (hparsed : parsed = .ok (value found, rest))
      (hderived : derived = some (found, tokensOf rest))

theorem Agrees.map {α β γ δ : Type} {value : β → α} {other : δ → γ} {parsed : Parsed α}
    {derived : Option (β × List Token)} (h : Agrees value parsed derived) {change : α → γ}
    {build : β → δ} (hbuild : ∀ found, change (value found) = other (build found)) :
    Agrees other (parsed.map fun (result, rest) => (change result, rest))
      (derived.bind fun (found, rest) => some (build found, rest)) := by
  cases h with
  | stopped stop hparsed hderived =>
    exact .stopped stop (by rw [hparsed]; rfl) (by rw [hderived]; rfl)
  | taken found rest hparsed hderived =>
    refine .taken (build found) rest ?_ (by rw [hderived]; rfl)
    rw [hparsed, ← hbuild]
    rfl

theorem startsWith_iff {token : Token} {lexemes : List Lexeme} :
    startsWith token lexemes = true ↔
      after? token (tokensOf lexemes) = some (tokensOf (lexemes.drop 1)) := by
  cases lexemes with
  | nil => simp [startsWith, after?, tokensOf]
  | cons lexeme rest => simp [startsWith, after?, tokensOf]

theorem after?_eq_none_of_not_startsWith {token : Token} {lexemes : List Lexeme}
    (h : ¬startsWith token lexemes = true) : after? token (tokensOf lexemes) = none := by
  cases lexemes with
  | nil => rfl
  | cons lexeme rest => simpa [startsWith, after?, tokensOf] using h

theorem closing_agrees (token : Token) (bracket : Char) (lexemes : List Lexeme) :
    (∃ stop, closing token bracket lexemes = .error stop ∧
        after? token (tokensOf lexemes) = none) ∨
      ∃ rest, closing token bracket lexemes = .ok rest ∧
        after? token (tokensOf lexemes) = some (tokensOf rest) := by
  cases lexemes with
  | nil => exact .inl ⟨_, rfl, rfl⟩
  | cons lexeme rest =>
    by_cases htoken : lexeme.token = token
    · exact .inr ⟨rest, if_pos htoken, if_pos htoken⟩
    · exact .inl ⟨_, if_neg htoken, if_neg htoken⟩

theorem memberName_agrees (lexemes : List Lexeme) :
    Agrees WrittenName.value (memberName lexemes) (writtenName? (tokensOf lexemes)) := by
  cases lexemes with
  | nil => exact .stopped _ rfl rfl
  | cons lexeme rest =>
    obtain ⟨token, text, position⟩ := lexeme
    cases token with
    | identifier name => exact .taken (.bare name) rest rfl rfl
    | string name => exact .taken (.quoted name) rest rfl rfl
    | _ => exact .stopped _ rfl rfl

theorem Root.ofName?_eq_some_iff {name : String} {root : Root} :
    Root.ofName? name = some root ↔ root.name = name := by
  constructor
  · intro h
    simpa using List.find?_some h
  · rintro rfl
    cases root <;> decide

theorem wordMeaning?_eq (name : String) :
    wordMeaning? name = (Word.ofName? name).map Word.tree := by
  unfold wordMeaning?
  split
  · rfl
  · rfl
  · rfl
  · rename_i htrue hfalse hnull
    cases hroot : Root.ofName? name with
    | some root =>
      have hname : (Word.input root).name = name := Root.ofName?_eq_some_iff.mp hroot
      rw [Word.ofName?_eq_some_iff.mpr hname]
      rfl
    | none =>
      cases hword : Word.ofName? name with
      | none => rfl
      | some word =>
        obtain rfl := Word.ofName?_eq_some_iff.mp hword
        cases word with
        | true => exact absurd rfl htrue
        | false => exact absurd rfl hfalse
        | null => exact absurd rfl hnull
        | input root =>
          have hsome : Root.ofName? (Word.input root).name = some root :=
            Root.ofName?_eq_some_iff.mpr rfl
          rw [hsome] at hroot
          cases hroot

theorem trees_length (list : List Written) : (Written.trees list).length = list.length := by
  induction list with
  | nil => rfl
  | cons first rest ih => simp [Written.trees, ih]

section

variable (fuel : Nat) (rest : List Lexeme) (text : List Char) (position : Nat)

theorem operand_decimal (number : String) :
    operand (fuel + 1) (⟨.decimal number, text, position⟩ :: rest) =
      match Decimal.ofPositional? number.toList with
      | some value => .ok (.literal (.decimal value), rest)
      | none => .error ⟨.invalidNumber number, ⟨.decimal number, text, position⟩ :: rest⟩ :=
  rfl

theorem operand_leftParen :
    operand (fuel + 1) (⟨.leftParen, text, position⟩ :: rest) =
      match expression fuel loosestLevel rest with
      | .error stop => .error stop
      | .ok (inner, rest) => (closing .rightParen ')' rest).map (inner, ·) :=
  rfl

theorem operand_identifier (name : String) :
    operand (fuel + 1) (⟨.identifier name, text, position⟩ :: rest) =
      if startsWith .leftParen rest then
        match arguments fuel (rest.drop 1) with
        | .error stop => .error stop
        | .ok (list, after) =>
          match Function.resolve name list.length with
          | .ok function => .ok (.call function list, after)
          | .error problem => .error ⟨.call problem, ⟨.identifier name, text, position⟩ :: rest⟩
      else
        match wordMeaning? name with
        | some meaning => .ok (meaning, rest)
        | none => .error ⟨.unknownIdentifier name, ⟨.identifier name, text, position⟩ :: rest⟩ :=
  rfl

end

/-- With this fuel, the readers agree. -/
structure ReadersAgree (fuel : Nat) : Prop where
  expression (level : Nat) (lexemes : List Lexeme) :
    Agrees Written.tree (expression fuel level lexemes) (derivation fuel level (tokensOf lexemes))
  operand (lexemes : List Lexeme) :
    Agrees Written.tree (operand fuel lexemes) (operandDerivation fuel (tokensOf lexemes))
  operators (level : Nat) (left : Written) (lexemes : List Lexeme) :
    Agrees Written.tree (operators fuel level left.tree lexemes)
      (extension fuel level left (tokensOf lexemes))
  arguments (lexemes : List Lexeme) :
    Agrees Written.trees (arguments fuel lexemes) (argumentDerivations fuel (tokensOf lexemes))
  argumentsFrom (lexemes : List Lexeme) :
    Agrees Written.trees (argumentsFrom fuel lexemes)
      (argumentDerivationsFrom fuel (tokensOf lexemes))

section

variable {fuel : Nat} (ih : ReadersAgree fuel)

include ih

theorem expression_agrees (level : Nat) (lexemes : List Lexeme) :
    Agrees Written.tree (expression (fuel + 1) level lexemes)
      (derivation (fuel + 1) level (tokensOf lexemes)) := by
  rw [expression, derivation]
  cases ih.operand lexemes with
  | stopped stop hparsed hderived =>
    rw [hparsed, hderived]
    exact .stopped stop rfl rfl
  | taken left rest hparsed hderived =>
    rw [hparsed, hderived]
    exact ih.operators level left rest

theorem operators_agrees (level : Nat) (left : Written) (lexemes : List Lexeme) :
    Agrees Written.tree (operators (fuel + 1) level left.tree lexemes)
      (extension (fuel + 1) level left (tokensOf lexemes)) := by
  cases lexemes with
  | nil => exact .taken left [] rfl rfl
  | cons lexeme rest =>
    obtain ⟨token, text, position⟩ := lexeme
    rw [tokensOf, List.map_cons, ← tokensOf]
    cases token with
    | dot =>
      rw [operators, extension]
      cases memberName_agrees rest with
      | stopped stop hparsed hderived =>
        rw [hderived]
        exact .stopped stop (by simp [hparsed]) rfl
      | taken name rest hparsed hderived =>
        rw [hderived]
        simp only [hparsed]
        exact ih.operators level (.member left name) rest
    | leftBracket =>
      rw [operators, extension]
      cases ih.expression loosestLevel rest with
      | stopped stop hparsed hderived =>
        rw [hderived]
        exact .stopped stop (by simp [hparsed]) rfl
      | taken position rest hparsed hderived =>
        rw [hderived]
        simp only [hparsed]
        obtain ⟨stop, hclosing, hafter⟩ | ⟨rest, hclosing, hafter⟩ :=
          closing_agrees .rightBracket ']' rest
        · exact .stopped stop (by simp [hclosing]) (by simp [hafter])
        · simp only [hclosing, hafter, Option.bind_eq_bind, Option.bind_some]
          exact ih.operators level (.index left position) rest
    | operator op =>
      rw [operators, extension]
      by_cases hle : level ≤ op.level
      · simp only [if_pos hle]
        cases ih.expression op.rightLevel rest with
        | stopped stop hparsed hderived =>
          rw [hderived]
          exact .stopped stop (by simp [hparsed]) rfl
        | taken right rest hparsed hderived =>
          rw [hderived]
          simp only [hparsed]
          exact ih.operators level (.binary op left right) rest
      · simp only [if_neg hle]
        exact .taken left _ rfl rfl
    | _ => exact .taken left _ rfl rfl

theorem operand_agrees (lexemes : List Lexeme) :
    Agrees Written.tree (operand (fuel + 1) lexemes)
      (operandDerivation (fuel + 1) (tokensOf lexemes)) := by
  cases lexemes with
  | nil => exact .stopped _ rfl rfl
  | cons lexeme rest =>
    obtain ⟨token, text, position⟩ := lexeme
    rw [tokensOf, List.map_cons, ← tokensOf]
    cases token with
    | integer value => exact .taken (.integer value) rest rfl rfl
    | decimal text =>
      rw [operand_decimal, operandDerivation_decimal]
      cases hvalue : Decimal.ofPositional? text.toList with
      | none => exact .stopped _ rfl rfl
      | some value => exact .taken (.decimal text value) rest rfl rfl
    | string value => exact .taken (.string value) rest rfl rfl
    | leftParen =>
      rw [operand_leftParen, operandDerivation_leftParen]
      cases ih.expression loosestLevel rest with
      | stopped stop hparsed hderived =>
        rw [hderived]
        exact .stopped stop (by simp [hparsed]) rfl
      | taken inner rest hparsed hderived =>
        rw [hderived]
        simp only [hparsed]
        obtain ⟨stop, hclosing, hafter⟩ | ⟨rest, hclosing, hafter⟩ :=
          closing_agrees .rightParen ')' rest
        · exact .stopped stop (by rw [hclosing]; rfl) (by simp [hafter])
        · exact .taken (.grouped inner) rest (by rw [hclosing]; rfl) (by simp [hafter])
    | operator op =>
      cases op with
      | subtract => exact (ih.expression unaryLevel rest).map fun _ => rfl
      | _ => exact .stopped _ rfl rfl
    | not => exact (ih.expression unaryLevel rest).map fun _ => rfl
    | identifier name =>
      rw [operand_identifier, operandDerivation_identifier]
      by_cases hparen : startsWith .leftParen rest = true
      · simp only [if_pos hparen, startsWith_iff.mp hparen]
        cases ih.arguments (rest.drop 1) with
        | stopped stop hparsed hderived =>
          exact .stopped stop (by rw [hparsed]) (by rw [hderived]; rfl)
        | taken list after hparsed hderived =>
          rw [hparsed, hderived]
          simp only [trees_length]
          cases hfunction : Function.resolve name list.length with
          | error problem => exact .stopped _ rfl (by simp [hfunction, Except.toOption])
          | ok function =>
            exact .taken (.call function list) after rfl (by simp [hfunction, Except.toOption])
      · simp only [if_neg hparen, after?_eq_none_of_not_startsWith hparen, wordMeaning?_eq]
        cases hword : Word.ofName? name with
        | none => exact .stopped _ rfl rfl
        | some word => exact .taken (.word word) rest rfl rfl
    | _ => exact .stopped _ rfl rfl

theorem arguments_agrees (lexemes : List Lexeme) :
    Agrees Written.trees (arguments (fuel + 1) lexemes)
      (argumentDerivations (fuel + 1) (tokensOf lexemes)) := by
  rw [arguments, argumentDerivations]
  by_cases hparen : startsWith .rightParen lexemes = true
  · rw [if_pos hparen, startsWith_iff.mp hparen]
    exact .taken [] _ rfl rfl
  · rw [if_neg hparen, after?_eq_none_of_not_startsWith hparen]
    exact ih.argumentsFrom lexemes

theorem argumentsFrom_agrees (lexemes : List Lexeme) :
    Agrees Written.trees (argumentsFrom (fuel + 1) lexemes)
      (argumentDerivationsFrom (fuel + 1) (tokensOf lexemes)) := by
  rw [argumentsFrom, argumentDerivationsFrom]
  cases ih.expression loosestLevel lexemes with
  | stopped stop hparsed hderived =>
    rw [hparsed, hderived]
    exact .stopped stop rfl rfl
  | taken first rest hparsed hderived =>
    rw [hparsed, hderived]
    by_cases hcomma : startsWith .comma rest = true
    · simp only [if_pos hcomma, startsWith_iff.mp hcomma, Option.bind_eq_bind, Option.bind_some]
      exact (ih.argumentsFrom (rest.drop 1)).map fun _ => rfl
    · simp only [if_neg hcomma, after?_eq_none_of_not_startsWith hcomma, Option.bind_eq_bind,
        Option.bind_some]
      by_cases hparen : startsWith .rightParen rest = true
      · rw [if_pos hparen, startsWith_iff.mp hparen]
        exact .taken [first] _ rfl rfl
      · rw [if_neg hparen, after?_eq_none_of_not_startsWith hparen]
        exact .stopped _ rfl rfl

end

theorem readersAgree (fuel : Nat) : ReadersAgree fuel := by
  induction fuel with
  | zero =>
    refine ⟨?_, ?_, ?_, ?_, ?_⟩
    · exact fun level lexemes => .stopped _ rfl rfl
    · intro lexemes
      cases lexemes with
      | nil => exact .stopped _ rfl rfl
      | cons lexeme rest => exact .stopped _ rfl rfl
    · intro level left lexemes
      cases lexemes with
      | nil => exact .taken left [] rfl rfl
      | cons lexeme rest => exact .taken left (lexeme :: rest) rfl rfl
    · exact fun lexemes => .stopped _ rfl rfl
    · exact fun lexemes => .stopped _ rfl rfl
  | succ fuel ih =>
    exact {
      expression := expression_agrees ih
      operand := operand_agrees ih
      operators := operators_agrees ih
      arguments := arguments_agrees ih
      argumentsFrom := argumentsFrom_agrees ih }

/-! ## Expressions and derivations -/

/-- The reader of expressions succeeds where the one of derivations leaves no token. -/
theorem ofLexemes_eq_ok_iff_derivation {lexemes : List Lexeme} {result : Expression} :
    ofLexemes lexemes = .ok result ↔
      ∃ written : Written, written.tree = result ∧
        derivation (4 * lexemes.length + 4) loosestLevel (tokensOf lexemes) =
          some (written, []) := by
  cases lexemes with
  | nil =>
    have hnone : derivation 4 loosestLevel (tokensOf []) = none := rfl
    simp [ofLexemes, hnone]
  | cons lexeme rest =>
    rw [ofLexemes]
    · cases (readersAgree (4 * (lexeme :: rest).length + 4)).expression loosestLevel
          (lexeme :: rest) with
      | stopped stop hparsed hderived =>
        rw [hparsed, hderived]
        simp
      | taken found after hparsed hderived =>
        rw [hparsed, hderived]
        cases after with
        | nil => simp [tokensOf]
        | cons next others => simp [tokensOf]
    · exact List.cons_ne_nil lexeme rest

/-- Lexemes are read as an expression exactly when they follow the grammar: they are read if and
only if their tokens have a derivation, they have no other one, and the expression is what the
derivation denotes. -/
theorem ofLexemes_follows_grammar (lexemes : List Lexeme) :
    ((∃ result, ofLexemes lexemes = .ok result) ↔
        ∃ written : Written, written.DerivedFrom (lexemes.map Lexeme.token)) ∧
      ∀ written : Written, written.DerivedFrom (lexemes.map Lexeme.token) →
        ofLexemes lexemes = .ok written.tree ∧
          ∀ other : Written, other.DerivedFrom (lexemes.map Lexeme.token) → other = written := by
  have hread : ∀ {result : Expression}, ofLexemes lexemes = .ok result ↔
      ∃ written : Written, written.tree = result ∧ written.DerivedFrom (tokensOf lexemes) := by
    intro result
    rw [ofLexemes_eq_ok_iff_derivation]
    simp only [derivation_eq_some_iff (by simp [tokensOf] :
      4 * (tokensOf lexemes).length + 1 ≤ 4 * lexemes.length + 4)]
  refine ⟨⟨?_, ?_⟩, ?_⟩
  · rintro ⟨result, hresult⟩
    obtain ⟨written, -, hderived⟩ := hread.mp hresult
    exact ⟨written, hderived⟩
  · rintro ⟨written, hderived⟩
    exact ⟨written.tree, hread.mpr ⟨written, rfl, hderived⟩⟩
  · intro written hderived
    exact ⟨hread.mpr ⟨written, rfl, hderived⟩, fun other hother => hderived.unique hother⟩

end DocumentMapping.Expression
