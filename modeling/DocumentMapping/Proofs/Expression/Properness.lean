import DocumentMapping.Expression.Parser
import DocumentMapping.Proofs.Expression.Reading
import DocumentMapping.Proofs.Expression.Scanning
import DocumentMapping.Proofs.Number.DecimalReading

/-!
# Proper expressions

An expression that has been read is proper: its calls have as many arguments as their functions
admit, its literals are those that can be written, with an integer above the least one of 64 bits,
and no minus stands in front of a number literal. The tokens of a text already have integers of 64
bits from zero on and decimals for all other numbers, and every reader keeps to proper expressions.
-/

namespace DocumentMapping

/-! ## Decimals among the tokens -/

namespace Decimal

/-- A decimal that is not written as an integer of 64 bits. -/
def ExceedsIntegers (x : Decimal) : Prop :=
  1 ≤ x.scale ∨ 2 ^ 63 ≤ x.mantissa

variable {negative : Bool} {mantissa scale : Nat} {x : Decimal}

theorem exceedsIntegers_of_finishRounded {next : Char} {rest : List Char}
    (hnext : next.isDigit = true)
    (h : finishRounded negative mantissa scale next rest = some x)
    (hlarge : scale = 28 ∨ 2 ^ 64 ≤ mantissa) : x.ExceedsIntegers := by
  have hseparator : next ≠ '_' := ne_of_isDigit hnext (by decide)
  simp only [finishRounded, hseparator, if_false, digitValue?_of_isDigit hnext,
    Option.bind_eq_bind, Option.bind_some] at h
  split at h
  · cases h
  · split at h
    · obtain ⟨-, hmantissa, hscale⟩ := finish_eq_some h
      rw [ExceedsIntegers, hmantissa, hscale]
      omega
    · split at h
      · obtain ⟨-, hmantissa, hscale⟩ := finish_eq_some h
        rw [ExceedsIntegers, hmantissa, hscale]
        omega
      · split at h
        · cases h
        · obtain ⟨-, hmantissa, hscale⟩ := finish_eq_some h
          rw [ExceedsIntegers, hmantissa, hscale]
          omega

/-- A number with digits behind the point has places, or so many digits before it that the others
are rounded away. -/
theorem exceedsIntegers_of_places {digits : List Char} {seen : Bool}
    (hdigits : ∀ c ∈ digits, c.isDigit = true) (hplaces : 1 ≤ scale ∨ digits ≠ [])
    (h : readDigits negative ⟨mantissa, some scale, seen⟩ digits = some x) :
    x.ExceedsIntegers := by
  induction digits generalizing mantissa scale seen with
  | nil =>
    rw [readDigits] at h
    split at h
    · obtain ⟨-, -, hscale⟩ := finish_eq_some h
      exact .inl (by simpa [hscale] using hplaces)
    · cases h
  | cons c rest ih =>
    have hc := hdigits c List.mem_cons_self
    have hpoint : c ≠ '.' := ne_of_isDigit hc (by decide)
    have hseparator : c ≠ '_' := ne_of_isDigit hc (by decide)
    rw [readDigits, if_neg hpoint, if_neg hseparator, digitValue?_of_isDigit hc] at h
    dsimp only at h
    split at h
    · exact exceedsIntegers_of_finishRounded hc h (.inl rfl)
    · split at h
      · exact ih (fun c hc => hdigits c (.tail _ hc)) (.inl (Nat.le_add_left 1 scale)) h
      · rename_i hfull
        have hnine : c.toNat - '0'.toNat ≤ 9 := by
          have hle := (Char.isDigit_iff_toNat.mp hc).2
          have hnine : '9'.toNat = 57 := rfl
          have hzero : '0'.toNat = 48 := rfl
          omega
        exact exceedsIntegers_of_finishRounded hc h (.inr (by omega))

end Decimal

namespace Expression

/-- A token as it comes from a text. -/
def ProperToken : Token → Prop
  | .integer value => 0 ≤ value.toInt
  | .decimal text => ∀ x, Decimal.ofPositional? text.toList = some x → x.ExceedsIntegers
  | _ => True

theorem TakesNumber.properToken {digits fraction tail : List Char}
    (h : TakesNumber digits fraction tail) : ProperToken (numberToken (digits ++ fraction)) := by
  obtain ⟨c, more, rfl⟩ := List.exists_cons_of_ne_nil h.digits_ne_nil
  have hwhole : isDigits (c :: more) = true := isDigits_iff.mpr ⟨by simp, h.isDigit_of_mem⟩
  rw [numberToken_eq ⟨c, rfl, h.isDigit_of_mem c List.mem_cons_self⟩]
  split
  · rename_i hfits
    change 0 ≤ (Int64.ofInt _).toInt
    rw [Int64.toInt_ofInt_of_le (by omega) (by omega)]
    omega
  · rename_i hlarge
    intro x hread
    rw [String.toList_ofList] at hread
    have hsign := Decimal.ofPositional?_signChars false hwhole fraction
    rw [Double.signChars, if_neg Bool.false_ne_true, List.nil_append] at hsign
    rw [hsign, Decimal.readDigits_whole h.isDigit_of_mem _ _ (by decide)] at hread
    split at hread
    · obtain rfl | ⟨places, hne, hplaces, rfl⟩ := h.isFraction
      · rw [List.append_nil] at hlarge
        rw [Decimal.readDigits] at hread
        obtain ⟨-, hmantissa, -⟩ := Decimal.finish_eq_some hread
        rw [Nat.zero_mul, Nat.zero_add] at hmantissa
        exact .inr (by rw [hmantissa]; exact Nat.le_of_not_lt fun hlt => hlarge ⟨hwhole, hlt⟩)
      · rw [Decimal.readDigits] at hread
        exact Decimal.exceedsIntegers_of_places hplaces (.inr hne) hread
    · cases hread

theorem Reads.properToken {token : Token} {piece tail : List Char} (h : Reads token piece tail) :
    ProperToken token := by
  cases h with
  | sign hsign =>
    fun_cases scanSigns piece
    all_goals simp only [scanSigns, Option.some.injEq, Prod.mk.injEq, reduceCtorEq] at hsign
    all_goals obtain ⟨rfl, -⟩ := hsign; trivial
  | string => trivial
  | number htakes => exact htakes.properToken
  | word => trivial

/-- Lexemes whose tokens are proper. -/
def AllProper (lexemes : List Lexeme) : Prop :=
  ∀ lexeme ∈ lexemes, ProperToken lexeme.token

theorem Lexed.allProper {position : Nat} {text : List Char} {lexemes : List Lexeme}
    (h : Lexed position text lexemes) : AllProper lexemes := by
  induction h with
  | nil => nofun
  | blank _ _ ih => exact ih
  | token htoken _ ih => exact List.forall_mem_cons.mpr ⟨htoken.properToken, ih⟩

/-! ## Proper expressions -/

/-- A literal that can be written. -/
inductive ProperLiteral : Scalar → Prop
  | null : ProperLiteral .null
  | boolean (value : Bool) : ProperLiteral (.boolean value)
  | string (value : String) : ProperLiteral (.string value)
  | integer {value : Int64} (h : -2 ^ 63 < value.toInt) : ProperLiteral (.integer value)
  | decimal {value : Decimal} (h : value.ExceedsIntegers) : ProperLiteral (.decimal value)

/-- Whether an expression is a number literal. -/
def isNumber : Expression → Bool
  | .literal (.integer _) => true
  | .literal (.decimal _) => true
  | _ => false

/-- Expressions that can be read. -/
inductive Proper : Expression → Prop
  | literal {value : Scalar} (h : ProperLiteral value) : Proper (.literal value)
  | input (root : Root) : Proper (.input root)
  | member {base : Expression} (name : String) (h : Proper base) : Proper (.member base name)
  | index {base position : Expression} (hbase : Proper base) (hposition : Proper position) :
      Proper (.index base position)
  | negate {operand : Expression} (hnumber : operand.isNumber = false) (h : Proper operand) :
      Proper (.unary .negate operand)
  | not {operand : Expression} (h : Proper operand) : Proper (.unary .not operand)
  | binary {left right : Expression} (op : BinaryOperator) (hleft : Proper left)
      (hright : Proper right) : Proper (.binary op left right)
  | call {function : Function} {arguments : List Expression}
      (hcount : function.arity.admits arguments.length = true)
      (harguments : ∀ argument ∈ arguments, Proper argument) : Proper (.call function arguments)

mutual

/-- An expression and everything that it is put together of, at any depth. -/
def parts : Expression → List Expression
  | .literal value => [.literal value]
  | .input root => [.input root]
  | .member base name => .member base name :: base.parts
  | .index base position => .index base position :: (base.parts ++ position.parts)
  | .unary op operand => .unary op operand :: operand.parts
  | .binary op left right => .binary op left right :: (left.parts ++ right.parts)
  | .call function arguments => .call function arguments :: argumentParts arguments

/-- Arguments and everything that they are put together of. -/
def argumentParts : List Expression → List Expression
  | [] => []
  | argument :: rest => argument.parts ++ argumentParts rest

end

theorem mem_argumentParts_iff {part : Expression} {arguments : List Expression} :
    part ∈ argumentParts arguments ↔ ∃ argument ∈ arguments, part ∈ argument.parts := by
  induction arguments with
  | nil => simp [argumentParts]
  | cons argument rest ih => simp [argumentParts, ih]

/-- The parts of a proper expression are proper. -/
theorem Proper.of_mem_parts {expression : Expression} (h : Proper expression) :
    ∀ part ∈ expression.parts, Proper part := by
  induction h with
  | literal hvalue => exact List.forall_mem_singleton.mpr (.literal hvalue)
  | input root => exact List.forall_mem_singleton.mpr (.input root)
  | member name hbase ih => exact List.forall_mem_cons.mpr ⟨.member name hbase, ih⟩
  | index hbase hposition ihbase ihposition =>
    exact List.forall_mem_cons.mpr
      ⟨.index hbase hposition, List.forall_mem_append.mpr ⟨ihbase, ihposition⟩⟩
  | negate hnumber hoperand ih => exact List.forall_mem_cons.mpr ⟨.negate hnumber hoperand, ih⟩
  | not hoperand ih => exact List.forall_mem_cons.mpr ⟨.not hoperand, ih⟩
  | binary op hleft hright ihleft ihright =>
    exact List.forall_mem_cons.mpr
      ⟨.binary op hleft hright, List.forall_mem_append.mpr ⟨ihleft, ihright⟩⟩
  | call hcount harguments ih =>
    refine List.forall_mem_cons.mpr ⟨.call hcount harguments, fun part hpart => ?_⟩
    obtain ⟨argument, hmem, hpart⟩ := mem_argumentParts_iff.mp hpart
    exact ih argument hmem part hpart

theorem Proper.toInt_bounds {value : Int64} (h : Proper (.literal (.integer value))) :
    -(2 ^ 63 - 1) ≤ value.toInt ∧ value.toInt ≤ 2 ^ 63 - 1 := by
  cases h with
  | literal h =>
    cases h with
    | integer hleast =>
      have hgreatest := value.toInt_lt
      omega

/-- An integer literal of a proper expression is not the least integer, so its negation is exact. -/
theorem Proper.toInt_neg {value : Int64} (h : Proper (.literal (.integer value))) :
    (-value).toInt = -value.toInt := by
  obtain ⟨hleast, hgreatest⟩ := h.toInt_bounds
  rw [Int64.toInt_neg, Int.bmod_eq_of_le (by omega) (by omega)]

/-- The negation of a proper expression is proper. -/
theorem Proper.negated {operand : Expression} (h : Proper operand) :
    Proper (negated operand) := by
  unfold Expression.negated
  split
  · rename_i value
    refine .literal (.integer ?_)
    obtain ⟨hleast, hgreatest⟩ := h.toInt_bounds
    rw [h.toInt_neg]
    omega
  · cases h with
    | literal h =>
      cases h with
      | decimal hexceeds => exact .literal (.decimal hexceeds)
  · rename_i hinteger hdecimal
    refine .negate ?_ h
    unfold isNumber
    split
    · exact absurd rfl (hinteger _)
    · exact absurd rfl (hdecimal _)
    · rfl

theorem proper_of_wordMeaning? {name : String} {meaning : Expression}
    (h : wordMeaning? name = some meaning) : Proper meaning := by
  unfold wordMeaning? at h
  split at h
  · cases h
    exact .literal (.boolean true)
  · cases h
    exact .literal (.boolean false)
  · cases h
    exact .literal .null
  · obtain ⟨root, -, rfl⟩ := Option.map_eq_some_iff.mp h
    exact .input root

/-! ## Readers -/

/-- What is read has a property, and the lexemes behind it are proper. -/
def Obtains {α : Type} (P : α → Prop) (parsed : Parsed α) : Prop :=
  ∀ result rest, parsed = .ok (result, rest) → P result ∧ AllProper rest

section

variable {α β : Type} {P : α → Prop} {Q : β → Prop}

theorem obtains_error (stop : Stop) : Obtains P (.error stop : Parsed α) := nofun

theorem obtains_ok {result : α} {rest : List Lexeme} (hresult : P result) (hrest : AllProper rest) :
    Obtains P (.ok (result, rest)) := by
  rintro _ _ ⟨⟩
  exact ⟨hresult, hrest⟩

theorem Obtains.map {parsed : Parsed α} (h : Obtains P parsed) {change : α → β}
    (hchange : ∀ result, P result → Q (change result)) :
    Obtains Q (parsed.map fun (result, rest) => (change result, rest)) := by
  cases parsed with
  | error stop => exact obtains_error stop
  | ok found =>
    obtain ⟨hresult, hrest⟩ := h _ _ rfl
    exact obtains_ok (hchange _ hresult) hrest

end

theorem allProper_drop {lexemes : List Lexeme} (h : AllProper lexemes) (count : Nat) :
    AllProper (lexemes.drop count) :=
  fun lexeme hmem => h lexeme (List.mem_of_mem_drop hmem)

theorem allProper_of_closing {token : Token} {bracket : Char} {lexemes rest : List Lexeme}
    (hlexemes : AllProper lexemes) (h : closing token bracket lexemes = .ok rest) :
    AllProper rest := by
  unfold closing at h
  split at h
  · cases h
  · split at h
    · cases h
      exact allProper_drop hlexemes 1
    · cases h

theorem allProper_of_memberName {lexemes rest : List Lexeme} {name : String}
    (hlexemes : AllProper lexemes) (h : memberName lexemes = .ok (name, rest)) :
    AllProper rest := by
  unfold memberName at h
  split at h
  · cases h
  · split at h
    · cases h
      exact allProper_drop hlexemes 1
    · cases h
      exact allProper_drop hlexemes 1
    · cases h

/-- With this fuel, the readers keep to proper expressions. -/
structure ReadersProper (fuel : Nat) : Prop where
  expression (level : Nat) {lexemes : List Lexeme} (h : AllProper lexemes) :
    Obtains Proper (expression fuel level lexemes)
  operand {lexemes : List Lexeme} (h : AllProper lexemes) : Obtains Proper (operand fuel lexemes)
  operators (level : Nat) {left : Expression} (hleft : Proper left) {lexemes : List Lexeme}
    (h : AllProper lexemes) : Obtains Proper (operators fuel level left lexemes)
  arguments {lexemes : List Lexeme} (h : AllProper lexemes) :
    Obtains (∀ argument ∈ ·, Proper argument) (arguments fuel lexemes)
  argumentsFrom {lexemes : List Lexeme} (h : AllProper lexemes) :
    Obtains (∀ argument ∈ ·, Proper argument) (argumentsFrom fuel lexemes)

section

variable {fuel : Nat} (ih : ReadersProper fuel) {lexemes : List Lexeme}

include ih

theorem expression_proper (level : Nat) (h : AllProper lexemes) :
    Obtains Proper (expression (fuel + 1) level lexemes) := by
  rw [expression]
  cases hoperand : operand fuel lexemes with
  | error stop => exact obtains_error stop
  | ok found =>
    obtain ⟨hleft, hrest⟩ := ih.operand h _ _ hoperand
    exact ih.operators level hleft hrest

theorem operators_proper (level : Nat) {left : Expression} (hleft : Proper left)
    (h : AllProper lexemes) : Obtains Proper (operators (fuel + 1) level left lexemes) := by
  cases lexemes with
  | nil => exact obtains_ok hleft h
  | cons lexeme rest =>
    have hbehind : AllProper rest := allProper_drop h 1
    rw [operators]
    split
    · cases hname : memberName rest with
      | error stop => exact obtains_error stop
      | ok found =>
        exact ih.operators level (.member found.1 hleft) (allProper_of_memberName hbehind hname)
    · cases hposition : expression fuel loosestLevel rest with
      | error stop => exact obtains_error stop
      | ok found =>
        obtain ⟨hproper, hafter⟩ := ih.expression loosestLevel hbehind _ _ hposition
        dsimp only
        cases hclosing : closing .rightBracket ']' found.2 with
        | error stop => exact obtains_error stop
        | ok rest =>
          exact ih.operators level (.index hleft hproper) (allProper_of_closing hafter hclosing)
    · rename_i op _
      split
      · cases hright : expression fuel op.rightLevel rest with
        | error stop => exact obtains_error stop
        | ok found =>
          obtain ⟨hproper, hafter⟩ := ih.expression op.rightLevel hbehind _ _ hright
          exact ih.operators level (.binary op hleft hproper) hafter
      · exact obtains_ok hleft h
    · exact obtains_ok hleft h

theorem operand_proper (h : AllProper lexemes) : Obtains Proper (operand (fuel + 1) lexemes) := by
  cases lexemes with
  | nil => exact obtains_error _
  | cons lexeme rest =>
    obtain ⟨token, text, position⟩ := lexeme
    have htoken : ProperToken token := h _ List.mem_cons_self
    have hbehind : AllProper rest := allProper_drop h 1
    cases token with
    | integer value =>
      have hnonneg : 0 ≤ value.toInt := htoken
      exact obtains_ok (.literal (.integer (by omega))) hbehind
    | decimal number =>
      rw [operand_decimal]
      split
      · rename_i value hvalue
        exact obtains_ok (.literal (.decimal (htoken value hvalue))) hbehind
      · exact obtains_error _
    | string value => exact obtains_ok (.literal (.string value)) hbehind
    | leftParen =>
      rw [operand_leftParen]
      cases hinner : expression fuel loosestLevel rest with
      | error stop => exact obtains_error stop
      | ok found =>
        obtain ⟨hproper, hafter⟩ := ih.expression loosestLevel hbehind _ _ hinner
        dsimp only
        cases hclosing : closing .rightParen ')' found.2 with
        | error stop => exact obtains_error stop
        | ok rest => exact obtains_ok hproper (allProper_of_closing hafter hclosing)
    | operator op =>
      cases op with
      | subtract => exact (ih.expression unaryLevel hbehind).map fun _ => Proper.negated
      | _ => exact obtains_error _
    | not => exact (ih.expression unaryLevel hbehind).map fun _ => .not
    | identifier name =>
      rw [operand_identifier]
      split
      · cases harguments : arguments fuel (rest.drop 1) with
        | error stop => exact obtains_error stop
        | ok found =>
          obtain ⟨hproper, hafter⟩ := ih.arguments (allProper_drop hbehind 1) _ _ harguments
          dsimp only
          cases hresolve : Function.resolve name found.1.length with
          | error problem => exact obtains_error _
          | ok function =>
            exact obtains_ok (.call (Function.resolve_eq_ok_iff.mp hresolve).2 hproper) hafter
      · split
        · rename_i meaning hmeaning
          exact obtains_ok (proper_of_wordMeaning? hmeaning) hbehind
        · exact obtains_error _
    | _ => exact obtains_error _

theorem arguments_proper (h : AllProper lexemes) :
    Obtains (∀ argument ∈ ·, Proper argument) (arguments (fuel + 1) lexemes) := by
  rw [arguments]
  split
  · exact obtains_ok (List.forall_mem_nil _) (allProper_drop h 1)
  · exact ih.argumentsFrom h

theorem argumentsFrom_proper (h : AllProper lexemes) :
    Obtains (∀ argument ∈ ·, Proper argument) (argumentsFrom (fuel + 1) lexemes) := by
  rw [argumentsFrom]
  cases hfirst : expression fuel loosestLevel lexemes with
  | error stop => exact obtains_error stop
  | ok found =>
    obtain ⟨hproper, hrest⟩ := ih.expression loosestLevel h _ _ hfirst
    dsimp only
    split
    · exact (ih.argumentsFrom (allProper_drop hrest 1)).map fun more hmore =>
        List.forall_mem_cons.mpr ⟨hproper, hmore⟩
    · split
      · exact obtains_ok (by simpa using hproper) (allProper_drop hrest 1)
      · exact obtains_error _

end

theorem readersProper (fuel : Nat) : ReadersProper fuel := by
  induction fuel with
  | zero =>
    refine ⟨fun _ _ _ => obtains_error _, fun {lexemes} _ => ?_, fun _ _ hleft lexemes h => ?_,
      fun _ => obtains_error _, fun _ => obtains_error _⟩
    · cases lexemes <;> exact obtains_error _
    · cases lexemes <;> exact obtains_ok hleft h
  | succ fuel ih =>
    exact {
      expression := fun level _ => expression_proper ih level
      operand := operand_proper ih
      operators := fun level _ hleft _ => operators_proper ih level hleft
      arguments := arguments_proper ih
      argumentsFrom := argumentsFrom_proper ih }

theorem proper_of_ofLexemes {lexemes : List Lexeme} {result : Expression}
    (hlexemes : AllProper lexemes) (h : ofLexemes lexemes = .ok result) : Proper result := by
  unfold ofLexemes at h
  split at h
  · cases h
  · split at h
    · cases h
    · rename_i hread
      cases h
      exact ((readersProper _).expression loosestLevel hlexemes _ _ hread).1
    · cases h

/-- An expression that is read is proper. -/
theorem proper_of_read {source : String} {result : Expression} (h : read source = .ok result) :
    Proper result := by
  unfold read at h
  split at h
  · cases h
  · rename_i lexemes htokens
    have hlexemes : AllProper lexemes := (tokensFrom_eq_ok_iff.mp htokens).allProper
    cases hread : ofLexemes lexemes with
    | error stop =>
      rw [hread] at h
      cases h
    | ok found =>
      rw [hread] at h
      cases h
      exact proper_of_ofLexemes hlexemes hread

end Expression

end DocumentMapping
