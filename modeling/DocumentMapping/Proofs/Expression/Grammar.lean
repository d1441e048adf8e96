import Mathlib.Tactic.FinCases
import DocumentMapping.Expression.Parser

/-!
# The grammar of expressions

An expression is a choice of a first value. The levels below it, from the loosest to the tightest,
are:

    choice     := or | or "??" choice
    or         := or "||" and | and
    and        := and "&&" equality | equality
    equality   := equality ( "==" | "!=" ) comparison | comparison
    comparison := comparison ( "<" | "<=" | ">" | ">=" ) sum | sum
    sum        := sum ( "+" | "-" ) product | product
    product    := product ( "*" | "/" | "%" ) sign | sign
    sign       := ( "-" | "!" ) sign | postfix
    postfix    := postfix "." ( name | quoted ) | postfix "[" choice "]" | primary
    primary    := integer | decimal | quoted | word | "(" choice ")"
                | function "(" ( choice ( "," choice )* )? ")"

A derivation is a tree of this grammar, independent of how tokens are read. It has the tokens that
it consists of, and it denotes an expression.
-/

namespace DocumentMapping.Expression

/-! ## Derivations -/

/-- A word that is an operand by itself. -/
inductive Word where
  | true
  | false
  | null
  | input (root : Root)
deriving DecidableEq

namespace Word

/-- How a word is written. -/
def name : Word → String
  | .true => "true"
  | .false => "false"
  | .null => "null"
  | .input root => root.name

/-- What a word denotes. -/
def tree : Word → Expression
  | .true => .literal (.boolean Bool.true)
  | .false => .literal (.boolean Bool.false)
  | .null => .literal .null
  | .input root => .input root

/-- All words. -/
def all : List Word :=
  [.true, .false, .null, .input .request, .input .item, .input .value]

end Word

/-- A written name of a member: as it is, or in quotes. -/
inductive WrittenName where
  | bare (name : String)
  | quoted (name : String)

namespace WrittenName

/-- The token of a name. -/
def token : WrittenName → Token
  | .bare name => .identifier name
  | .quoted name => .string name

/-- The name that is meant. -/
def value : WrittenName → String
  | .bare name => name
  | .quoted name => name

end WrittenName

/-- The token of an operator in front of an operand. -/
def UnaryOperator.token : UnaryOperator → Token
  | .negate => .operator .subtract
  | .not => .not

/-- A derivation. A decimal is given with its value. -/
inductive Written where
  | integer (value : Int64)
  | decimal (text : String) (value : Decimal)
  | string (value : String)
  | word (name : Word)
  | grouped (inner : Written)
  | call (function : Function) (arguments : List Written)
  | member (base : Written) (name : WrittenName)
  | index (base position : Written)
  | unary (op : UnaryOperator) (operand : Written)
  | binary (op : BinaryOperator) (left right : Written)

namespace Written

mutual

/-- The tokens of a derivation. -/
def tokens : Written → List Token
  | .integer value => [.integer value]
  | .decimal text _ => [.decimal text]
  | .string value => [.string value]
  | .word name => [.identifier name.name]
  | .grouped inner => .leftParen :: (inner.tokens ++ [.rightParen])
  | .call function arguments =>
    .identifier function.name :: .leftParen :: (listTokens arguments ++ [.rightParen])
  | .member base name => base.tokens ++ [.dot, name.token]
  | .index base position => base.tokens ++ .leftBracket :: (position.tokens ++ [.rightBracket])
  | .unary op operand => op.token :: operand.tokens
  | .binary op left right => left.tokens ++ .operator op :: right.tokens

/-- The tokens of arguments with commas between them. -/
def listTokens : List Written → List Token
  | [] => []
  | first :: rest => first.tokens ++ moreTokens rest

/-- The tokens of further arguments, each after a comma. -/
def moreTokens : List Written → List Token
  | [] => []
  | next :: rest => .comma :: next.tokens ++ moreTokens rest

end

mutual

/-- The expression that a derivation denotes. A minus in front of a number literal is part of it. -/
def tree : Written → Expression
  | .integer value => .literal (.integer value)
  | .decimal _ value => .literal (.decimal value)
  | .string value => .literal (.string value)
  | .word name => name.tree
  | .grouped inner => inner.tree
  | .call function arguments => .call function (trees arguments)
  | .member base name => .member base.tree name.value
  | .index base position => .index base.tree position.tree
  | .unary .negate operand =>
    match operand.tree with
    | .literal (.integer value) => .literal (.integer (-value))
    | .literal (.decimal value) => .literal (.decimal value.neg)
    | denoted => .unary .negate denoted
  | .unary .not operand => .unary .not operand.tree
  | .binary op left right => .binary op left.tree right.tree

/-- The expressions that arguments denote. -/
def trees : List Written → List Expression
  | [] => []
  | argument :: rest => argument.tree :: trees rest

end

end Written

/-! ## Levels -/

/-- The operators of a level that group to the left. -/
def chained : Nat → List BinaryOperator
  | 2 => [.or]
  | 3 => [.and]
  | 4 => [.equal, .notEqual]
  | 5 => [.lessThan, .lessThanOrEqual, .greaterThan, .greaterThanOrEqual]
  | 6 => [.add, .subtract]
  | 7 => [.multiply, .divide, .modulo]
  | _ => []

/-- The derivations of each level. The levels of the grammar are counted from one, which is a
choice, to ten, which is a primary. -/
inductive Derives : Nat → Written → Prop
  | looser {level : Nat} {written : Written} (h : Derives (level + 1) written) :
      Derives level written
  | choice {left right : Written} (hleft : Derives 2 left) (hright : Derives 1 right) :
      Derives 1 (.binary .coalesce left right)
  | chain {level : Nat} {op : BinaryOperator} {left right : Written} (hop : op ∈ chained level)
      (hleft : Derives level left) (hright : Derives (level + 1) right) :
      Derives level (.binary op left right)
  | sign {op : UnaryOperator} {operand : Written} (h : Derives 8 operand) :
      Derives 8 (.unary op operand)
  | member {base : Written} {name : WrittenName} (h : Derives 9 base) :
      Derives 9 (.member base name)
  | index {base position : Written} (hbase : Derives 9 base) (hposition : Derives 1 position) :
      Derives 9 (.index base position)
  | integer (value : Int64) : Derives 10 (.integer value)
  | decimal {text : String} {value : Decimal} (h : Decimal.ofPositional? text.toList = some value) :
      Derives 10 (.decimal text value)
  | string (value : String) : Derives 10 (.string value)
  | word (name : Word) : Derives 10 (.word name)
  | grouped {inner : Written} (h : Derives 1 inner) : Derives 10 (.grouped inner)
  | call {function : Function} {arguments : List Written}
      (hcount : function.arity.admits arguments.length = true)
      (harguments : ∀ argument ∈ arguments, Derives 1 argument) :
      Derives 10 (.call function arguments)

/-- A derivation of an expression that consists of some tokens. -/
def Written.DerivedFrom (written : Written) (tokens : List Token) : Prop :=
  Derives 1 written ∧ written.tokens = tokens

/-! ## Levels and how tightly operators bind -/

theorem Derives.loosen {level looser : Nat} {written : Written} (h : Derives level written)
    (hle : looser ≤ level) : Derives looser written := by
  induction hle with
  | refl => exact h
  | step _ ih => exact ih h.looser

theorem mem_chained_iff {level : Nat} {op : BinaryOperator} :
    op ∈ chained level ↔ op ≠ .coalesce ∧ op.level = level := by
  constructor
  · intro h
    unfold chained at h
    split at h <;> fin_cases h <;> exact ⟨by decide, rfl⟩
  · rintro ⟨hne, rfl⟩
    cases op with
    | coalesce => exact absurd rfl hne
    | _ => decide

/-- The level that the left operand of an operator must have. -/
def BinaryOperator.leftLevel (op : BinaryOperator) : Nat :=
  if op = .coalesce then 2 else op.level

theorem Derives.binary {op : BinaryOperator} {left right : Written}
    (hleft : Derives op.leftLevel left) (hright : Derives op.rightLevel right) :
    Derives op.level (.binary op left right) := by
  by_cases hop : op = .coalesce
  · subst hop
    exact .choice hleft hright
  · rw [BinaryOperator.leftLevel, if_neg hop] at hleft
    rw [BinaryOperator.rightLevel, if_neg hop] at hright
    exact .chain (mem_chained_iff.mpr ⟨hop, rfl⟩) hleft hright

theorem BinaryOperator.one_le_level (op : BinaryOperator) : 1 ≤ op.level := by
  cases op <;> decide

theorem BinaryOperator.level_le_seven (op : BinaryOperator) : op.level ≤ 7 := by
  cases op <;> decide

end DocumentMapping.Expression
