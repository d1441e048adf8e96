import DocumentMapping.Expression.Function
import DocumentMapping.Scalar

/-!
# Expressions

The syntax tree of value expressions and its written form. The binary operators have levels, of
which a higher one binds more tightly.
-/

namespace DocumentMapping

namespace Expression

/-- The inputs of an expression. -/
inductive Root where
  /-- The whole source document. -/
  | request
  /-- The innermost item of the source around the value. -/
  | item
  /-- The value that is mapped. -/
  | value
deriving DecidableEq, Repr, Inhabited

namespace Root

/-- The name of an input. -/
def name : Root → String
  | .request => "request"
  | .item => "item"
  | .value => "value"

/-- The input of a name. -/
def ofName? (name : String) : Option Root :=
  [Root.request, .item, .value].find? (·.name = name)

end Root

/-- Operators in front of their operand. -/
inductive UnaryOperator where
  | negate
  | not
deriving DecidableEq, Repr, Inhabited

/-- The symbol of an operator. -/
def UnaryOperator.symbol : UnaryOperator → Char
  | .negate => '-'
  | .not => '!'

/-- Operators between their operands. -/
inductive BinaryOperator where
  | add
  | subtract
  | multiply
  | divide
  | modulo
  | equal
  | notEqual
  | lessThan
  | lessThanOrEqual
  | greaterThan
  | greaterThanOrEqual
  | and
  | or
  | coalesce
deriving DecidableEq, Repr, Inhabited

namespace BinaryOperator

/-- The symbol of an operator. -/
def symbol : BinaryOperator → String
  | .add => "+"
  | .subtract => "-"
  | .multiply => "*"
  | .divide => "/"
  | .modulo => "%"
  | .equal => "=="
  | .notEqual => "!="
  | .lessThan => "<"
  | .lessThanOrEqual => "<="
  | .greaterThan => ">"
  | .greaterThanOrEqual => ">="
  | .and => "&&"
  | .or => "||"
  | .coalesce => "??"

/-- How tightly an operator binds, from one to seven. -/
def level : BinaryOperator → Nat
  | .coalesce => 1
  | .or => 2
  | .and => 3
  | .equal => 4
  | .notEqual => 4
  | .lessThan => 5
  | .lessThanOrEqual => 5
  | .greaterThan => 5
  | .greaterThanOrEqual => 5
  | .add => 6
  | .subtract => 6
  | .multiply => 7
  | .divide => 7
  | .modulo => 7

/-- The least level of the operators in the right operand: only the choice of a first value groups
to the right. -/
def rightLevel (op : BinaryOperator) : Nat :=
  if op = .coalesce then op.level else op.level + 1

end BinaryOperator

end Expression

/-- An expression. -/
inductive Expression where
  | literal (value : Scalar)
  | input (root : Expression.Root)
  /-- The property of a node under a name. -/
  | member (base : Expression) (name : String)
  /-- The item of an array or the property of an object that the index selects. -/
  | index (base position : Expression)
  | unary (op : Expression.UnaryOperator) (operand : Expression)
  | binary (op : Expression.BinaryOperator) (left right : Expression)
  | call (function : Expression.Function) (arguments : List Expression)
deriving Repr, Inhabited

namespace Expression

/-- A written literal. In a string only single quotes are marked. -/
def literalChars : Scalar → List Char
  | .string text =>
    '\'' :: (text.toList.flatMap fun c => if c = '\'' then ['\\', '\''] else [c]) ++ ['\'']
  | value => value.chars

/-- Texts with a comma and a blank between them. -/
def listed : List (List Char) → List Char
  | [] => []
  | [text] => text
  | text :: rest => text ++ ',' :: ' ' :: listed rest

mutual

/-- A written expression; every binary operator stands in parentheses. -/
def chars : Expression → List Char
  | .literal value => literalChars value
  | .input root => root.name.toList
  | .member base name => base.chars ++ '.' :: name.toList
  | .index base position => base.chars ++ '[' :: position.chars ++ [']']
  | .unary op operand => op.symbol :: operand.chars
  | .binary op left right =>
    '(' :: left.chars ++ ' ' :: op.symbol.toList ++ ' ' :: right.chars ++ [')']
  | .call function arguments =>
    function.name.toList ++ '(' :: listed (argumentChars arguments) ++ [')']

/-- Written arguments. -/
def argumentChars : List Expression → List (List Char)
  | [] => []
  | argument :: rest => argument.chars :: argumentChars rest

end

/-- The text of an expression. -/
def text (expression : Expression) : String :=
  String.ofList expression.chars

end Expression

end DocumentMapping
