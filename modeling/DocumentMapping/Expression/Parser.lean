import DocumentMapping.Expression.Token
import DocumentMapping.Number.DecimalText

/-!
# Reading expressions

An expression is an operand followed by operators. Only operators of at least the asked level are
taken, so the right operand of an operator ends where a looser one follows. A member name or an
index after an operand binds most tightly, then a minus or an exclamation mark in front. A minus in
front of a number literal becomes part of the literal.

The readers bound their depth by a number, which is large enough for the lexemes that are read.
-/

namespace DocumentMapping.Expression

/-- A problem, and the lexemes from the place on where it is reported. -/
structure Stop where
  problem : Problem
  rest : List Lexeme
deriving DecidableEq, Repr

/-- What a reader gives: a result and the lexemes after it. -/
abbrev Parsed (α : Type) := Except Stop (α × List Lexeme)

/-- The level of the loosest operators. -/
def loosestLevel : Nat := 1

/-- The level of operators in front of an operand: no operator between operands is as tight. -/
def unaryLevel : Nat := 8

/-- The negation of an operand; a number literal is negated itself. -/
def negated : Expression → Expression
  | .literal (.integer value) => .literal (.integer (-value))
  | .literal (.decimal value) => .literal (.decimal value.neg)
  | operand => .unary .negate operand

/-- Reads a closing bracket. -/
def closing (token : Token) (bracket : Char) : List Lexeme → Except Stop (List Lexeme)
  | [] => .error ⟨.expected bracket none, []⟩
  | lexeme :: rest =>
    if lexeme.token = token then .ok rest
    else .error ⟨.expected bracket (some lexeme.token), lexeme :: rest⟩

/-- Reads the name of a member. -/
def memberName : List Lexeme → Parsed String
  | [] => .error ⟨.expectedName, []⟩
  | lexeme :: rest =>
    match lexeme.token with
    | .identifier name => .ok (name, rest)
    | .string name => .ok (name, rest)
    | _ => .error ⟨.expectedName, lexeme :: rest⟩

/-- The meaning of a word that is not called. -/
def wordMeaning? (word : String) : Option Expression :=
  match word with
  | "true" => some (.literal (.boolean true))
  | "false" => some (.literal (.boolean false))
  | "null" => some (.literal .null)
  | _ => (Root.ofName? word).map .input

/-- Whether the next lexeme has a token. -/
def startsWith (token : Token) : List Lexeme → Bool
  | [] => false
  | lexeme :: _ => lexeme.token = token

mutual

/-- Reads an expression whose operators have at least a level. -/
def expression : Nat → Nat → List Lexeme → Parsed Expression
  | 0, _, lexemes => .error ⟨.endOfInput, lexemes⟩
  | fuel + 1, level, lexemes =>
    match operand fuel lexemes with
    | .error stop => .error stop
    | .ok (left, rest) => operators fuel level left rest

/-- Reads an operand. -/
def operand : Nat → List Lexeme → Parsed Expression
  | _, [] => .error ⟨.endOfInput, []⟩
  | 0, lexemes => .error ⟨.endOfInput, lexemes⟩
  | fuel + 1, lexeme :: rest =>
    match lexeme.token with
    | .integer value => .ok (.literal (.integer value), rest)
    | .decimal text =>
      match Decimal.ofPositional? text.toList with
      | some value => .ok (.literal (.decimal value), rest)
      | none => .error ⟨.invalidNumber text, lexeme :: rest⟩
    | .string value => .ok (.literal (.string value), rest)
    | .leftParen =>
      match expression fuel loosestLevel rest with
      | .error stop => .error stop
      | .ok (inner, rest) => (closing .rightParen ')' rest).map (inner, ·)
    | .operator .subtract =>
      (expression fuel unaryLevel rest).map fun (x, rest) => (negated x, rest)
    | .not => (expression fuel unaryLevel rest).map fun (x, rest) => (.unary .not x, rest)
    | .identifier name =>
      if startsWith .leftParen rest then
        match arguments fuel (rest.drop 1) with
        | .error stop => .error stop
        | .ok (list, after) =>
          match Function.resolve name list.length with
          | .ok function => .ok (.call function list, after)
          | .error problem => .error ⟨.call problem, lexeme :: rest⟩
      else
        match wordMeaning? name with
        | some meaning => .ok (meaning, rest)
        | none => .error ⟨.unknownIdentifier name, lexeme :: rest⟩
    | token => .error ⟨.unexpected token, lexeme :: rest⟩

/-- Reads what follows an operand: members, indexes, and operators of at least a level. -/
def operators : Nat → Nat → Expression → List Lexeme → Parsed Expression
  | _, _, left, [] => .ok (left, [])
  | 0, _, left, lexemes => .ok (left, lexemes)
  | fuel + 1, level, left, lexeme :: rest =>
    match lexeme.token with
    | .dot =>
      match memberName rest with
      | .error stop => .error stop
      | .ok (name, rest) => operators fuel level (.member left name) rest
    | .leftBracket =>
      match expression fuel loosestLevel rest with
      | .error stop => .error stop
      | .ok (position, rest) =>
        match closing .rightBracket ']' rest with
        | .error stop => .error stop
        | .ok rest => operators fuel level (.index left position) rest
    | .operator op =>
      if level ≤ op.level then
        match expression fuel op.rightLevel rest with
        | .error stop => .error stop
        | .ok (right, rest) => operators fuel level (.binary op left right) rest
      else .ok (left, lexeme :: rest)
    | _ => .ok (left, lexeme :: rest)

/-- Reads the arguments of a call after its opening parenthesis, and the closing one. -/
def arguments : Nat → List Lexeme → Parsed (List Expression)
  | 0, lexemes => .error ⟨.endOfInput, lexemes⟩
  | fuel + 1, lexemes =>
    if startsWith .rightParen lexemes then .ok ([], lexemes.drop 1)
    else argumentsFrom fuel lexemes

/-- Reads at least one argument, and the closing parenthesis. -/
def argumentsFrom : Nat → List Lexeme → Parsed (List Expression)
  | 0, lexemes => .error ⟨.endOfInput, lexemes⟩
  | fuel + 1, lexemes =>
    match expression fuel loosestLevel lexemes with
    | .error stop => .error stop
    | .ok (first, rest) =>
      if startsWith .comma rest then
        (argumentsFrom fuel (rest.drop 1)).map fun (more, rest) => (first :: more, rest)
      else if startsWith .rightParen rest then .ok ([first], rest.drop 1)
      else .error ⟨.expectedCommaOrParen, rest⟩

end

/-- Reads lexemes as one expression. -/
def ofLexemes (lexemes : List Lexeme) : Except Stop Expression :=
  match lexemes with
  | [] => .error ⟨.emptyExpression, []⟩
  | _ =>
    match expression (4 * lexemes.length + 4) loosestLevel lexemes with
    | .error stop => .error stop
    | .ok (result, []) => .ok result
    | .ok (_, lexeme :: rest) => .error ⟨.unexpected lexeme.token, lexeme :: rest⟩

/-- The fault of a stop in a text of so many bytes. -/
def Stop.fault (length : Nat) (stop : Stop) : CompileFault :=
  ⟨stop.problem, (stop.rest.head?.map Lexeme.position).getD length⟩

/-- Reads a text as an expression. -/
def read (text : String) : Except CompileFault Expression :=
  match tokens text.toList with
  | .error fault => .error fault
  | .ok lexemes => (ofLexemes lexemes).mapError (Stop.fault (Text.byteLength text.toList))

end DocumentMapping.Expression
