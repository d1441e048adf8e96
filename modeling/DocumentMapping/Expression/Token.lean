import DocumentMapping.Expression.Basic
import DocumentMapping.Number.Integer
import DocumentMapping.Text.Bytes
import DocumentMapping.Text.Identifier
import DocumentMapping.Text.Quoted

/-!
# Tokens of expressions

The text of an expression is cut into tokens, each with the piece of the text it was read from and
the byte offset of that piece. Between tokens there may be blanks of the ASCII range.
-/

namespace DocumentMapping.Expression

/-- A token. -/
inductive Token where
  | integer (value : Int64)
  /-- A number with a fraction, or one beyond 64 bits, as it is written. -/
  | decimal (text : String)
  | string (value : String)
  | identifier (name : String)
  | dot
  | comma
  | leftParen
  | rightParen
  | leftBracket
  | rightBracket
  | operator (op : BinaryOperator)
  | not
deriving DecidableEq, Repr, Inhabited

/-- The name of an operator's token. -/
def BinaryOperator.tokenName : BinaryOperator → String
  | .add => "Plus"
  | .subtract => "Minus"
  | .multiply => "Multiply"
  | .divide => "Divide"
  | .modulo => "Modulo"
  | .equal => "Equal"
  | .notEqual => "NotEqual"
  | .lessThan => "LessThan"
  | .lessThanOrEqual => "LessThanOrEqual"
  | .greaterThan => "GreaterThan"
  | .greaterThanOrEqual => "GreaterThanOrEqual"
  | .and => "And"
  | .or => "Or"
  | .coalesce => "Coalesce"

namespace Token

/-- The name of a token's kind. -/
def kind : Token → String
  | .integer _ => "Integer"
  | .decimal _ => "Decimal"
  | .string _ => "String"
  | .identifier _ => "Identifier"
  | .dot => "Dot"
  | .comma => "Comma"
  | .leftParen => "LeftParen"
  | .rightParen => "RightParen"
  | .leftBracket => "LeftBracket"
  | .rightBracket => "RightBracket"
  | .operator op => op.tokenName
  | .not => "Not"

/-- What a token holds besides its kind. -/
def content? : Token → Option String
  | .integer value => some (String.ofList (Json.integerChars value.toInt))
  | .decimal text => some text
  | .string value => some value
  | .identifier name => some name
  | _ => none

/-- A token as messages show it: its kind, and in parentheses what it holds. -/
def description (token : Token) : String :=
  match token with
  | .integer value => "Integer(" ++ String.ofList (Json.integerChars value.toInt) ++ ")"
  | .decimal text => "Decimal(" ++ Text.quoted text ++ ")"
  | .string value => "String(" ++ Text.quoted value ++ ")"
  | .identifier name => "Identifier(" ++ Text.quoted name ++ ")"
  | token => token.kind

end Token

/-- Why the text of an expression is refused. -/
inductive Problem where
  | unterminatedString
  | invalidEscape
  | unexpectedCharacter (character : Char)
  | emptyExpression
  | endOfInput
  | unexpected (token : Token)
  /-- A bracket is missing where there is a token, or nothing. -/
  | expected (bracket : Char) (found : Option Token)
  | expectedName
  | expectedCommaOrParen
  | invalidNumber (text : String)
  | unknownIdentifier (name : String)
  | call (problem : CallProblem)
deriving DecidableEq, Repr

/-- The wording of a problem. -/
def Problem.message : Problem → String
  | .unterminatedString => "unterminated string literal"
  | .invalidEscape => "invalid escape sequence"
  | .unexpectedCharacter character => "unexpected character '" ++ character.toString ++ "'"
  | .emptyExpression => "empty expression"
  | .endOfInput => "unexpected end of input"
  | .unexpected token => "unexpected " ++ token.description
  | .expected bracket found =>
    "expected '" ++ bracket.toString ++ "', found " ++
      (found.map Token.description).getD "end of input"
  | .expectedName => "expected property name after '.'"
  | .expectedCommaOrParen => "expected ',' or ')' in argument list"
  | .invalidNumber text => "invalid number '" ++ text ++ "'"
  | .unknownIdentifier name => "unknown identifier '" ++ name ++ "'"
  | .call problem => problem.message

/-- A problem and the byte offset it is reported at. -/
structure CompileFault where
  problem : Problem
  position : Nat
deriving DecidableEq, Repr

/-- The wording of a fault. -/
def CompileFault.message (fault : CompileFault) : String :=
  fault.problem.message ++ " at position " ++ toString fault.position

/-- A token with the piece of the text it was read from and the byte offset of that piece. -/
structure Lexeme where
  token : Token
  text : List Char
  position : Nat
deriving DecidableEq, Repr, Inhabited

/-- A problem and how many bytes it lies behind the start of a token. -/
structure ScanFault where
  problem : Problem
  ahead : Nat
deriving DecidableEq, Repr

/-- Whether a character may stand between tokens. -/
def isSpace (c : Char) : Bool :=
  c = ' ' || c = '\t' || c = '\n' || c = '\x0c' || c = '\r'

/-- The character that an escape stands for. -/
def escaped? : Char → Option Char
  | 'n' => some '\n'
  | 't' => some '\t'
  | 'r' => some '\r'
  | '\\' => some '\\'
  | '\'' => some '\''
  | '"' => some '"'
  | _ => none

/-- Reads a string after its opening quote: its value and the piece up to the closing quote, which
is included. The number counts the bytes since the start of the token. -/
def scanString (quote : Char) (ahead : Nat) :
    List Char → Except ScanFault (List Char × List Char)
  | [] => .error ⟨.unterminatedString, 0⟩
  | ['\\'] => .error ⟨.unterminatedString, 0⟩
  | '\\' :: c :: rest =>
    match escaped? c with
    | none => .error ⟨.invalidEscape, ahead⟩
    | some value => do
      let (content, piece) ← scanString quote (ahead + 2) rest
      .ok (value :: content, '\\' :: c :: piece)
  | c :: rest =>
    if c = quote then .ok ([], [c])
    else do
      let (content, piece) ← scanString quote (ahead + c.utf8Size) rest
      .ok (c :: content, c :: piece)

/-- A point and the digits behind it, if both are there. -/
def scanFraction : List Char → List Char
  | '.' :: rest =>
    if (rest.takeWhile Char.isDigit).isEmpty then [] else '.' :: rest.takeWhile Char.isDigit
  | _ => []

/-- Reads a number: an integer of 64 bits, or else the text of a decimal. -/
def scanNumber (text : List Char) : Token × List Char :=
  let digits := text.takeWhile Char.isDigit
  let piece := digits ++ scanFraction (text.dropWhile Char.isDigit)
  match readInt64? piece with
  | some value => (.integer value, piece)
  | none => (.decimal (String.ofList piece), piece)

/-- Reads a token of one or two signs. -/
def scanSigns : List Char → Option (Token × List Char)
  | '.' :: _ => some (.dot, ['.'])
  | ',' :: _ => some (.comma, [','])
  | '(' :: _ => some (.leftParen, ['('])
  | ')' :: _ => some (.rightParen, [')'])
  | '[' :: _ => some (.leftBracket, ['['])
  | ']' :: _ => some (.rightBracket, [']'])
  | '+' :: _ => some (.operator .add, ['+'])
  | '-' :: _ => some (.operator .subtract, ['-'])
  | '*' :: _ => some (.operator .multiply, ['*'])
  | '/' :: _ => some (.operator .divide, ['/'])
  | '%' :: _ => some (.operator .modulo, ['%'])
  | '=' :: '=' :: _ => some (.operator .equal, ['=', '='])
  | '!' :: '=' :: _ => some (.operator .notEqual, ['!', '='])
  | '!' :: _ => some (.not, ['!'])
  | '<' :: '=' :: _ => some (.operator .lessThanOrEqual, ['<', '='])
  | '<' :: _ => some (.operator .lessThan, ['<'])
  | '>' :: '=' :: _ => some (.operator .greaterThanOrEqual, ['>', '='])
  | '>' :: _ => some (.operator .greaterThan, ['>'])
  | '&' :: '&' :: _ => some (.operator .and, ['&', '&'])
  | '|' :: '|' :: _ => some (.operator .or, ['|', '|'])
  | '?' :: '?' :: _ => some (.operator .coalesce, ['?', '?'])
  | _ => none

/-- Reads the token at the start of a text: the token and the piece it takes up. -/
def scan (first : Char) (rest : List Char) : Except ScanFault (Token × List Char) :=
  match scanSigns (first :: rest) with
  | some scanned => .ok scanned
  | none =>
    if first = '\'' ∨ first = '"' then do
      let (content, piece) ← scanString first 1 rest
      .ok (.string (String.ofList content), first :: piece)
    else if first.isDigit then .ok (scanNumber (first :: rest))
    else if first = '_' ∨ Text.startsIdentifier first then
      let piece := first :: rest.takeWhile Text.continuesIdentifier
      .ok (.identifier (String.ofList piece), piece)
    else .error ⟨.unexpectedCharacter first, 0⟩

/-- Reads tokens from a byte offset on. -/
def tokensFrom (position : Nat) : List Char → Except CompileFault (List Lexeme)
  | [] => .ok []
  | c :: rest =>
    if isSpace c then tokensFrom (position + 1) rest
    else
      match scan c rest with
      | .error fault => .error ⟨fault.problem, position + fault.ahead⟩
      | .ok (token, piece) =>
        match tokensFrom (position + Text.byteLength piece) (rest.drop (piece.length - 1)) with
        | .error fault => .error fault
        | .ok lexemes => .ok (⟨token, piece, position⟩ :: lexemes)
termination_by text => text.length

/-- The tokens of a text. -/
def tokens (text : List Char) : Except CompileFault (List Lexeme) :=
  tokensFrom 0 text

end DocumentMapping.Expression
