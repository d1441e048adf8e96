import DocumentMapping.Path.Basic

/-!
# Faults of paths

A path text can break the grammar, at a byte offset, or name its indexes inconsistently.
-/

namespace DocumentMapping

/-- What the grammar required at a place where the text does not have it. -/
inductive PathExpectation where
  | dollar
  | element
  | bareName
  | finished
deriving DecidableEq, Repr

/-- How a text breaks the grammar. -/
inductive PathProblem where
  /-- Something else was required; the remaining text is given. -/
  | unexpected (expected : PathExpectation) (rest : List Char)
  /-- A backslash is followed by a character that needs none. -/
  | invalidEscape (character : Char)
  /-- A quote stands inside a quoted name without a backslash. -/
  | bareQuote
deriving DecidableEq, Repr

/-- Why a path is refused. -/
inductive PathError where
  /-- The text breaks the grammar at a byte offset. -/
  | malformed (position : Nat) (problem : PathProblem)
  /-- The quoted name that opens at a byte offset does not end. -/
  | unterminatedLiteral (position : Nat)
  /-- The position written at a byte offset has more than 32 bits. -/
  | indexOverflow (position : Nat) (digits : String)
  /-- A named tag occurs twice. -/
  | duplicateTag (tag : String)
  /-- A wildcard run occurs twice. -/
  | duplicateWildcard (run : Nat)
  /-- Wildcards and named tags occur together; the first of each is given. -/
  | mixedWildcardAndNamed (run : Nat) (tag : String)
deriving DecidableEq, Repr

/-- The name of the grammar rule that failed. -/
def PathExpectation.rule : PathExpectation → String
  | .dollar => "Char"
  | .element => "Tag"
  | .bareName => "TakeWhile1"
  | .finished => "Eof"

/-- The wording of a break of the grammar; of the remaining text twelve characters are shown. -/
def PathProblem.message : PathProblem → String
  | .unexpected expected [] => "unexpected end of input (" ++ expected.rule ++ ")"
  | .unexpected expected rest =>
    "unexpected input '" ++ String.ofList (rest.take 12) ++ "' (" ++ expected.rule ++ ")"
  | .invalidEscape character => "invalid escape sequence '\\" ++ String.singleton character ++ "'"
  | .bareQuote => "quote inside a property literal must be escaped as \\'"

/-- The wording of a refusal. -/
def PathError.message : PathError → String
  | .malformed position problem =>
    "Syntax error at position " ++ toString position ++ ": " ++ problem.message
  | .unterminatedLiteral position =>
    "Unterminated property literal starting at position " ++ toString position
  | .indexOverflow position digits =>
    "Index " ++ digits ++ " at position " ++ toString position ++ " is out of range"
  | .duplicateTag tag => "Named index '" ++ tag ++ "' is used more than once"
  | .duplicateWildcard run =>
    "Wildcard index '" ++ PathIndex.marker run ++ "' is used more than once"
  | .mixedWildcardAndNamed run tag =>
    "Wildcard index '" ++ PathIndex.marker run ++ "' cannot be combined with named index '" ++
      tag ++ "'"

end DocumentMapping
