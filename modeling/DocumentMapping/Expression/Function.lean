/-!
# Functions of expressions

The functions that an expression can call, with their names and the numbers of arguments they admit.
-/

namespace DocumentMapping.Expression

/-- A function. -/
inductive Function where
  | choose
  | coalesce
  | concat
  | upper
  | lower
  | trim
  | length
  | substring
  | replace
  | contains
  | startsWith
  | endsWith
  | round
  | abs
  | floor
  | ceiling
  | number
  | integer
  | string
  | count
  | sum
  | first
  | last
  | join
  | format
  | get
  | set
  | has
deriving DecidableEq, Repr, Inhabited

/-- How many arguments a function takes; without a greatest number there is no limit. -/
structure Arity where
  least : Nat
  greatest : Option Nat
deriving DecidableEq, Repr

namespace Arity

/-- Exactly so many arguments. -/
def exactly (count : Nat) : Arity := ⟨count, some count⟩

/-- Whether a number of arguments is admitted. -/
def admits (arity : Arity) (count : Nat) : Bool :=
  arity.least ≤ count && arity.greatest.all (count ≤ ·)

/-- The words for the admitted numbers. -/
def text (arity : Arity) : String :=
  match arity.greatest with
  | some greatest =>
    if greatest = arity.least then toString arity.least
    else toString arity.least ++ "-" ++ toString greatest
  | none => "at least " ++ toString arity.least

end Arity

/-- Why a function cannot be called. -/
inductive CallProblem where
  | unknownFunction (name : String)
  | argumentCount (function : String) (arity : Arity) (count : Nat)
deriving DecidableEq, Repr

/-- The wording of a problem. -/
def CallProblem.message : CallProblem → String
  | .unknownFunction name => "unknown function '" ++ name ++ "'"
  | .argumentCount function arity count =>
    "function '" ++ function ++ "' expects " ++ arity.text ++ " arguments, got " ++ toString count

namespace Function

/-- The name by which a function is called. -/
def name : Function → String
  | .choose => "if"
  | .coalesce => "coalesce"
  | .concat => "concat"
  | .upper => "upper"
  | .lower => "lower"
  | .trim => "trim"
  | .length => "length"
  | .substring => "substring"
  | .replace => "replace"
  | .contains => "contains"
  | .startsWith => "starts_with"
  | .endsWith => "ends_with"
  | .round => "round"
  | .abs => "abs"
  | .floor => "floor"
  | .ceiling => "ceiling"
  | .number => "number"
  | .integer => "integer"
  | .string => "string"
  | .count => "count"
  | .sum => "sum"
  | .first => "first"
  | .last => "last"
  | .join => "join"
  | .format => "format"
  | .get => "get"
  | .set => "set"
  | .has => "has"

/-- All functions. -/
def all : List Function :=
  [.choose, .coalesce, .concat, .upper, .lower, .trim, .length, .substring, .replace, .contains,
    .startsWith, .endsWith, .round, .abs, .floor, .ceiling, .number, .integer, .string, .count,
    .sum, .first, .last, .join, .format, .get, .set, .has]

/-- The numbers of arguments that a function admits. -/
def arity : Function → Arity
  | .choose => ⟨2, some 3⟩
  | .coalesce => ⟨1, none⟩
  | .concat => ⟨1, none⟩
  | .substring => ⟨2, some 3⟩
  | .replace => .exactly 3
  | .contains => .exactly 2
  | .startsWith => .exactly 2
  | .endsWith => .exactly 2
  | .round => ⟨1, some 2⟩
  | .join => ⟨1, some 2⟩
  | .format => .exactly 2
  | .get => ⟨1, some 2⟩
  | .set => .exactly 2
  | _ => .exactly 1

/-- The function of a name. -/
def ofName? (name : String) : Option Function :=
  all.find? (·.name = name)

/-- The function that a call means, if it takes that many arguments. -/
def resolve (name : String) (count : Nat) : Except CallProblem Function :=
  match ofName? name with
  | none => .error (.unknownFunction name)
  | some function =>
    if function.arity.admits count then .ok function
    else .error (.argumentCount name function.arity count)

end Function

end DocumentMapping.Expression
