import DocumentMapping.Expression.Numeric
import DocumentMapping.Node

/-!
# Nodes as values of expressions

The truth, the text, the equality and the order of nodes inside expressions. Numbers are equal by
their value even when one is an integer and the other a decimal; inside containers they are not.
-/

namespace DocumentMapping

namespace Scalar

/-- Whether a scalar counts as true: null, false, zero and the empty text do not. -/
def truthy : Scalar → Bool
  | .null => false
  | .boolean value => value
  | .integer value => value != 0
  | .decimal value => !value.isZero
  | .string value => !value.isEmpty
  | _ => true

/-- The text of a scalar inside a longer text; null is empty. -/
def embedded (value : Scalar) : String :=
  match value with
  | .null => ""
  | value => value.text

end Scalar

namespace Node

/-- Whether a node counts as true: empty containers do not. -/
def truthy : Node → Bool
  | .scalar value => value.truthy
  | .array items => !items.isEmpty
  | .object properties => !properties.isEmpty

/-- The text of a node inside a longer text: a container is written as JSON. -/
def embedded (node : Node) : String :=
  match node with
  | .scalar value => value.embedded
  | container => container.toJson.text

/-- The nodes that a node stands for: the items of an array, nothing for null, and otherwise the
node itself. -/
def listed (node : Node) : List Node :=
  match node with
  | .array items => items
  | .scalar .null => []
  | other => [other]

/-- Items from the front, or for a negative position from the back. -/
def itemFromEitherEnd? (items : List Node) (position : Int64) : Option Node :=
  if 0 ≤ position.toInt then items[position.toInt.toNat]?
  else if position.toInt.natAbs ≤ items.length then items[items.length - position.toInt.natAbs]?
  else none

/-- What an index selects: an item by an integer, a property by a text. -/
def select? (base index : Node) : Option Node :=
  match index with
  | .scalar (.integer position) =>
    match base with
    | .array items => itemFromEitherEnd? items position
    | _ => none
  | .scalar (.string name) => base.get? name
  | _ => none

/-- The order of two scalars that can be compared. -/
def compareScalars? (x y : Scalar) : Option Ordering :=
  match Expression.Numeric.ofScalar? x, Expression.Numeric.ofScalar? y with
  | some a, some b => some (a.compare b)
  | _, _ =>
    match x, y with
    | .string a, .string b => some (compare a b)
    | .date a, .date b => some (a.compare b)
    | .moment a, .moment b => some (a.compare b)
    | .boolean a, .boolean b => some (compare a b)
    | _, _ => none

/-- The order of two nodes that can be compared. -/
def compare? (x y : Node) : Option Ordering :=
  match x, y with
  | .scalar a, .scalar b => compareScalars? a b
  | _, _ => none

/-- Whether two scalars are equal: numbers by their value. -/
def scalarsEqual (x y : Scalar) : Bool :=
  match Expression.Numeric.ofScalar? x, Expression.Numeric.ofScalar? y with
  | some a, some b => a.compare b == .eq
  | _, _ => x.same y

/-- Whether two nodes are equal. -/
def equal (x y : Node) : Bool :=
  match x, y with
  | .scalar a, .scalar b => scalarsEqual a b
  | _, _ => x.same y

end Node

end DocumentMapping
