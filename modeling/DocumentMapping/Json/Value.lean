import DocumentMapping.OrderedMap
import DocumentMapping.Number.Double

/-!
# JSON values

Objects keep the order of their members. A number is an integer when it is written without a
fraction and an exponent and lies within 64 bits, signed or unsigned, and a double otherwise.
-/

namespace DocumentMapping

/-- A JSON number. -/
inductive JsonNumber where
  | integer (value : Int)
  | double (value : Double)
deriving DecidableEq, Repr, Inhabited

/-- A JSON value. -/
inductive Json where
  | null
  | boolean (value : Bool)
  | number (value : JsonNumber)
  | string (value : String)
  | array (items : List Json)
  | object (members : List (String × Json))
deriving Repr, Inhabited

namespace Json

/-- The member of an object under a name. -/
def member? (value : Json) (name : String) : Option Json :=
  match value with
  | .object members => OrderedMap.get? members name
  | _ => none

end Json

end DocumentMapping
