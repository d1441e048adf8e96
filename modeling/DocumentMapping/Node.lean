import DocumentMapping.Scalar

/-!
# Document trees

A node is an object with named properties in order, an array of items, or a scalar. A scalar counts
as an empty slot: it may become an object or an array when something is written below it.
-/

namespace DocumentMapping

/-- A node of a document tree. -/
inductive Node where
  | object (properties : List (String × Node))
  | array (items : List Node)
  | scalar (value : Scalar)
deriving Repr, Inhabited

namespace Node

/-- The content of a slot that has not been written yet. -/
def placeholder : Node := .scalar .null

/-- Whether a node is a null scalar. -/
def isPlaceholder : Node → Bool
  | .scalar .null => true
  | _ => false

theorem isPlaceholder_iff (node : Node) : node.isPlaceholder = true ↔ node = .placeholder := by
  constructor
  · intro h
    unfold isPlaceholder at h
    split at h
    · rfl
    · cases h
  · rintro rfl
    rfl

/-- The name of the kind of a node. -/
def kind : Node → String
  | .object _ => "object"
  | .array _ => "array"
  | .scalar value => value.kind

/-- The property of an object under a name. -/
def get? (node : Node) (name : String) : Option Node :=
  match node with
  | .object properties => OrderedMap.get? properties name
  | _ => none

/-- The item of an array at a position. -/
def item? (node : Node) (position : Nat) : Option Node :=
  match node with
  | .array items => items[position]?
  | _ => none

/-- The properties of a node that is to hold some: a scalar becomes an empty object, an array
cannot. -/
def asProperties? : Node → Option (OrderedMap Node)
  | .object properties => some properties
  | .scalar _ => some []
  | .array _ => none

/-- The items of a node that is to hold some: a scalar becomes an empty array, an object cannot. -/
def asItems? : Node → Option (List Node)
  | .array items => some items
  | .scalar _ => some []
  | .object _ => none

mutual

/-- The JSON form of a node. -/
def toJson : Node → Json
  | .object properties => .object (propertiesToJson properties)
  | .array items => .array (itemsToJson items)
  | .scalar value => value.toJson

/-- The JSON forms of items. -/
def itemsToJson : List Node → List Json
  | [] => []
  | item :: rest => item.toJson :: itemsToJson rest

/-- The JSON forms of properties. -/
def propertiesToJson : List (String × Node) → List (String × Json)
  | [] => []
  | (name, node) :: rest => (name, node.toJson) :: propertiesToJson rest

end

mutual

/-- The node of a JSON value. -/
def ofJson : Json → Node
  | .object members => .object (propertiesOfJson members)
  | .array items => .array (itemsOfJson items)
  | .null => .scalar .null
  | .boolean value => .scalar (.boolean value)
  | .number value => .scalar (.ofNumber value)
  | .string value => .scalar (.string value)

/-- The nodes of JSON items. -/
def itemsOfJson : List Json → List Node
  | [] => []
  | item :: rest => ofJson item :: itemsOfJson rest

/-- The properties of JSON members. -/
def propertiesOfJson : List (String × Json) → List (String × Node)
  | [] => []
  | (name, value) :: rest => (name, ofJson value) :: propertiesOfJson rest

end

/-- A scalar as it is written directly. -/
def scalarChars : Scalar → List Char
  | .null => Json.nullChars
  | .boolean value => Json.booleanChars value
  | .integer value => Json.integerChars value.toInt
  | .decimal value =>
    match value.exactDouble? with
    | some double => double.jsonChars
    | none => Json.stringChars value.text
  | .number value => Json.numberChars value
  | .string value => Json.stringChars value
  | value => Json.stringChars (String.ofList value.chars)

mutual

/-- The compact form of a node, written directly from the tree. -/
def chars : Node → List Char
  | .object properties => '\x7b' :: Json.separated (propertyChars properties) ++ ['\x7d']
  | .array items => '[' :: Json.separated (itemChars items) ++ [']']
  | .scalar value => scalarChars value

/-- The compact forms of items. -/
def itemChars : List Node → List (List Char)
  | [] => []
  | item :: rest => item.chars :: itemChars rest

/-- The compact forms of properties. -/
def propertyChars : List (String × Node) → List (List Char)
  | [] => []
  | (name, node) :: rest => (Json.stringChars name ++ ':' :: node.chars) :: propertyChars rest

end

/-- The compact text of a node. -/
def text (node : Node) : String :=
  String.ofList node.chars

mutual

/-- The indented form of a node at a depth of nesting, written directly from the tree. -/
def indentedChars (depth : Nat) : Node → List Char
  | .object properties =>
    Json.indentedBlock '\x7b' '\x7d' depth (indentedProperties (depth + 1) properties)
  | .array items => Json.indentedBlock '[' ']' depth (indentedItems (depth + 1) items)
  | .scalar value => scalarChars value

/-- The indented forms of items. -/
def indentedItems (depth : Nat) : List Node → List (List Char)
  | [] => []
  | item :: rest => item.indentedChars depth :: indentedItems depth rest

/-- The indented forms of properties. -/
def indentedProperties (depth : Nat) : List (String × Node) → List (List Char)
  | [] => []
  | (name, node) :: rest =>
    (Json.stringChars name ++ ':' :: ' ' :: node.indentedChars depth) ::
      indentedProperties depth rest

end

/-- The indented text of a node. -/
def indentedText (node : Node) : String :=
  String.ofList (node.indentedChars 0)

mutual

/-- Two nodes are the same when they have the same shape and the same scalars; the order of
properties does not matter. -/
def same : Node → Node → Bool
  | .object xs, .object ys => xs.length == ys.length && propertiesSame xs ys
  | .array xs, .array ys => itemsSame xs ys
  | .scalar x, .scalar y => x.same y
  | _, _ => false

/-- Two lists of items are the same when they agree item by item. -/
def itemsSame : List Node → List Node → Bool
  | [], [] => true
  | x :: xs, y :: ys => same x y && itemsSame xs ys
  | _, _ => false

/-- Every property is found with the same node in another object. -/
def propertiesSame : List (String × Node) → OrderedMap Node → Bool
  | [], _ => true
  | (name, node) :: rest, ys =>
    (match ys.get? name with
      | some other => same node other
      | none => false) && propertiesSame rest ys

end

end Node

end DocumentMapping
