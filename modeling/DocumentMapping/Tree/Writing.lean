import DocumentMapping.Node
import DocumentMapping.Placement.Hints

/-!
# Writing values

A write walks along a path, decides the position of every index on the way, and puts a scalar at the
place that results. What is missing on the way is created: properties, arrays, and items up to the
position, which hold null until they are written. An array cannot become an object nor an object an
array, so the walk stops at such a node, and then nothing is written.
-/

namespace DocumentMapping

/-- A node on the way has the wrong shape for the next element. -/
inductive Conflict where
  /-- An array stands where an object with this property is needed. -/
  | arrayForObject (name : String)
  /-- An object is the value of this property, where an array is needed. -/
  | objectForArray (name : String)
deriving DecidableEq, Repr

/-- The wording of a conflict. -/
def Conflict.message : Conflict → String
  | .arrayForObject name => "expected an object holding '" ++ name ++ "' but found an array"
  | .objectForArray name => "expected '" ++ name ++ "' to hold an array but found an object"

/-- A step to a concrete place. -/
inductive Step where
  /-- To the value of a property. -/
  | property (name : String)
  /-- To an item of the array that a property holds: the element that leads there, the decided
  position, and the length of the array before the write. -/
  | item (element : PathElement) (position length : Nat)
deriving DecidableEq, Repr

/-- A walk along a path: the steps that could be taken and what stopped it. -/
structure Walk where
  steps : List Step
  conflict : Option Conflict
deriving DecidableEq, Repr

namespace Walk

/-- A walk with one more step in front. -/
def cons (step : Step) (walk : Walk) : Walk :=
  { walk with steps := step :: walk.steps }

end Walk

namespace Node

/-- The value under a name, or a slot to be filled. -/
def slot (properties : OrderedMap Node) (name : String) : Node :=
  (properties.get? name).getD .placeholder

/-- Walks along elements and decides their positions in the tree as it is. -/
def walk (placement : Placement) : List PathElement → Node → Walk
  | [], _ => ⟨[], none⟩
  | element :: rest, node =>
    match node.asProperties? with
    | none => ⟨[], some (.arrayForObject element.name)⟩
    | some properties =>
      if element.index.isIndexed then
        match (slot properties element.name).asItems? with
        | none => ⟨[], some (.objectForArray element.name)⟩
        | some items =>
          (walk placement rest
            (items.getD (placement.resolve element.index items.length) .placeholder)).cons
            (.item element (placement.resolve element.index items.length) items.length)
      else (walk placement rest (slot properties element.name)).cons (.property element.name)

/-- Items, with empty slots added until there is one at the position. The slots are made in one
piece, so that a position beyond all memory ends the program at once. -/
def grow (items : List Node) (position : Nat) : List Node :=
  items ++ (Array.replicate (position + 1 - items.length) .placeholder).toList

theorem grow_eq (items : List Node) (position : Nat) :
    grow items position =
      items ++ List.replicate (position + 1 - items.length) .placeholder := rfl

/-- Changes the item at a position, after adding empty slots up to it. -/
def modifyItem (items : List Node) (position : Nat) (change : Node → Node) : List Node :=
  (grow items position).modify position change

/-- Changes the value under a name, or a new slot at the end. -/
def modifyProperty (node : Node) (name : String) (change : Node → Node) : Node :=
  let properties := node.asProperties?.getD []
  .object (properties.insert name (change (slot properties name)))

/-- Puts a scalar where steps lead. -/
def put (value : Scalar) : List Step → Node → Node
  | [], _ => .scalar value
  | .property name :: rest, node => node.modifyProperty name (put value rest)
  | .item element position _ :: rest, node =>
    node.modifyProperty element.name fun child =>
      .array (modifyItem (child.asItems?.getD []) position (put value rest))

end Node

/-- What a write leaves: the tree, and whether an array on the way holds further items for one of
the tags that are to be filled. -/
structure Written where
  node : Node
  more : Bool
deriving Repr

/-- Whether a step went to an item under one of the tags and there are items behind it. -/
def Step.leavesMore (tags : List String) : Step → Bool
  | .property _ => false
  | .item element position length =>
    match element.tag? with
    | some tag => tags.contains tag && position + 1 < length
    | none => false

/-- The walk of a write to a tree. -/
def Path.walk (path : Path) (placement : Placement) (target : Node) : Walk :=
  target.walk placement path.elements

/-- Writes a scalar where a path leads under the given placement. The tags are those of which
further items are reported. -/
def Path.write (path : Path) (placement : Placement) (tags : List String) (value : Scalar)
    (target : Node) : Except Conflict Written :=
  match (path.walk placement target).conflict with
  | some conflict => .error conflict
  | none =>
    .ok ⟨target.put value (path.walk placement target).steps,
      (path.walk placement target).steps.any (·.leavesMore tags)⟩

end DocumentMapping
