import DocumentMapping.Node
import DocumentMapping.Path.Basic

/-!
# Selecting values

A path selects the scalars of a tree that it reaches, in document order. Each value is located by a
concrete path, in which every index is the fixed position of the item. Containers at the end of a
path are passed over, and so are items beyond the positions that an index can write.
-/

namespace DocumentMapping

/-- A scalar of a tree and where it stands. -/
structure SelectedValue where
  /-- A path with fixed positions only. -/
  path : Path
  value : Scalar
deriving DecidableEq, Repr, Inhabited

/-- The position of the item selected by an element of the concrete path. -/
def SelectedValue.position? (selected : SelectedValue) (place : Nat) : Option Nat :=
  (selected.path.elements[place]?.bind (·.index.static?)).map UInt32.toNat

namespace Node

/-- The items of an array with their positions, as far as an index can write them. -/
def numbered (items : List Node) : List (Node × Nat) :=
  items.zipIdx.filter (·.2 < 2 ^ 32)

/-- What an element reaches in the value of its property: the value itself, the item at a fixed
position, or all items. Each comes with the concrete element that leads to it. -/
def reachedIn (element : PathElement) (child : Node) : List (PathElement × Node) :=
  match element.index with
  | .none => [(.property element.name, child)]
  | .static position =>
    match child.item? position.toNat with
    | some item => [(.item element.name position, item)]
    | none => []
  | _ =>
    match child with
    | .array items =>
      (numbered items).map fun (item, position) =>
        (.item element.name (UInt32.ofNat position), item)
    | _ => []

/-- What an element reaches from a node, in document order. -/
def reached (node : Node) (element : PathElement) : List (PathElement × Node) :=
  match node.get? element.name with
  | some child => reachedIn element child
  | none => []

/-- The scalars that elements select below a node, with the elements that lead to them. -/
def select : List PathElement → Node → List (List PathElement × Scalar)
  | [], .scalar value => [([], value)]
  | [], _ => []
  | element :: rest, node =>
    (node.reached element).flatMap fun (step, next) =>
      (select rest next).map fun (trail, value) => (step :: trail, value)

end Node

/-- The values that a path selects in a tree, in document order. -/
def Path.select (path : Path) (source : Node) : List SelectedValue :=
  (Node.select path.elements source).map fun (trail, value) => ⟨⟨trail⟩, value⟩

/-- The innermost item around the end of concrete elements, starting from the innermost item so far;
absent when they lead nowhere. Only fixed positions enter an array. -/
def Node.enclosingFrom : Node → List PathElement → Node → Option Node
  | enclosing, [], _ => some enclosing
  | enclosing, element :: rest, node =>
    match node.get? element.name with
    | none => none
    | some child =>
      match element.index.static? with
      | none => enclosingFrom enclosing rest child
      | some position =>
        match child.item? position.toNat with
        | none => none
        | some item => enclosingFrom item rest item

/-- The innermost array item around the place a concrete path leads to, or the root when it crosses
no array. -/
def Node.enclosingItem? (source : Node) (path : Path) : Option Node :=
  enclosingFrom source path.elements source

end DocumentMapping
