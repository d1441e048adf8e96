import DocumentMapping.Mapping.Error

/-!
# Writing in place

A write changes the tree while it walks. Each element makes its node an object and its slot an entry
of that object, an index makes the slot an array with an item at the decided position, and the
scalar goes to where the last element leads. A node of the wrong shape stops the write, and whatever
has been created by then stays in the tree.
-/

namespace DocumentMapping

/-- What a write in place leaves: the tree as it then is, and whether an array on the way holds
further items to fill, or the conflict that has stopped the write. -/
structure InPlace where
  node : Node
  outcome : Except Conflict Bool
deriving Repr

/-- Writes a scalar below a node in place. The flag says whether an array further up holds further
items for one of the tags. -/
def Node.writeInPlace (placement : Placement) (tags : List String) (value : Scalar) :
    Bool → List PathElement → Node → InPlace
  | more, [], _ => ⟨.scalar value, .ok more⟩
  | more, element :: rest, node =>
    match node.asProperties? with
    | none => ⟨node, .error (.arrayForObject element.name)⟩
    | some properties =>
      -- from here on the node is an object that has the slot as an entry
      let child := slot properties element.name
      if element.index.isIndexed then
        match child.asItems? with
        | none =>
          ⟨.object (properties.insert element.name child), .error (.objectForArray element.name)⟩
        | some items =>
          let position := placement.resolve element.index items.length
          let grown := grow items position
          let step := Step.item element position grown.length
          let below := writeInPlace placement tags value (more || step.leavesMore tags) rest
            (grown.getD position .placeholder)
          ⟨.object (properties.insert element.name (.array (grown.set position below.node))),
            below.outcome⟩
      else
        let below := writeInPlace placement tags value more rest child
        ⟨.object (properties.insert element.name below.node), below.outcome⟩

/-- Writes a scalar to a tree in place: whether there are further items to fill, or the error, and
the tree afterwards. -/
def Path.writeInPlace (path : Path) (placement : Placement) (tags : List String) (value : Scalar)
    (target : Node) : Except MappingError Bool × Node :=
  let written := target.writeInPlace placement tags value false path.elements
  (written.outcome.mapError (.pathConflict path), written.node)

end DocumentMapping
