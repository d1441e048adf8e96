import DocumentMapping.CommandLine.Run

/-!
# One written form

A node is written in two ways: directly from the tree, or by way of its JSON form. Both give the
same text, compact and indented. So answers, failures of expressions and texts made by expressions
show a value alike.
-/

namespace DocumentMapping

namespace Node

/-- A scalar is written like its JSON form, whatever its kind, and on one line. -/
theorem toJson_scalar (value : Scalar) :
    value.toJson.chars = scalarChars value ∧
      ∀ depth, value.toJson.indentedChars depth = scalarChars value := by
  cases value with
  | decimal value =>
    rw [Scalar.toJson, scalarChars]
    cases value.exactDouble? with
    | some double => exact ⟨rfl, fun _ => rfl⟩
    | none => exact ⟨rfl, fun _ => rfl⟩
  | _ => exact ⟨rfl, fun _ => rfl⟩

/-- A node is written like its JSON form. -/
theorem chars_toJson (node : Node) : node.toJson.chars = node.chars := by
  -- the induction runs along the properties and items of a node, part by part
  refine Node.chars.induct
    (fun node => node.toJson.chars = node.chars)
    (fun items => Json.itemChars (itemsToJson items) = itemChars items)
    (fun properties => Json.memberChars (propertiesToJson properties) = propertyChars properties)
    ?object ?array ?scalar ?noProperties ?properties ?noItems ?items node
  case object =>
    intro properties ih
    rw [toJson, Json.chars, ih, chars]
  case array =>
    intro items ih
    rw [toJson, Json.chars, ih, chars]
  case scalar => exact fun value => (toJson_scalar value).1
  case noItems => rfl
  case items =>
    intro item rest hitem hrest
    rw [itemsToJson, Json.itemChars, hitem, hrest, itemChars]
  case noProperties => rfl
  case properties =>
    intro name node rest hnode hrest
    rw [propertiesToJson, Json.memberChars, hnode, hrest, propertyChars]

/-- A node is indented like its JSON form. -/
theorem indentedChars_toJson (depth : Nat) (node : Node) :
    node.toJson.indentedChars depth = node.indentedChars depth := by
  refine Node.indentedChars.induct
    (fun depth node => node.toJson.indentedChars depth = node.indentedChars depth)
    (fun depth items => Json.indentedItems depth (itemsToJson items) = indentedItems depth items)
    (fun depth properties => Json.indentedMembers depth (propertiesToJson properties) =
      indentedProperties depth properties)
    ?object ?array ?scalar ?noProperties ?properties ?noItems ?items depth node
  case object =>
    intro depth properties ih
    rw [toJson, Json.indentedChars, ih, indentedChars]
  case array =>
    intro depth items ih
    rw [toJson, Json.indentedChars, ih, indentedChars]
  case scalar => exact fun depth value => (toJson_scalar value).2 depth
  case noItems => exact fun _ => rfl
  case items =>
    intro depth item rest hitem hrest
    rw [itemsToJson, Json.indentedItems, hitem, hrest, indentedItems]
  case noProperties => exact fun _ => rfl
  case properties =>
    intro depth name node rest hnode hrest
    rw [propertiesToJson, Json.indentedMembers, hnode, hrest, indentedProperties]

theorem text_toJson (node : Node) : node.toJson.text = node.text :=
  congrArg String.ofList node.chars_toJson

end Node

open CommandLine (valueLine)

/-- The written form of a node and that of its JSON form are the same text, compact and indented, for
all trees and all kinds of scalars. Hence values look the same in the answers of the program, in the
record of a failed expression, and where an expression puts a container into a text. -/
theorem written_forms_agree :
    (∀ node : Node, node.toJson.text = node.text ∧
      node.toJson.indentedText = node.indentedText) ∧
    (∀ selected, valueLine selected =
      selected.path.text ++ "\t" ++ (Node.scalar selected.value).text ++ "\n") ∧
    (∀ key name inputs cache reason,
      (CompiledModule.failure key name inputs cache reason).request.text = inputs.request.text ∧
      (CompiledModule.failure key name inputs cache reason).item.text = inputs.item.text ∧
      (CompiledModule.failure key name inputs cache reason).value.text = inputs.value.text ∧
      (CompiledModule.failure key name inputs cache reason).cache.text =
        (Node.object cache).text) ∧
    (∀ properties, (Node.object properties).embedded = (Node.object properties).text) ∧
    ∀ items, (Node.array items).embedded = (Node.array items).text := by
  refine ⟨?_, ?_, ?_, ?_, ?_⟩
  · intro node
    exact ⟨node.text_toJson, congrArg String.ofList (node.indentedChars_toJson 0)⟩
  · intro selected
    have hvalue : selected.value.toJson.text = (Node.scalar selected.value).text :=
      Node.text_toJson (.scalar selected.value)
    rw [valueLine, hvalue]
  · intro key name inputs cache reason
    exact ⟨inputs.request.text_toJson, inputs.item.text_toJson, inputs.value.text_toJson,
      Node.text_toJson (.object cache)⟩
  · intro properties
    exact Node.text_toJson (.object properties)
  · intro items
    exact Node.text_toJson (.array items)

/-- A decimal with more digits than a double has is a string in both forms. -/
example : (Node.array [.scalar (.decimal ⟨false, 12345678901234567890, 20, by decide, by decide⟩),
    .scalar (.decimal ⟨false, 250, 2, by decide, by decide⟩)]).text =
      "[\"0.12345678901234567890\",2.5]" := by
  decide +kernel

end DocumentMapping
