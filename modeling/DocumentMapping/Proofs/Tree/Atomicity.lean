import DocumentMapping.Proofs.Tree.Writing
import DocumentMapping.Tree.InPlace

/-!
# Failed writes change nothing

A write in place creates entries, turns scalars into containers and adds items before it knows
whether it can go on. Nevertheless a write that fails leaves the tree as it was: what a write has
created or turned holds nothing but empty slots, in which every further element finds its place. So
a conflict can only arise along nodes that have been there before, where nothing is changed. This
file says which nodes those are, without reference to the write.
-/

namespace DocumentMapping

/-! ## Where a path is blocked -/

/-- A node of the wrong shape for an element: an array where the element needs an object, or an
object where its index needs an array. -/
inductive Blocks (tree : Node) (here : Location) (element : PathElement) : Conflict → Prop where
  | array {items : List Node} (hfound : tree.at? here = some (.array items)) :
      Blocks tree here element (.arrayForObject element.name)
  | object {properties : OrderedMap Node} (hindexed : element.index.isIndexed = true)
      (hfound : tree.at? (here ++ [.property element.name]) = some (.object properties)) :
      Blocks tree here element (.objectForArray element.name)

/-- Elements that are resolved one after the other in a tree meet a node of the wrong shape. Such a
node exists, so that all nodes before it exist and none of them is a scalar. -/
def Meets (placement : Placement) (tree : Node) (start : Location) (elements : List PathElement)
    (conflict : Conflict) : Prop :=
  ∃ before element after here,
    elements = before ++ element :: after ∧ Leads placement tree start before here ∧
      Blocks tree here element conflict

namespace Node

/-- Nothing lies below a place that is not there. -/
theorem at?_append_of_eq_none {tree : Node} {here : Location} (h : tree.at? here = none)
    (rest : Location) : tree.at? (here ++ rest) = none := by
  rw [at?_append, h, Option.bind_none]

end Node

theorem Leads.isPrefix {placement : Placement} {tree : Node} {here there : Location}
    {elements : List PathElement} (h : Leads placement tree here elements there) :
    here <+: there := by
  induction h with
  | done here => exact List.prefix_refl here
  | property _ _ ih => exact (List.prefix_append _ _).trans ih
  | item _ _ ih => exact ((List.prefix_append _ _).trans (List.prefix_append _ _)).trans ih

/-- What blocks an element stands at its node or in its slot. -/
theorem Blocks.exists_at? {tree : Node} {here : Location} {element : PathElement}
    {conflict : Conflict} (h : Blocks tree here element conflict) :
    ∃ node, tree.at? here = some node := by
  cases h with
  | array hfound => exact ⟨_, hfound⟩
  | object _ hfound =>
    rw [Node.at?_append] at hfound
    obtain ⟨node, hnode, _⟩ := Option.bind_eq_some_iff.mp hfound
    exact ⟨node, hnode⟩

/-- Where nothing stands, nothing blocks the way. -/
theorem not_meets_of_eq_none {placement : Placement} {tree : Node} {start : Location}
    {elements : List PathElement} {conflict : Conflict} (h : tree.at? start = none) :
    ¬ Meets placement tree start elements conflict := by
  rintro ⟨before, element, after, here, _, hleads, hblocks⟩
  obtain ⟨rest, rfl⟩ := hleads.isPrefix
  obtain ⟨node, hnode⟩ := hblocks.exists_at?
  rw [Node.at?_append_of_eq_none h] at hnode
  cases hnode

/-- The location behind an element: the slot, or the item of the slot that its index points to. -/
def behind (placement : Placement) (tree : Node) (here : Location) (element : PathElement) :
    Location :=
  if element.index.isIndexed then
    here ++ [.property element.name] ++ [.item (placement.resolve element.index
      (tree.lengthAt (here ++ [.property element.name])))]
  else here ++ [.property element.name]

theorem leads_cons_iff {placement : Placement} {tree : Node} {here there : Location}
    {element : PathElement} {rest : List PathElement} :
    Leads placement tree here (element :: rest) there ↔
      Leads placement tree (behind placement tree here element) rest there := by
  unfold behind
  by_cases hindexed : element.index.isIndexed = true
  · rw [if_pos hindexed]
    constructor
    · intro h
      cases h with
      | property hindex _ =>
        rw [hindex] at hindexed
        cases hindexed
      | item hpoints hrest =>
        rwa [(pointsTo_iff hindexed).mp hpoints] at hrest
    · exact .item ((pointsTo_iff hindexed).mpr rfl)
  · rw [if_neg hindexed]
    have hindex : element.index = .none := by
      cases hcase : element.index <;> simp [hcase, PathIndex.isIndexed] at hindexed ⊢
    constructor
    · intro h
      cases h with
      | property _ hrest => exact hrest
      | item hpoints _ =>
        rw [hindex] at hpoints
        exact (not_pointsTo_none hpoints).elim
    · exact .property hindex

/-- The first element is blocked, or an element behind it is. -/
theorem meets_cons_iff {placement : Placement} {tree : Node} {here : Location}
    {element : PathElement} {rest : List PathElement} {conflict : Conflict} :
    Meets placement tree here (element :: rest) conflict ↔
      Blocks tree here element conflict ∨
        Meets placement tree (behind placement tree here element) rest conflict := by
  constructor
  · rintro ⟨before, last, after, there, hsplit, hleads, hblocks⟩
    cases before with
    | nil =>
      obtain ⟨rfl, rfl⟩ := List.cons.inj hsplit
      cases hleads
      exact .inl hblocks
    | cons first before =>
      obtain ⟨rfl, rfl⟩ := List.cons.inj hsplit
      exact .inr ⟨before, last, after, there, rfl, leads_cons_iff.mp hleads, hblocks⟩
  · rintro (hblocks | ⟨before, last, after, there, rfl, hleads, hblocks⟩)
    · exact ⟨[], element, rest, here, rfl, .done here, hblocks⟩
    · exact ⟨element :: before, last, after, there, rfl, leads_cons_iff.mpr hleads, hblocks⟩

/-! ## Where a walk stops -/

namespace Node

/-- The elements of a path go on from a node when it has properties, and behind an index when the
slot has items. -/
theorem conflict_walk_cons (placement : Placement) (element : PathElement)
    (rest : List PathElement) (node : Node) :
    (walk placement (element :: rest) node).conflict =
      match node.asProperties? with
      | none => some (.arrayForObject element.name)
      | some properties =>
        if element.index.isIndexed then
          match (slot properties element.name).asItems? with
          | none => some (.objectForArray element.name)
          | some items =>
            (walk placement rest (items.getD (placement.resolve element.index items.length)
              .placeholder)).conflict
        else (walk placement rest (slot properties element.name)).conflict := by
  rw [walk]
  cases node.asProperties? with
  | none => rfl
  | some properties =>
    dsimp only
    split
    · cases (slot properties element.name).asItems? <;> rfl
    · rfl

/-- Nothing stops a walk at a scalar: it is an empty slot, and so is all that is created in it. -/
theorem conflict_walk_scalar (placement : Placement) (elements : List PathElement)
    (value : Scalar) : (walk placement elements (.scalar value)).conflict = none := by
  induction elements generalizing value with
  | nil => rfl
  | cons element rest ih =>
    have hslot : slot [] element.name = .scalar .null := rfl
    have hitem (position : Nat) : ([] : List Node).getD position .placeholder = .scalar .null := rfl
    rw [conflict_walk_cons]
    simp only [asProperties?, asItems?, hslot, hitem, ih, ite_self]

end Node

/-- Only an array cannot hold properties. -/
theorem eq_array_of_asProperties? {found : Option Node}
    (h : (found.getD .placeholder).asProperties? = none) :
    ∃ items, found = some (.array items) := by
  cases found with
  | none => cases h
  | some node =>
    cases node with
    | array items => exact ⟨items, rfl⟩
    | object properties => cases h
    | scalar value => cases h

/-- Only an object cannot hold items. -/
theorem eq_object_of_asItems? {found : Option Node}
    (h : (found.getD .placeholder).asItems? = none) :
    ∃ properties, found = some (.object properties) := by
  cases found with
  | none => cases h
  | some node =>
    cases node with
    | array items => cases h
    | object properties => exact ⟨properties, rfl⟩
    | scalar value => cases h

/-- An array has no properties, so a walk that needs some is stopped there. -/
theorem conflict_walk_of_array {placement : Placement} {tree : Node} {here : Location}
    {element : PathElement} {rest : List PathElement} {conflict : Conflict} {items : List Node}
    (hfound : tree.at? here = some (.array items)) :
    some (Conflict.arrayForObject element.name) = some conflict ↔
      Meets placement tree here (element :: rest) conflict := by
  have hslot : tree.at? (here ++ [.property element.name]) = none := by
    rw [Node.at?_append, hfound]
    rfl
  have hbehind : tree.at? (behind placement tree here element) = none := by
    unfold behind
    split
    · exact Node.at?_append_of_eq_none hslot _
    · exact hslot
  rw [meets_cons_iff]
  constructor
  · rintro ⟨⟩
    exact .inl (.array hfound)
  · rintro (hblocks | hmeets)
    · cases hblocks with
      | array _ => rfl
      | object _ hobject =>
        rw [hslot] at hobject
        cases hobject
    · exact (not_meets_of_eq_none hbehind hmeets).elim

/-- An object has no items, so a walk that needs some in its slot is stopped there. -/
theorem conflict_walk_of_object {placement : Placement} {tree : Node} {here : Location}
    {element : PathElement} {rest : List PathElement} {conflict : Conflict}
    {properties : OrderedMap Node} (hindexed : element.index.isIndexed = true)
    (hfound : tree.at? (here ++ [.property element.name]) = some (.object properties)) :
    some (Conflict.objectForArray element.name) = some conflict ↔
      Meets placement tree here (element :: rest) conflict := by
  have hbehind : tree.at? (behind placement tree here element) = none := by
    rw [behind, if_pos hindexed, Node.at?_append, hfound]
    rfl
  rw [meets_cons_iff]
  constructor
  · rintro ⟨⟩
    exact .inl (.object hindexed hfound)
  · rintro (hblocks | hmeets)
    · cases hblocks with
      | array harray =>
        rw [Node.at?_append, harray] at hfound
        cases hfound
      | object _ _ => rfl
    · exact (not_meets_of_eq_none hbehind hmeets).elim

/-- A walk is stopped by exactly the conflicts that its elements meet. -/
theorem conflict_walk_eq_some_iff {placement : Placement} {tree : Node} {here : Location}
    {elements : List PathElement} {conflict : Conflict} :
    (Node.walk placement elements ((tree.at? here).getD .placeholder)).conflict = some conflict ↔
      Meets placement tree here elements conflict := by
  induction elements generalizing here with
  | nil =>
    constructor
    · intro h
      cases h
    · rintro ⟨before, element, after, _, hsplit, _⟩
      cases before <;> cases hsplit
  | cons element rest ih =>
    rw [Node.conflict_walk_cons]
    cases hproperties : ((tree.at? here).getD .placeholder).asProperties? with
    | none =>
      obtain ⟨items, hhere⟩ := eq_array_of_asProperties? hproperties
      exact conflict_walk_of_array hhere
    | some properties =>
      have hslot : Node.slot properties element.name =
          (tree.at? (here ++ [.property element.name])).getD .placeholder := by
        rw [Node.at?_concat_getD, Node.slotAt, Node.child?_property, hproperties]
        rfl
      have hnode : ∀ items, tree.at? here ≠ some (.array items) := by
        intro items hitems
        rw [hitems] at hproperties
        cases hproperties
      dsimp only
      rw [hslot]
      by_cases hindexed : element.index.isIndexed = true
      · rw [if_pos hindexed]
        cases hitems : ((tree.at? (here ++ [.property element.name])).getD
            .placeholder).asItems? with
        | none =>
          obtain ⟨properties, hchild⟩ := eq_object_of_asItems? hitems
          exact conflict_walk_of_object hindexed hchild
        | some items =>
          have hlength : items.length = tree.lengthAt (here ++ [.property element.name]) := by
            rw [Node.lengthAt_eq, hitems, Option.getD_some]
          have hfree : ¬ Blocks tree here element conflict := by
            intro hblocks
            cases hblocks with
            | array hfound => exact hnode _ hfound
            | object _ hfound => rw [hfound] at hitems; cases hitems
          have hitem : items.getD (placement.resolve element.index items.length) .placeholder =
              (tree.at? (behind placement tree here element)).getD .placeholder := by
            rw [behind, if_pos hindexed, Node.at?_concat_getD, Node.slotAt, Node.child?_item,
              hitems, hlength]
            exact List.getD_eq_getElem?_getD
          dsimp only
          rw [hitem, ih, meets_cons_iff, or_iff_right hfree]
      · have hfree : ¬ Blocks tree here element conflict := by
          intro hblocks
          cases hblocks with
          | array hfound => exact hnode _ hfound
          | object hindex _ => exact hindexed hindex
        rw [if_neg hindexed, ih, meets_cons_iff, or_iff_right hfree, behind, if_neg hindexed]

/-! ## Writing in place -/

/-- Growing an array shows no further items: what is added ends at the position. -/
theorem Step.leavesMore_grow (tags : List String) (element : PathElement) (items : List Node)
    (position : Nat) :
    (Step.item element position (Node.grow items position).length).leavesMore tags =
      (Step.item element position items.length).leavesMore tags := by
  have hlt : position + 1 < max items.length (position + 1) ↔ position + 1 < items.length := by
    omega
  simp only [Step.leavesMore, Node.length_grow, hlt]

namespace Node

variable {placement : Placement} {tags : List String} {value : Scalar}

/-- A grown array has at the position what the array had, or an empty slot. -/
theorem getD_grow (items : List Node) (position : Nat) :
    (grow items position).getD position .placeholder = items.getD position .placeholder := by
  rw [List.getD_eq_getElem?_getD, List.getD_eq_getElem?_getD, getElem?_grow, if_pos (Nat.le_refl _)]
  split
  · rfl
  · rw [List.getElem?_eq_none (by omega)]
    rfl

/-- A write in place fails where the walk along the tree as it was before is stopped, and otherwise
reports the same further items. -/
theorem outcome_writeInPlace (more : Bool) (elements : List PathElement) (node : Node) :
    (node.writeInPlace placement tags value more elements).outcome =
      match (walk placement elements node).conflict with
      | some conflict => .error conflict
      | none => .ok (more || (walk placement elements node).steps.any (·.leavesMore tags)) := by
  induction elements generalizing more node with
  | nil => simp [writeInPlace, walk]
  | cons element rest ih =>
    rw [writeInPlace, walk]
    cases node.asProperties? with
    | none => rfl
    | some properties =>
      dsimp only
      split
      · cases (slot properties element.name).asItems? with
        | none => rfl
        | some items =>
          dsimp only
          rw [ih, getD_grow, Step.leavesMore_grow]
          simp only [Walk.cons, List.any_cons, Bool.or_assoc]
      · rw [ih]
        simp only [Walk.cons, List.any_cons, Step.leavesMore, Bool.false_or]

/-- A write in place that succeeds puts its scalar where the walk leads. -/
theorem node_writeInPlace_of_walk (more : Bool) {elements : List PathElement} {node : Node}
    (h : (walk placement elements node).conflict = none) :
    (node.writeInPlace placement tags value more elements).node =
      node.put value (walk placement elements node).steps := by
  induction elements generalizing more node with
  | nil => rfl
  | cons element rest ih =>
    rw [writeInPlace, walk]
    rw [conflict_walk_cons] at h
    cases hproperties : node.asProperties? with
    | none =>
      rw [hproperties] at h
      cases h
    | some properties =>
      rw [hproperties] at h
      dsimp only at h ⊢
      split at h
      · rename_i hindexed
        rw [if_pos hindexed, if_pos hindexed]
        cases hitems : (slot properties element.name).asItems? with
        | none =>
          rw [hitems] at h
          cases h
        | some items =>
          rw [hitems] at h
          dsimp only at h ⊢
          rw [ih _ (by rwa [getD_grow]), getD_grow]
          have hlt : placement.resolve element.index items.length <
              (grow items (placement.resolve element.index items.length)).length := by
            rw [length_grow]
            omega
          simp only [Walk.cons, put, modifyProperty, hproperties, Option.getD_some, hitems,
            modifyItem]
          rw [List.modify_eq_set_getElem?, ← getD_grow, List.getD_eq_getElem _ _ hlt,
            List.getElem?_eq_getElem hlt]
          rfl
      · rename_i hindexed
        rw [if_neg hindexed, if_neg hindexed]
        dsimp only
        rw [ih _ h]
        simp only [Walk.cons, put, modifyProperty, hproperties, Option.getD_some]

/-- An entry that is no empty slot has been there before: making it an entry changes nothing. -/
theorem object_insert_slot {node : Node} {properties : OrderedMap Node} {name : String}
    (hproperties : node.asProperties? = some properties)
    (hslot : ∀ value, slot properties name ≠ .scalar value) :
    Node.object (properties.insert name (slot properties name)) = node := by
  have hget : ∃ child, properties.get? name = some child := by
    rw [← Option.isSome_iff_exists, ← Option.ne_none_iff_isSome]
    intro hnone
    exact hslot .null (by rw [slot, hnone]; rfl)
  obtain ⟨child, hchild⟩ := hget
  have heq : slot properties name = child := by rw [slot, hchild, Option.getD_some]
  rw [heq, OrderedMap.insert_eq_self hchild]
  cases node with
  | object found =>
    cases hproperties
    rfl
  | array items => cases hproperties
  | scalar value =>
    cases hproperties
    cases hchild

/-- An item that is no empty slot has been there before: reaching for it changes nothing. -/
theorem array_set_grow {node : Node} {items : List Node} {position : Nat}
    (hitems : node.asItems? = some items)
    (hitem : ∀ value, (grow items position).getD position .placeholder ≠ .scalar value) :
    Node.array ((grow items position).set position
      ((grow items position).getD position .placeholder)) = node := by
  rw [getD_grow] at hitem ⊢
  have hlt : position < items.length := by
    by_contra hge
    exact hitem .null (by
      rw [List.getD_eq_getElem?_getD, List.getElem?_eq_none (Nat.le_of_not_lt hge)]
      rfl)
  have hgrow : grow items position = items := by
    have hnone : position + 1 - items.length = 0 := by omega
    rw [grow_eq, hnone, List.replicate_zero, List.append_nil]
  rw [hgrow, List.getD_eq_getElem _ _ hlt, List.set_getElem_self]
  cases node with
  | array found =>
    cases hitems
    rfl
  | object properties => cases hitems
  | scalar value =>
    cases hitems
    cases hlt

/-- A write in place that fails leaves the node as it was. What a conflict arises in is no scalar,
so neither its entry nor its item has been created. -/
theorem node_writeInPlace_of_conflict (more : Bool) {elements : List PathElement} {node : Node}
    {conflict : Conflict} (h : (walk placement elements node).conflict = some conflict) :
    (node.writeInPlace placement tags value more elements).node = node := by
  induction elements generalizing more node with
  | nil => cases h
  | cons element rest ih =>
    rw [writeInPlace]
    rw [conflict_walk_cons] at h
    cases hproperties : node.asProperties? with
    | none => rfl
    | some properties =>
      rw [hproperties] at h
      dsimp only at h ⊢
      split at h
      · rename_i hindexed
        rw [if_pos hindexed]
        cases hitems : (slot properties element.name).asItems? with
        | none =>
          refine object_insert_slot hproperties fun scalar hscalar => ?_
          rw [hscalar] at hitems
          cases hitems
        | some items =>
          rw [hitems] at h
          dsimp only at h ⊢
          have hslot : ∀ scalar, slot properties element.name ≠ .scalar scalar := by
            intro scalar hscalar
            rw [hscalar] at hitems
            cases hitems
            have hitem (position : Nat) :
                ([] : List Node).getD position .placeholder = .scalar .null := rfl
            rw [hitem, conflict_walk_scalar] at h
            cases h
          rw [ih _ (by rwa [getD_grow]), array_set_grow hitems]
          · exact object_insert_slot hproperties hslot
          · intro scalar hscalar
            rw [← getD_grow, hscalar, conflict_walk_scalar] at h
            cases h
      · rename_i hindexed
        rw [if_neg hindexed]
        dsimp only
        rw [ih _ h]
        refine object_insert_slot hproperties fun scalar hscalar => ?_
        rw [hscalar, conflict_walk_scalar] at h
        cases h

end Node

/-- Writing in place does what a write does: it succeeds with the same tree and the same report, or
fails with the same conflict. -/
theorem Path.writeInPlace_eq (path : Path) (placement : Placement) (tags : List String)
    (value : Scalar) (target : Node) :
    path.writeInPlace placement tags value target =
      match path.write placement tags value target with
      | .ok written => (.ok written.more, written.node)
      | .error conflict => (.error (.pathConflict path conflict), target) := by
  rw [Path.writeInPlace, Path.write, Path.walk]
  have houtcome : (target.writeInPlace placement tags value false path.elements).outcome = _ :=
    Node.outcome_writeInPlace false path.elements target
  cases hconflict : (Node.walk placement path.elements target).conflict with
  | some conflict =>
    rw [hconflict] at houtcome
    dsimp only at houtcome ⊢
    rw [houtcome, Node.node_writeInPlace_of_conflict false hconflict]
    rfl
  | none =>
    rw [hconflict] at houtcome
    dsimp only at houtcome ⊢
    rw [houtcome, Node.node_writeInPlace_of_walk false hconflict, Bool.false_or]
    rfl

/-- A write fails with exactly the conflicts that its elements meet. -/
theorem Path.write_eq_error_iff {path : Path} {placement : Placement} {tags : List String}
    {value : Scalar} {target : Node} {conflict : Conflict} :
    path.write placement tags value target = .error conflict ↔
      Meets placement target [] path.elements conflict := by
  have hroot : (Node.walk placement path.elements target).conflict = some conflict ↔ _ :=
    @conflict_walk_eq_some_iff placement target [] path.elements conflict
  rw [← hroot, Path.write, Path.walk]
  cases (Node.walk placement path.elements target).conflict with
  | some found =>
    dsimp only
    rw [Except.error.injEq, Option.some.injEq]
  | none =>
    constructor
    · intro h
      cases h
    · intro h
      cases h

/-- A write in place that fails leaves the tree as it was. It fails exactly when its elements, each
resolved in the tree as it was, meet an array where an object is needed or an object where an array
is needed, and the error names the path and that node. The write that returns the new tree fails in
the same cases. -/
theorem failed_write_changes_nothing (path : Path) (placement : Placement) (tags : List String)
    (value : Scalar) (target : Node) :
    (∀ error after, path.writeInPlace placement tags value target = (.error error, after) ↔
      after = target ∧ ∃ conflict, error = .pathConflict path conflict ∧
        Meets placement target [] path.elements conflict) ∧
    ∀ conflict, path.write placement tags value target = .error conflict ↔
      Meets placement target [] path.elements conflict := by
  refine ⟨?_, fun _ => Path.write_eq_error_iff⟩
  intro error after
  rw [Path.writeInPlace_eq]
  constructor
  · intro h
    cases hwrite : path.write placement tags value target with
    | ok written =>
      rw [hwrite] at h
      cases h
    | error conflict =>
      rw [hwrite] at h
      cases h
      exact ⟨rfl, conflict, rfl, Path.write_eq_error_iff.mp hwrite⟩
  · rintro ⟨rfl, conflict, rfl, hmeets⟩
    rw [Path.write_eq_error_iff.mpr hmeets]

/-- The second line is an array already, so it cannot get a property, and the first line stays. -/
example : (Path.writeInPlace ⟨[⟨"lines", .named "a1"⟩, .property "rate"]⟩ [("a1", .position 1)] []
    (.integer 9) (.object [("lines", .array [.placeholder, .array []])])) =
      (.error (.pathConflict ⟨[⟨"lines", .named "a1"⟩, .property "rate"]⟩ (.arrayForObject "rate")),
        .object [("lines", .array [.placeholder, .array []])]) := rfl

end DocumentMapping
