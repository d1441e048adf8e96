import DocumentMapping.Proofs.Tree.Storing

/-!
# What a write changes

A write resolves its path in the tree as it is and then stores the scalar there. This file says
where a path leads, without reference to the walk of a write, and proves that a write that succeeds
changes just that location: the scalar stands there, diverging locations keep what they hold,
containers on the way only grow, and nothing but the way and empty slots is new.
-/

namespace DocumentMapping

/-! ## Where a path leads -/

/-- Where an index points in an array with the given number of items. -/
inductive PointsTo (placement : Placement) (length : Nat) : PathIndex → Nat → Prop where
  /-- A fixed position points to itself. -/
  | static (position : UInt32) : PointsTo placement length (.static position) position.toNat
  /-- A hint with a position points there. -/
  | pinned {index : PathIndex} {tag : String} {position : Nat} (hdynamic : index.isDynamic = true)
      (htag : index.tag? = some tag) (hhint : placement.get? tag = some (.position position)) :
      PointsTo placement length index position
  /-- A hint to append points behind the last item. -/
  | appended {index : PathIndex} {tag : String} (hdynamic : index.isDynamic = true)
      (htag : index.tag? = some tag) (hhint : placement.get? tag = some .append) :
      PointsTo placement length index length
  /-- Without a hint a single asterisk appends. -/
  | asterisk (hhint : placement.get? "*" = none) :
      PointsTo placement length (.wildcard 1) length
  /-- Without a hint any other tag points to the last item, or to the first of none. -/
  | last {index : PathIndex} {tag : String} (hdynamic : index.isDynamic = true)
      (htag : index.tag? = some tag) (hhint : placement.get? tag = none)
      (hne : index ≠ .wildcard 1) : PointsTo placement length index (length - 1)

/-- The location that elements lead to from another one, when their indexes are resolved one after
the other in a tree. -/
inductive Leads (placement : Placement) (tree : Node) :
    Location → List PathElement → Location → Prop where
  | done (here : Location) : Leads placement tree here [] here
  | property {here there : Location} {element : PathElement} {rest : List PathElement}
      (hindex : element.index = .none)
      (hrest : Leads placement tree (here ++ [.property element.name]) rest there) :
      Leads placement tree here (element :: rest) there
  | item {here there : Location} {element : PathElement} {rest : List PathElement} {position : Nat}
      (hpoints : PointsTo placement (tree.lengthAt (here ++ [.property element.name]))
        element.index position)
      (hrest : Leads placement tree (here ++ [.property element.name] ++ [.item position]) rest
        there) :
      Leads placement tree here (element :: rest) there

/-- On the way of elements from a location, an element with one of the tags points to an item with
further items behind it. -/
def LeavesItems (placement : Placement) (tags : List String) (tree : Node) (start : Location)
    (elements : List PathElement) : Prop :=
  ∃ before element after here position tag,
    elements = before ++ element :: after ∧ element.tag? = some tag ∧ tag ∈ tags ∧
      Leads placement tree start before here ∧
      PointsTo placement (tree.lengthAt (here ++ [.property element.name])) element.index
        position ∧
      position + 1 < tree.lengthAt (here ++ [.property element.name])

theorem not_pointsTo_none {placement : Placement} {length position : Nat} :
    ¬ PointsTo placement length .none position := by
  intro h
  cases h with
  | pinned hdynamic => cases hdynamic
  | appended hdynamic => cases hdynamic
  | last hdynamic => cases hdynamic

/-- An index has a fixed position, or a tag under which its position is decided while mapping. -/
theorem PathIndex.static_or_tagged {index : PathIndex} (hindexed : index.isIndexed = true) :
    (∃ position, index = .static position) ∨
      ∃ tag, index.isDynamic = true ∧ index.tag? = some tag := by
  cases index with
  | none => cases hindexed
  | static position => exact .inl ⟨position, rfl⟩
  | wildcard run => exact .inr ⟨_, rfl, rfl⟩
  | named tag => exact .inr ⟨_, rfl, rfl⟩

/-- An index whose position is decided while mapping is resolved by the hint under its tag. -/
theorem resolve_of_isDynamic {placement : Placement} {index : PathIndex} {tag : String}
    (hdynamic : index.isDynamic = true) (htag : index.tag? = some tag) (length : Nat) :
    placement.resolve index length =
      match placement.get? tag with
      | some (.position position) => position
      | some .append => length
      | none => if index = .wildcard 1 then length else length - 1 := by
  have hbind : index.tag?.bind placement.get? = placement.get? tag := by rw [htag, Option.bind_some]
  cases index with
  | none => cases hdynamic
  | static position => cases hdynamic
  | wildcard run =>
    rcases hhint : placement.get? tag with _ | _ | position <;>
      simp [Placement.resolve, hbind, hhint]
  | named name =>
    rcases hhint : placement.get? tag with _ | _ | position <;>
      simp [Placement.resolve, hbind, hhint]

/-- An index points to the position that a write resolves it to. -/
theorem pointsTo_iff {placement : Placement} {length position : Nat} {index : PathIndex}
    (hindexed : index.isIndexed = true) :
    PointsTo placement length index position ↔ position = placement.resolve index length := by
  constructor
  · intro h
    cases h with
    | static position => rfl
    | pinned hdynamic htag hhint => rw [resolve_of_isDynamic hdynamic htag, hhint]
    | appended hdynamic htag hhint => rw [resolve_of_isDynamic hdynamic htag, hhint]
    | asterisk hhint =>
      have htag : (PathIndex.wildcard 1).tag? = some "*" := rfl
      rw [resolve_of_isDynamic rfl htag, hhint]
      rfl
    | last hdynamic htag hhint hne =>
      rw [resolve_of_isDynamic hdynamic htag, hhint]
      exact (if_neg hne).symm
  · rintro rfl
    rcases PathIndex.static_or_tagged hindexed with ⟨position, rfl⟩ | ⟨tag, hdynamic, htag⟩
    · exact .static position
    · rw [resolve_of_isDynamic hdynamic htag]
      rcases hhint : placement.get? tag with _ | _ | position
      · by_cases hone : index = .wildcard 1
        · subst hone
          cases htag
          rw [if_pos rfl]
          exact .asterisk hhint
        · rw [if_neg hone]
          exact .last hdynamic htag hhint hone
      · exact .appended hdynamic htag hhint
      · exact .pinned hdynamic htag hhint

/-! ## The walk of a write -/

/-- The places of a step. -/
def Step.places : Step → Location
  | .property name => [.property name]
  | .item element position _ => [.property element.name, .item position]

/-- The location that a walk leads to. -/
def Walk.location (walk : Walk) : Location :=
  walk.steps.flatMap Step.places

namespace Node

/-- The scalar is put at the location of the steps. -/
theorem put_eq_store (node : Node) (value : Scalar) (steps : List Step) :
    node.put value steps = node.store value (steps.flatMap Step.places) := by
  induction steps generalizing node with
  | nil => rfl
  | cons step rest ih =>
    have hrest : put value rest = store value (rest.flatMap Step.places) := funext ih
    cases step with
    | property name => rw [put, hrest]; rfl
    | item element position length => rw [put, hrest]; rfl

/-- A missing node is looked up like an empty slot. -/
theorem at?_concat_getD (tree : Node) (here : Location) (place : Place) :
    (tree.at? (here ++ [place])).getD .placeholder =
      ((tree.at? here).getD .placeholder).slotAt place := by
  rw [at?_append]
  cases tree.at? here with
  | some node =>
    rw [Option.bind_some, at?_cons, Option.getD_some, slotAt]
    cases node.child? place <;> rfl
  | none => rw [Option.bind_none, Option.getD_none, placeholder, slotAt_scalar]; rfl

/-- The length at a location is that of the items that a write finds there. -/
theorem lengthAt_eq (tree : Node) (here : Location) :
    tree.lengthAt here =
      (((tree.at? here).getD .placeholder).asItems?.getD []).length := by
  unfold lengthAt
  cases tree.at? here with
  | none => rfl
  | some node => cases node <;> rfl

/-- A store below an item adds the items up to its own. -/
theorem lengthAt_store (node : Node) (value : Scalar) (here : Location) (position : Nat)
    (rest : Location) :
    (node.store value (here ++ .item position :: rest)).lengthAt here =
      max (node.lengthAt here) (position + 1) := by
  rw [lengthAt, at?_store_append, lengthAt_eq, store_cons, modifyChild]
  simp only [length_modifyItem]

/-- The slot under a name is what a write finds at the property. -/
theorem slotAt_property {node : Node} {properties : OrderedMap Node}
    (h : node.asProperties? = some properties) (name : String) :
    node.slotAt (.property name) = slot properties name := by
  rw [slotAt, child?_property, h]
  rfl

/-- What a write finds at an item is the item, or an empty slot behind the last one. -/
theorem slotAt_item {node : Node} {items : List Node} (h : node.asItems? = some items)
    (position : Nat) : node.slotAt (.item position) = items.getD position .placeholder := by
  rw [slotAt, child?_item, h, List.getD_eq_getElem?_getD]
  rfl

/-- A walk goes on in the slot of an element without an index. -/
theorem walk_property {placement : Placement} {element : PathElement} {rest : List PathElement}
    {node : Node} (haccepts : node.Accepts (.property element.name))
    (hindexed : element.index.isIndexed = false) :
    walk placement (element :: rest) node =
      (walk placement rest (node.slotAt (.property element.name))).cons
        (.property element.name) := by
  obtain ⟨properties, hproperties⟩ := Option.isSome_iff_exists.mp haccepts
  rw [walk, hproperties, slotAt_property hproperties, hindexed]
  rfl

/-- A walk goes on in the item at the position of an index. -/
theorem walk_item {placement : Placement} {element : PathElement} {rest : List PathElement}
    {node : Node} {items : List Node} {position : Nat}
    (haccepts : node.Accepts (.property element.name))
    (hindexed : element.index.isIndexed = true)
    (hitems : (node.slotAt (.property element.name)).asItems? = some items)
    (hposition : placement.resolve element.index items.length = position) :
    walk placement (element :: rest) node =
      (walk placement rest ((node.slotAt (.property element.name)).slotAt (.item position))).cons
        (.item element position items.length) := by
  obtain ⟨properties, hproperties⟩ := Option.isSome_iff_exists.mp haccepts
  rw [slotAt_item hitems]
  rw [slotAt_property hproperties] at hitems
  rw [walk, hproperties]
  simp only [hindexed, if_true, hitems, hposition]

/-- The first step of a walk that nothing stops. -/
theorem walk_cons {placement : Placement} {element : PathElement} {rest : List PathElement}
    {node : Node} (h : (walk placement (element :: rest) node).conflict = none) :
    node.Accepts (.property element.name) ∧
      ((element.index = .none ∧
          (walk placement rest (node.slotAt (.property element.name))).conflict = none ∧
          walk placement (element :: rest) node =
            (walk placement rest (node.slotAt (.property element.name))).cons
              (.property element.name)) ∨
        ∃ length position,
          element.index.isIndexed = true ∧
          length = ((node.slotAt (.property element.name)).asItems?.getD []).length ∧
          position = placement.resolve element.index length ∧
          (node.slotAt (.property element.name)).Accepts (.item position) ∧
          (walk placement rest ((node.slotAt (.property element.name)).slotAt
            (.item position))).conflict = none ∧
          walk placement (element :: rest) node =
            (walk placement rest ((node.slotAt (.property element.name)).slotAt
              (.item position))).cons (.item element position length)) := by
  cases hproperties : node.asProperties? with
  | none => simp [walk, hproperties] at h
  | some properties =>
    have haccepts : node.Accepts (.property element.name) := by simp [Accepts, hproperties]
    have hslot := slotAt_property hproperties element.name
    refine ⟨haccepts, ?_⟩
    by_cases hindexed : element.index.isIndexed = true
    · right
      cases hitems : (slot properties element.name).asItems? with
      | none => simp [walk, hproperties, hindexed, hitems] at h
      | some items =>
        rw [← hslot] at hitems
        have hwalk := @walk_item placement element rest node items _ haccepts hindexed hitems rfl
        rw [hwalk] at h
        have hlength : items.length =
            ((node.slotAt (.property element.name)).asItems?.getD []).length := by
          rw [hitems, Option.getD_some]
        exact ⟨items.length, _, hindexed, hlength, rfl, by simp [Accepts, hitems], h, hwalk⟩
    · left
      have hnone : element.index = .none := by
        cases hcase : element.index <;> simp [hcase, PathIndex.isIndexed] at hindexed ⊢
      have hwalk := @walk_property placement element rest node haccepts
        (Bool.eq_false_iff.mpr hindexed)
      rw [hwalk] at h
      exact ⟨hnone, h, hwalk⟩

/-- A walk that nothing stops leads to a location that the node admits. -/
theorem admits_walk {placement : Placement} {elements : List PathElement} {node : Node}
    (h : (walk placement elements node).conflict = none) :
    node.Admits (walk placement elements node).location := by
  induction elements generalizing node with
  | nil => trivial
  | cons element rest ih =>
    obtain ⟨haccepts, ⟨_, hrest, hwalk⟩ | ⟨length, position, _, _, _, hitem, hrest, hwalk⟩⟩ :=
      walk_cons h
    · rw [hwalk]
      exact ⟨haccepts, ih hrest⟩
    · rw [hwalk]
      exact ⟨haccepts, hitem, ih hrest⟩

end Node

/-- Elements lead where the walk goes. -/
theorem leads_iff {placement : Placement} {tree : Node} {here there : Location}
    {elements : List PathElement}
    (h : (Node.walk placement elements ((tree.at? here).getD .placeholder)).conflict = none) :
    Leads placement tree here elements there ↔
      there = here ++
        (Node.walk placement elements ((tree.at? here).getD .placeholder)).location := by
  induction elements generalizing here with
  | nil =>
    have hnil : here ++ (Node.walk placement [] ((tree.at? here).getD .placeholder)).location =
        here := List.append_nil here
    rw [hnil]
    constructor
    · rintro ⟨⟩
      rfl
    · rintro rfl
      exact .done _
  | cons element rest ih =>
    obtain ⟨_, ⟨hindex, hrest, hwalk⟩ | ⟨length, position, hindexed, hlength, hposition, _, hrest,
      hwalk⟩⟩ := Node.walk_cons h
    · rw [← Node.at?_concat_getD] at hrest hwalk
      have hlocation : here ++ (Node.walk placement (element :: rest)
          ((tree.at? here).getD .placeholder)).location = here ++ [.property element.name] ++
            (Node.walk placement rest ((tree.at? (here ++ [.property element.name])).getD
              .placeholder)).location := by
        rw [hwalk, List.append_assoc]
        rfl
      rw [hlocation, ← ih hrest]
      constructor
      · intro hleads
        cases hleads with
        | property _ hleads => exact hleads
        | item hpoints _ =>
          rw [hindex] at hpoints
          exact (not_pointsTo_none hpoints).elim
      · exact .property hindex
    · rw [← Node.at?_concat_getD, ← Node.at?_concat_getD] at hrest hwalk
      rw [← Node.at?_concat_getD, ← Node.lengthAt_eq] at hlength
      have hpoints : PointsTo placement length element.index position :=
        (pointsTo_iff hindexed).mpr hposition
      have hlocation : here ++ (Node.walk placement (element :: rest)
          ((tree.at? here).getD .placeholder)).location =
            here ++ [.property element.name] ++ [.item position] ++
              (Node.walk placement rest ((tree.at? (here ++ [.property element.name] ++
                [.item position])).getD .placeholder)).location := by
        rw [hwalk, List.append_assoc, List.append_assoc]
        rfl
      rw [hlocation, ← ih hrest]
      constructor
      · intro hleads
        cases hleads with
        | property hnone _ =>
          rw [hnone] at hindexed
          cases hindexed
        | item hpoints' hleads =>
          rw [← hlength, pointsTo_iff hindexed, ← hposition] at hpoints'
          rwa [hpoints'] at hleads
      · rw [hlength] at hpoints
        exact .item hpoints

/-- An element without an index leaves nothing behind its item, so only the rest counts. -/
theorem leavesItems_property {placement : Placement} {tags : List String} {tree : Node}
    {here : Location} {element : PathElement} {rest : List PathElement}
    (hindex : element.index = .none) :
    LeavesItems placement tags tree here (element :: rest) ↔
      LeavesItems placement tags tree (here ++ [.property element.name]) rest := by
  constructor
  · rintro ⟨before, last, after, there, position, tag, hsplit, htag, hmem, hleads, hpoints, hlt⟩
    cases before with
    | nil =>
      obtain ⟨rfl, rfl⟩ := List.cons.inj hsplit
      rw [hindex] at hpoints
      exact (not_pointsTo_none hpoints).elim
    | cons first before =>
      obtain ⟨rfl, rfl⟩ := List.cons.inj hsplit
      cases hleads with
      | property _ hleads =>
        exact ⟨before, last, after, there, position, tag, rfl, htag, hmem, hleads, hpoints, hlt⟩
      | item hfirst _ =>
        rw [hindex] at hfirst
        exact (not_pointsTo_none hfirst).elim
  · rintro ⟨before, last, after, there, position, tag, rfl, htag, hmem, hleads, hpoints, hlt⟩
    exact ⟨element :: before, last, after, there, position, tag, rfl, htag, hmem,
      .property hindex hleads, hpoints, hlt⟩

/-- An element with an index leaves items behind its own item, or the rest does. -/
theorem leavesItems_item {placement : Placement} {tags : List String} {tree : Node}
    {here : Location} {element : PathElement} {rest : List PathElement} {position : Nat}
    (hpoints : ∀ other, PointsTo placement (tree.lengthAt (here ++ [.property element.name]))
      element.index other ↔ other = position) :
    LeavesItems placement tags tree here (element :: rest) ↔
      (∃ tag, element.tag? = some tag ∧ tag ∈ tags ∧
        position + 1 < tree.lengthAt (here ++ [.property element.name])) ∨
      LeavesItems placement tags tree (here ++ [.property element.name] ++ [.item position])
        rest := by
  constructor
  · rintro ⟨before, last, after, there, other, tag, hsplit, htag, hmem, hleads, hother, hlt⟩
    cases before with
    | nil =>
      obtain ⟨rfl, rfl⟩ := List.cons.inj hsplit
      cases hleads
      rw [(hpoints other).mp hother] at hlt
      exact .inl ⟨tag, htag, hmem, hlt⟩
    | cons first before =>
      obtain ⟨rfl, rfl⟩ := List.cons.inj hsplit
      right
      cases hleads with
      | property hindex _ =>
        have h := (hpoints position).mpr rfl
        rw [hindex] at h
        exact (not_pointsTo_none h).elim
      | item hfirst hleads =>
        rw [(hpoints _).mp hfirst] at hleads
        exact ⟨before, last, after, there, other, tag, rfl, htag, hmem, hleads, hother, hlt⟩
  · rintro (⟨tag, htag, hmem, hlt⟩ |
      ⟨before, last, after, there, other, tag, rfl, htag, hmem, hleads, hother, hlt⟩)
    · exact ⟨[], element, rest, here, position, tag, rfl, htag, hmem, .done _,
        (hpoints position).mpr rfl, hlt⟩
    · exact ⟨element :: before, last, after, there, other, tag, rfl, htag, hmem,
        .item ((hpoints position).mpr rfl) hleads, hother, hlt⟩

/-- A walk reports further items exactly when its elements leave some. -/
theorem any_leavesMore_iff {placement : Placement} {tags : List String} {tree : Node}
    {here : Location} {elements : List PathElement}
    (h : (Node.walk placement elements ((tree.at? here).getD .placeholder)).conflict = none) :
    (Node.walk placement elements ((tree.at? here).getD .placeholder)).steps.any
        (·.leavesMore tags) = true ↔
      LeavesItems placement tags tree here elements := by
  induction elements generalizing here with
  | nil =>
    constructor
    · intro hany
      cases hany
    · rintro ⟨before, last, after, _, _, _, hsplit, _⟩
      cases before <;> cases hsplit
  | cons element rest ih =>
    obtain ⟨_, ⟨hindex, hrest, hwalk⟩ | ⟨length, position, hindexed, hlength, hposition, _, hrest,
      hwalk⟩⟩ := Node.walk_cons h
    · rw [← Node.at?_concat_getD] at hrest hwalk
      rw [hwalk, leavesItems_property hindex, ← ih hrest]
      rfl
    · rw [← Node.at?_concat_getD, ← Node.at?_concat_getD] at hrest hwalk
      rw [← Node.at?_concat_getD, ← Node.lengthAt_eq] at hlength
      have hpoints : ∀ other, PointsTo placement
          (tree.lengthAt (here ++ [.property element.name])) element.index other ↔
            other = position := by
        intro other
        rw [pointsTo_iff hindexed, hposition, hlength]
      rw [hwalk, leavesItems_item hpoints, ← ih hrest, ← hlength]
      simp only [Walk.cons, List.any_cons, Bool.or_eq_true]
      apply or_congr_left
      simp only [Step.leavesMore]
      cases element.tag? with
      | none => simp
      | some tag => simp

/-! ## The effect of a write -/

/-- A scalar has come to a location of a tree, and nothing else has changed but what was needed to
make a place for it. -/
structure Placed (before after : Node) (location : Location) (value : Scalar) : Prop where
  /-- The scalar stands at the location. -/
  stored : after.at? location = some (.scalar value)
  /-- What stood at a location that diverges stands there still. -/
  unchanged : ∀ other node, location.Diverges other → before.at? other = some node →
    after.at? other = some node
  /-- An array on the way keeps its length or becomes longer. -/
  arrays : ∀ way place rest items, location = way ++ place :: rest →
    before.at? way = some (.array items) →
      ∃ grown, after.at? way = some (.array grown) ∧ items.length ≤ grown.length
  /-- An object on the way keeps its properties in order, and new ones follow. -/
  objects : ∀ way place rest properties, location = way ++ place :: rest →
    before.at? way = some (.object properties) →
      ∃ grown : OrderedMap Node, after.at? way = some (.object grown) ∧
        OrderedMap.keys properties <+: grown.keys
  /-- A new location is on the way, the location itself, or an empty slot. -/
  added : ∀ other, before.at? other = none → (after.at? other).isSome →
    other <+: location ∨
      (other.Pads location ∧ after.at? other = some .placeholder)

/-- What is admitted from the root is admitted from every node on the way. -/
theorem Node.Admits.of_append {node found : Node} {way rest : Location}
    (h : node.Admits (way ++ rest)) (hfound : node.at? way = some found) : found.Admits rest := by
  induction way generalizing node with
  | nil =>
    cases hfound
    exact h
  | cons place more ih =>
    rw [Node.at?_cons, Option.bind_eq_some_iff] at hfound
    obtain ⟨child, hchild, hmore⟩ := hfound
    have hadmits := h.2
    rw [Node.slotAt_of_child? hchild] at hadmits
    exact ih hadmits hmore

/-- A store places its scalar. -/
theorem placed_store {node : Node} {location : Location} (value : Scalar)
    (hadmits : node.Admits location) : Placed node (node.store value location) location value where
  stored := Node.at?_store node value location
  unchanged := by
    intro other found hdiverges hfound
    rcases Node.at?_store_of_diverges value hadmits hdiverges with hsame | ⟨hnone, _, _⟩
    · rw [hsame, hfound]
    · rw [hnone] at hfound
      cases hfound
  arrays := by
    rintro way place rest items rfl hitems
    have haccepts := (hadmits.of_append hitems).1
    rw [Node.at?_store_append, hitems]
    cases place with
    | property name => cases haccepts
    | item position =>
      refine ⟨_, rfl, ?_⟩
      rw [Node.length_modifyItem]
      exact Nat.le_max_left _ _
  objects := by
    rintro way place rest properties rfl hproperties
    have haccepts := (hadmits.of_append hproperties).1
    rw [Node.at?_store_append, hproperties]
    cases place with
    | item position => cases haccepts
    | property name =>
      refine ⟨_, rfl, ?_⟩
      rw [OrderedMap.keys_insert]
      split
      · exact List.prefix_refl _
      · exact List.prefix_append _ _
  added := by
    intro other hnone hsome
    rcases location.diverges_or_below other with hdiverges | rfl | ⟨place, rest, rfl⟩ |
      ⟨place, rest, heq⟩
    · rcases Node.at?_store_of_diverges value hadmits hdiverges with
        hsame | ⟨_, hplaceholder, hpads⟩
      · rw [hsame, hnone] at hsome
        cases hsome
      · exact .inr ⟨hpads, hplaceholder⟩
    · exact .inl (List.prefix_refl _)
    · rw [Node.at?_store_below _ _ _ _ (List.cons_ne_nil _ _)] at hsome
      cases hsome
    · left
      rw [heq]
      exact List.prefix_append _ _

/-- A write that succeeds places its scalar at the location of its walk. -/
theorem Path.write_eq_ok {path : Path} {placement : Placement} {tags : List String} {value : Scalar}
    {target : Node} {written : Written}
    (h : path.write placement tags value target = .ok written) :
    (path.walk placement target).conflict = none ∧
      written.node = target.store value (path.walk placement target).location ∧
      written.more = (path.walk placement target).steps.any (·.leavesMore tags) := by
  unfold Path.write at h
  split at h
  · cases h
  · rename_i hconflict
    cases h
    exact ⟨hconflict, Node.put_eq_store _ _ _, rfl⟩

/-- A write that succeeds stores its scalar where the path leads in the tree before the write, and
changes nothing else but what makes a place for it. It reports further items exactly when an element
with one of the tags points to an item that has items behind it. -/
theorem write_places_scalar {path : Path} {placement : Placement} {tags : List String}
    {value : Scalar} {target : Node} {written : Written}
    (h : path.write placement tags value target = .ok written) :
    ∃ location, (∀ there, Leads placement target [] path.elements there ↔ there = location) ∧
      Placed target written.node location value ∧
      (written.more = true ↔ LeavesItems placement tags target [] path.elements) := by
  obtain ⟨hconflict, hnode, hmore⟩ := Path.write_eq_ok h
  have hroot : (Node.walk placement path.elements
      ((target.at? []).getD .placeholder)).conflict = none := hconflict
  refine ⟨(path.walk placement target).location, ?_, ?_, ?_⟩
  · intro there
    exact leads_iff hroot
  · rw [hnode]
    exact placed_store value (Node.admits_walk hconflict)
  · rw [hmore]
    exact any_leavesMore_iff hroot

/-- A document of two lines, the first with a list of taxes and the second still empty. -/
def twoLines (taxes : List Node) : Node :=
  .object [("lines", .array [.object [("tax", .array taxes)], .placeholder])]

/-- A write under a hint for the first line appends to its taxes and sees the second line. -/
theorem write_places_scalar_in_first_line :
    Path.write ⟨[⟨"lines", .named "a1"⟩, ⟨"tax", .wildcard 1⟩, .property "rate"]⟩
        [("a1", .position 0)] ["a1"] (.integer 9) (twoLines [.placeholder]) =
      .ok ⟨twoLines [.placeholder, .object [("rate", .scalar (.integer 9))]], true⟩ ∧
    ∃ location,
      (∀ there, Leads [("a1", .position 0)] (twoLines [.placeholder]) []
        [⟨"lines", .named "a1"⟩, ⟨"tax", .wildcard 1⟩, .property "rate"] there ↔
          there = location) ∧
      Placed (twoLines [.placeholder])
        (twoLines [.placeholder, .object [("rate", .scalar (.integer 9))]]) location
        (.integer 9) ∧
      (true = true ↔ LeavesItems [("a1", .position 0)] ["a1"] (twoLines [.placeholder]) []
        [⟨"lines", .named "a1"⟩, ⟨"tax", .wildcard 1⟩, .property "rate"]) := by
  have hwrite : Path.write ⟨[⟨"lines", .named "a1"⟩, ⟨"tax", .wildcard 1⟩, .property "rate"]⟩
      [("a1", .position 0)] ["a1"] (.integer 9) (twoLines [.placeholder]) =
    .ok ⟨twoLines [.placeholder, .object [("rate", .scalar (.integer 9))]], true⟩ := rfl
  exact ⟨hwrite, write_places_scalar hwrite⟩

end DocumentMapping
