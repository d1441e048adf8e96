import DocumentMapping.Proofs.Tree.Atomicity

/-!
# The last write wins

A write that does not append finds its places again: afterwards every array on its way reaches to
the position that was decided there, and what was its last item before still is. A second write
along the path therefore goes where it would have gone without the first one, and replaces what the
first one has put there.
-/

namespace DocumentMapping

/-! ## Positions that are found again -/

/-- Whether an index goes behind the last item: under a hint to append, or as a single asterisk
without a hint. -/
def Placement.appends (placement : Placement) (index : PathIndex) : Bool :=
  index.isDynamic &&
    match index.tag?.bind placement.get? with
    | some .append => true
    | some (.position _) => false
    | none => index = .wildcard 1

/-- Once an array reaches to the position of an index that does not append, the index has the same
position again. -/
theorem Placement.resolve_max {placement : Placement} {index : PathIndex}
    (hindexed : index.isIndexed = true) (happends : placement.appends index = false)
    (length : Nat) :
    placement.resolve index (max length (placement.resolve index length + 1)) =
      placement.resolve index length := by
  rcases PathIndex.static_or_tagged hindexed with ⟨position, rfl⟩ | ⟨tag, hdynamic, htag⟩
  · rfl
  · rw [appends, hdynamic, htag, Bool.true_and, Option.bind_some] at happends
    rw [resolve_of_isDynamic hdynamic htag, resolve_of_isDynamic hdynamic htag]
    cases hhint : placement.get? tag with
    | none =>
      rw [hhint] at happends
      have hlast : index ≠ .wildcard 1 := of_decide_eq_false happends
      simp only [if_neg hlast]
      omega
    | some hint =>
      rw [hhint] at happends
      cases hint with
      | append => cases happends
      | position index => rfl

/-- A step as it is taken again, when the array has an item at its position. -/
def Step.again : Step → Step
  | .property name => .property name
  | .item element position length => .item element position (max length (position + 1))

@[simp] theorem Step.places_again (step : Step) : step.again.places = step.places := by
  cases step <;> rfl

/-- Items that a write has added are none that it has left behind. -/
@[simp] theorem Step.leavesMore_again (tags : List String) (step : Step) :
    step.again.leavesMore tags = step.leavesMore tags := by
  cases step with
  | property name => rfl
  | item element position length =>
    have hlt : position + 1 < max length (position + 1) ↔ position + 1 < length := by omega
    simp only [again, leavesMore, hlt]

namespace Node

variable {placement : Placement} {element : PathElement}

/-- A walk finds a changed property again. -/
theorem walk_modifyChild_property (hindexed : element.index.isIndexed = false)
    (rest : List PathElement) (node : Node) (change : Node → Node) :
    walk placement (element :: rest) (node.modifyChild (.property element.name) change) =
      (walk placement rest (change (node.slotAt (.property element.name)))).cons
        (.property element.name) := by
  have hkind : (Place.property element.name).SameKind (.property element.name) := trivial
  rw [walk_property (accepts_modifyChild node change hkind) hindexed,
    slotAt_of_child? (child?_modifyChild node _ change)]

/-- A walk finds a changed item again when the index does not append: the array reaches to it. -/
theorem walk_modifyChild_item (hindexed : element.index.isIndexed = true)
    (happends : placement.appends element.index = false) (rest : List PathElement) {node : Node}
    {length position : Nat}
    (hlength : length = ((node.slotAt (.property element.name)).asItems?.getD []).length)
    (hposition : position = placement.resolve element.index length) (change : Node → Node) :
    walk placement (element :: rest) (node.modifyChild (.property element.name)
        fun slot => slot.modifyChild (.item position) change) =
      (walk placement rest
        (change ((node.slotAt (.property element.name)).slotAt (.item position)))).cons
          (.item element position (max length (position + 1))) := by
  have hkind : (Place.property element.name).SameKind (.property element.name) := trivial
  let slot := node.slotAt (.property element.name)
  let items := modifyItem (slot.asItems?.getD []) position change
  have hgrown : items.length = max length (position + 1) := by
    rw [length_modifyItem, ← hlength]
  have hagain : placement.resolve element.index items.length = position := by
    rw [hgrown, hposition, Placement.resolve_max hindexed happends]
  have hslot : (node.modifyChild (.property element.name)
      fun slot => slot.modifyChild (.item position) change).slotAt (.property element.name) =
        .array items :=
    slotAt_of_child? (child?_modifyChild _ _ _)
  have hchild : (Node.array items).child? (.item position) =
      some (change (slot.slotAt (.item position))) :=
    child?_modifyChild slot (.item position) change
  have hitems : (Node.array items).asItems? = some items := rfl
  rw [← hslot] at hitems
  rw [walk_item (accepts_modifyChild node _ hkind) hindexed hitems hagain, hslot,
    slotAt_of_child? hchild, hgrown]

/-- After a store where a walk has led, a walk along the same elements takes the same steps again,
unless one of the elements appends. -/
theorem walk_store_walk {elements : List PathElement} {node : Node}
    (happends : ∀ element ∈ elements, placement.appends element.index = false)
    (hwalk : (walk placement elements node).conflict = none) (value : Scalar) :
    walk placement elements (node.store value (walk placement elements node).location) =
      ⟨(walk placement elements node).steps.map Step.again, none⟩ := by
  induction elements generalizing node with
  | nil => rfl
  | cons element rest ih =>
    rw [List.forall_mem_cons] at happends
    obtain ⟨happend, hothers⟩ := happends
    obtain ⟨_, ⟨hindex, hrest, hsteps⟩ | ⟨length, position, hindexed, hlength, hposition, _,
      hrest, hsteps⟩⟩ := walk_cons hwalk
    · have hunindexed : element.index.isIndexed = false := by
        rw [hindex]
        rfl
      let below := (walk placement rest (node.slotAt (.property element.name))).location
      have hstore : node.store value (walk placement (element :: rest) node).location =
          node.modifyChild (.property element.name) (store value below) := by
        rw [hsteps]
        rfl
      rw [hstore, walk_modifyChild_property hunindexed, ih hothers hrest, hsteps]
      rfl
    · let below := (walk placement rest
        ((node.slotAt (.property element.name)).slotAt (.item position))).location
      have hstore : node.store value (walk placement (element :: rest) node).location =
          node.modifyChild (.property element.name)
            fun slot => slot.modifyChild (.item position) (store value below) := by
        rw [hsteps]
        rfl
      rw [hstore, walk_modifyChild_item hindexed happend rest hlength hposition,
        ih hothers hrest, hsteps]
      rfl

end Node

/-! ## Two writes along one path -/

/-- A walk that takes its steps again leads to the same location. -/
theorem Walk.location_again (steps : List Step) :
    (⟨steps.map Step.again, none⟩ : Walk).location = (⟨steps, none⟩ : Walk).location := by
  simp only [location, List.flatMap_map, Step.places_again]

variable {path : Path} {placement : Placement} {tags : List String} {target : Node}

/-- Whether a write succeeds does not depend on the scalar, and a conflict is the same for all. -/
theorem Path.write_of_conflict {conflict : Conflict}
    (h : (path.walk placement target).conflict = some conflict) (value : Scalar) :
    path.write placement tags value target = .error conflict := by
  rw [Path.write, h]

theorem Path.write_of_no_conflict (h : (path.walk placement target).conflict = none)
    (value : Scalar) :
    path.write placement tags value target =
      .ok ⟨target.store value (path.walk placement target).location,
        (path.walk placement target).steps.any (·.leavesMore tags)⟩ := by
  rw [Path.write, h]
  simp only [Node.put_eq_store]
  rfl

/-- Of two writes along a path that does not append only the second one counts: it fails in the
same cases as it does alone, and otherwise leaves the same tree and reports the same further items.
So it is also when the writes are made in place, where the first one may have failed. -/
theorem last_write_wins
    (happends : ∀ element ∈ path.elements, placement.appends element.index = false)
    (tags : List String) (first second : Scalar) (target : Node) :
    ((path.write placement tags first target).bind fun written =>
        path.write placement tags second written.node) =
      path.write placement tags second target ∧
    path.writeInPlace placement tags second
        (path.writeInPlace placement tags first target).2 =
      path.writeInPlace placement tags second target := by
  cases hconflict : (path.walk placement target).conflict with
  | some conflict =>
    have hfails := fun value => @Path.write_of_conflict path placement tags target conflict
      hconflict value
    refine ⟨?_, ?_⟩
    · rw [hfails first, hfails second]
      rfl
    · rw [Path.writeInPlace_eq path placement tags first target, hfails first]
  | none =>
    have hwrites := fun value => @Path.write_of_no_conflict path placement tags target hconflict
      value
    have hwalk : path.walk placement
        (target.store first (path.walk placement target).location) =
          ⟨(path.walk placement target).steps.map Step.again, none⟩ :=
      Node.walk_store_walk happends hconflict first
    have hsecond : path.write placement tags second
        (target.store first (path.walk placement target).location) =
          path.write placement tags second target := by
      rw [Path.write_of_no_conflict (congrArg Walk.conflict hwalk), hwrites second, hwalk,
        Walk.location_again]
      simp only [List.any_map, Function.comp_def, Step.leavesMore_again]
      congr 2
      exact Node.store_store target first second _
    refine ⟨?_, ?_⟩
    · rw [hwrites first]
      exact hsecond
    · have hfirst : (path.writeInPlace placement tags first target).2 =
          target.store first (path.walk placement target).location := by
        rw [Path.writeInPlace_eq, hwrites first]
      have halone : path.write placement tags second target = .ok ⟨_, _⟩ := hwrites second
      rw [hfirst, Path.writeInPlace_eq path placement tags second target,
        Path.writeInPlace_eq path placement tags second (target.store first _), hsecond, halone]

/-- A rate in a cell of the last line. -/
def lastLineRate : Path := ⟨[⟨"lines", .named "a1"⟩, ⟨"cells", .wildcard 1⟩, .property "rate"]⟩

/-- A line without cells and a line with the given node. -/
def twoLastLines (last : Node) : Node :=
  .object [("lines", .array [.placeholder, last])]

/-- The first of two writes to the second cell of the last line creates the cells. -/
theorem last_write_wins_in_last_line :
    (∀ element ∈ lastLineRate.elements,
      Placement.appends [("*", .position 1)] element.index = false) ∧
    lastLineRate.write [("*", .position 1)] ["*"] (.integer 9) (twoLastLines .placeholder) =
      .ok ⟨twoLastLines (.object [("cells", .array
        [.placeholder, .object [("rate", .scalar (.integer 9))]])]), false⟩ ∧
    ((lastLineRate.write [("*", .position 1)] ["*"] (.boolean true)
        (twoLastLines .placeholder)).bind fun written =>
      lastLineRate.write [("*", .position 1)] ["*"] (.integer 9) written.node) =
      .ok ⟨twoLastLines (.object [("cells", .array
        [.placeholder, .object [("rate", .scalar (.integer 9))]])]), false⟩ := by
  have happends : ∀ element ∈ lastLineRate.elements,
      Placement.appends [("*", .position 1)] element.index = false := by decide
  exact ⟨happends, rfl, (last_write_wins happends ["*"] (.boolean true) (.integer 9)
    (twoLastLines .placeholder)).1⟩

end DocumentMapping
