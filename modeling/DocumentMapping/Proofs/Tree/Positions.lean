import DocumentMapping.Proofs.Tree.Overwriting
import DocumentMapping.Proofs.Tree.Writing

/-!
# Writes to decided positions

When every index of a path is fixed or pinned by a hint, the path leads to the same location in all
trees. A write stores its scalar there as soon as the way is free, and the locations of several such
writes to one path are of one shape.
-/

namespace DocumentMapping

/-! ## Locations by positions -/

/-- The position of an index when a function decides the positions under tags. -/
def PathIndex.positionBy? (decided? : String → Option Nat) : PathIndex → Option Nat
  | .none => Option.none
  | .static position => some position.toNat
  | .wildcard run => decided? (marker run)
  | .named tag => decided? tag

/-- The location of elements when a function decides the positions under tags; absent when it leaves
one of them open. -/
def locationBy? (decided? : String → Option Nat) : List PathElement → Option Location
  | [] => some []
  | element :: rest =>
    if element.index.isIndexed then
      (element.index.positionBy? decided?).bind fun position =>
        (locationBy? decided? rest).map fun below =>
          .property element.name :: .item position :: below
    else (locationBy? decided? rest).map fun below => .property element.name :: below

/-- An index whose position is decided while mapping has the position under its tag. -/
theorem PathIndex.positionBy?_of_isDynamic {decided? : String → Option Nat} {index : PathIndex}
    {tag : String} (hdynamic : index.isDynamic = true) (htag : index.tag? = some tag) :
    index.positionBy? decided? = decided? tag := by
  cases index with
  | none => cases hdynamic
  | static position => cases hdynamic
  | wildcard run => rw [← Option.some.inj htag]; rfl
  | named name => rw [← Option.some.inj htag]; rfl

theorem Path.mem_dynamicTags_iff {path : Path} {tag : String} :
    tag ∈ path.dynamicTags ↔
      ∃ element ∈ path.elements, element.index.isDynamic = true ∧ element.tag? = some tag := by
  unfold dynamicTags
  simp only [List.mem_filterMap, List.mem_filter, and_assoc]

/-- Only what is decided under the tags of the elements counts. -/
theorem locationBy?_congr {first second : String → Option Nat} {elements : List PathElement}
    (h : ∀ tag ∈ Path.dynamicTags ⟨elements⟩, first tag = second tag) :
    locationBy? first elements = locationBy? second elements := by
  induction elements with
  | nil => rfl
  | cons element rest ih =>
    have hrest : locationBy? first rest = locationBy? second rest := by
      refine ih fun tag hmem => h tag ?_
      obtain ⟨later, hlater, hdynamic⟩ := Path.mem_dynamicTags_iff.mp hmem
      exact Path.mem_dynamicTags_iff.mpr ⟨later, List.mem_cons_of_mem _ hlater, hdynamic⟩
    rw [locationBy?, locationBy?, hrest]
    split
    · rename_i hindexed
      rcases PathIndex.static_or_tagged hindexed with ⟨position, hstatic⟩ | ⟨tag, hdynamic, htag⟩
      · rw [hstatic]
        rfl
      · rw [PathIndex.positionBy?_of_isDynamic hdynamic htag,
          PathIndex.positionBy?_of_isDynamic hdynamic htag,
          h tag (Path.mem_dynamicTags_iff.mpr ⟨element, List.mem_cons_self, hdynamic, htag⟩)]
    · rfl

/-- When a position is decided under every tag there is a location. -/
theorem exists_locationBy? {decided? : String → Option Nat} {elements : List PathElement}
    (h : ∀ tag ∈ Path.dynamicTags ⟨elements⟩, ∃ position, decided? tag = some position) :
    ∃ location, locationBy? decided? elements = some location := by
  induction elements with
  | nil => exact ⟨[], rfl⟩
  | cons element rest ih =>
    obtain ⟨below, hbelow⟩ : ∃ below, locationBy? decided? rest = some below := by
      refine ih fun tag hmem => h tag ?_
      obtain ⟨later, hlater, hdynamic⟩ := Path.mem_dynamicTags_iff.mp hmem
      exact Path.mem_dynamicTags_iff.mpr ⟨later, List.mem_cons_of_mem _ hlater, hdynamic⟩
    rw [locationBy?, hbelow]
    split
    · rename_i hindexed
      rcases PathIndex.static_or_tagged hindexed with ⟨position, hstatic⟩ | ⟨tag, hdynamic, htag⟩
      · rw [hstatic]
        exact ⟨_, rfl⟩
      · obtain ⟨position, hposition⟩ :=
          h tag (Path.mem_dynamicTags_iff.mpr ⟨element, List.mem_cons_self, hdynamic, htag⟩)
        rw [PathIndex.positionBy?_of_isDynamic hdynamic htag, hposition]
        exact ⟨_, rfl⟩
    · exact ⟨_, rfl⟩

/-- The first place of a location is the property of the first element. -/
theorem locationBy?_cons {decided? : String → Option Nat} {element : PathElement}
    {rest : List PathElement} {location : Location}
    (h : locationBy? decided? (element :: rest) = some location) :
    ∃ below, locationBy? decided? rest = some below ∧
      ((element.index.isIndexed = false ∧ location = .property element.name :: below) ∨
        ∃ position, element.index.isIndexed = true ∧
          element.index.positionBy? decided? = some position ∧
          location = .property element.name :: .item position :: below) := by
  rw [locationBy?] at h
  split at h
  · rename_i hindexed
    obtain ⟨position, hposition, hmap⟩ := Option.bind_eq_some_iff.mp h
    obtain ⟨below, hbelow, rfl⟩ := Option.map_eq_some_iff.mp hmap
    exact ⟨below, hbelow, .inr ⟨position, hindexed, hposition, rfl⟩⟩
  · rename_i hindexed
    obtain ⟨below, hbelow, rfl⟩ := Option.map_eq_some_iff.mp h
    exact ⟨below, hbelow, .inl ⟨by simpa using hindexed, rfl⟩⟩

/-- Whatever decides the positions, the locations of one path are of one shape. -/
theorem sameShape_of_locationBy? {first second : String → Option Nat}
    {elements : List PathElement} {location other : Location}
    (hlocation : locationBy? first elements = some location)
    (hother : locationBy? second elements = some other) : location.SameShape other := by
  induction elements generalizing location other with
  | nil =>
    cases hlocation
    cases hother
    trivial
  | cons element rest ih =>
    obtain ⟨below, hbelow, hcases⟩ := locationBy?_cons hlocation
    obtain ⟨beyond, hbeyond, hothers⟩ := locationBy?_cons hother
    rcases hcases with ⟨hindexed, rfl⟩ | ⟨position, hindexed, _, rfl⟩
    · rcases hothers with ⟨_, rfl⟩ | ⟨_, hcontra, _, _⟩
      · exact ⟨trivial, ih hbelow hbeyond⟩
      · rw [hindexed] at hcontra
        cases hcontra
    · rcases hothers with ⟨hcontra, _⟩ | ⟨other, _, _, rfl⟩
      · rw [hindexed] at hcontra
        cases hcontra
      · exact ⟨trivial, trivial, ih hbelow hbeyond⟩

/-- A target without properties leaves the way to every location of a path free. -/
theorem admitsShape_of_locationBy? {decided? : String → Option Nat}
    {elements : List PathElement} {shape : Location}
    (h : locationBy? decided? elements = some shape) : (Node.object []).AdmitsShape shape := by
  intro location hshape
  cases elements with
  | nil =>
    cases h
    cases location with
    | nil => trivial
    | cons place rest => exact hshape.elim
  | cons element rest =>
    obtain ⟨below, _, hcases⟩ := locationBy?_cons h
    have hfirst : ∃ rest, shape = .property element.name :: rest := by
      rcases hcases with ⟨_, rfl⟩ | ⟨_, _, _, rfl⟩ <;> exact ⟨_, rfl⟩
    obtain ⟨beyond, rfl⟩ := hfirst
    cases location with
    | nil => trivial
    | cons place rest =>
      cases place with
      | item position => exact hshape.1.elim
      | property name => exact ⟨rfl, Node.admits_scalar _ _⟩

/-! ## Writes to such locations -/

/-- The position that a hint pins a tag to. -/
def Placement.pinned? (placement : Placement) (tag : String) : Option Nat :=
  match placement.get? tag with
  | some (.position position) => some position
  | _ => none

/-- The length of the array does not matter for a decided position. -/
theorem resolve_of_positionBy? {placement : Placement} {index : PathIndex} {position : Nat}
    (hindexed : index.isIndexed = true)
    (h : index.positionBy? placement.pinned? = some position) (length : Nat) :
    placement.resolve index length = position := by
  rcases PathIndex.static_or_tagged hindexed with ⟨fixed, rfl⟩ | ⟨tag, hdynamic, htag⟩
  · exact Option.some.inj h
  · rw [PathIndex.positionBy?_of_isDynamic hdynamic htag, Placement.pinned?] at h
    rw [resolve_of_isDynamic hdynamic htag]
    rcases hhint : placement.get? tag with _ | _ | found
    · simp [hhint] at h
    · simp [hhint] at h
    · simpa [hhint] using h

namespace Node

/-- A walk to decided positions reaches their location when the way is free. -/
theorem walk_of_locationBy? {placement : Placement} {elements : List PathElement} {node : Node}
    {location : Location} (h : locationBy? placement.pinned? elements = some location)
    (hadmits : node.Admits location) :
    (walk placement elements node).conflict = none ∧
      (walk placement elements node).location = location := by
  induction elements generalizing node location with
  | nil =>
    cases h
    exact ⟨rfl, rfl⟩
  | cons element rest ih =>
    obtain ⟨below, hbelow, ⟨hindexed, rfl⟩ | ⟨position, hindexed, hposition, rfl⟩⟩ :=
      locationBy?_cons h
    · obtain ⟨haccepts, hrest⟩ := hadmits
      obtain ⟨hconflict, hlocation⟩ := ih hbelow hrest
      rw [walk_property haccepts hindexed]
      exact ⟨hconflict, congrArg (Place.property element.name :: ·) hlocation⟩
    · obtain ⟨haccepts, hitem, hrest⟩ := hadmits
      obtain ⟨items, hitems⟩ := Option.isSome_iff_exists.mp hitem
      obtain ⟨hconflict, hlocation⟩ := ih hbelow hrest
      rw [walk_item haccepts hindexed hitems (resolve_of_positionBy? hindexed hposition _)]
      exact ⟨hconflict,
        congrArg (fun below => Place.property element.name :: .item position :: below) hlocation⟩

end Node

/-- Without tags to fill no step reports further items. -/
theorem any_leavesMore_nil (steps : List Step) : steps.any (·.leavesMore []) = false := by
  rw [List.any_eq_false]
  intro step _
  cases step with
  | property name => simp [Step.leavesMore]
  | item element position length => cases htag : element.tag? <;> simp [Step.leavesMore, htag]

/-- A write to decided positions stores its scalar at their location when the way is free. -/
theorem Path.write_of_locationBy? {path : Path} {placement : Placement} {location : Location}
    (h : locationBy? placement.pinned? path.elements = some location) {target : Node}
    (hadmits : target.Admits location) (tags : List String) (value : Scalar) :
    path.write placement tags value target =
      .ok ⟨target.store value location,
        (path.walk placement target).steps.any (·.leavesMore tags)⟩ := by
  obtain ⟨hconflict, hlocation⟩ := Node.walk_of_locationBy? h hadmits
  unfold Path.write Path.walk
  rw [hconflict]
  simp only [Node.put_eq_store]
  rw [← hlocation]
  rfl

/-! ## Placements that agree -/

/-- An index is resolved by the hint under its tag alone. -/
theorem resolve_congr {first second : Placement} {index : PathIndex}
    (h : ∀ tag, index.isDynamic = true → index.tag? = some tag → first.get? tag = second.get? tag)
    (length : Nat) : first.resolve index length = second.resolve index length := by
  by_cases hindexed : index.isIndexed = true
  · rcases PathIndex.static_or_tagged hindexed with ⟨position, rfl⟩ | ⟨tag, hdynamic, htag⟩
    · rfl
    · rw [resolve_of_isDynamic hdynamic htag, resolve_of_isDynamic hdynamic htag,
        h tag hdynamic htag]
  · cases index with
    | none => rfl
    | static position => exact (hindexed rfl).elim
    | wildcard run => exact (hindexed rfl).elim
    | named tag => exact (hindexed rfl).elim

/-- Two walks are the same when their hints agree on the tags that are decided on the way. -/
theorem Node.walk_congr {first second : Placement} {elements : List PathElement}
    (h : ∀ tag ∈ Path.dynamicTags ⟨elements⟩, first.get? tag = second.get? tag) (node : Node) :
    walk first elements node = walk second elements node := by
  induction elements generalizing node with
  | nil => rfl
  | cons element rest ih =>
    have hresolve : ∀ length, first.resolve element.index length =
        second.resolve element.index length :=
      resolve_congr fun tag hdynamic htag =>
        h tag (Path.mem_dynamicTags_iff.mpr ⟨element, List.mem_cons_self, hdynamic, htag⟩)
    have hrest : ∀ next, walk first rest next = walk second rest next := by
      refine ih fun tag hmem => h tag ?_
      obtain ⟨later, hlater, hdynamic⟩ := Path.mem_dynamicTags_iff.mp hmem
      exact Path.mem_dynamicTags_iff.mpr ⟨later, List.mem_cons_of_mem _ hlater, hdynamic⟩
    simp only [walk, hresolve, hrest]

/-- So are two writes of one scalar. -/
theorem Path.write_congr {path : Path} {first second : Placement}
    (h : ∀ tag ∈ path.dynamicTags, first.get? tag = second.get? tag) (tags : List String)
    (value : Scalar) (target : Node) :
    path.write first tags value target = path.write second tags value target := by
  unfold Path.write Path.walk
  rw [Node.walk_congr h]

end DocumentMapping
