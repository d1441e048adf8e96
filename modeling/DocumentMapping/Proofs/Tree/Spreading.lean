import DocumentMapping.Proofs.Tree.Atomicity
import DocumentMapping.Proofs.Tree.Positions

/-!
# Scalars in a row of places

Writes to one path with other positions each time go to a row of places: locations of one shape, of
which no two are equal. Whether the way to a place is free does not depend on the writes to the
places before it, so that a tree either has room for the whole row or stops the writes at the first
place without room. After the writes every place holds its own scalar, and nothing else has changed
but what makes room for the places.
-/

namespace DocumentMapping

/-! ## Ways to decided positions -/

/-- Elements whose positions are decided lead to their location in every tree. -/
theorem leads_iff_of_locationBy? {placement : Placement} {tree : Node} {here there : Location}
    {elements : List PathElement} {location : Location}
    (h : locationBy? placement.pinned? elements = some location) :
    Leads placement tree here elements there ↔ there = here ++ location := by
  induction elements generalizing here location with
  | nil =>
    cases h
    rw [List.append_nil]
    constructor
    · rintro ⟨⟩
      rfl
    · rintro rfl
      exact .done _
  | cons element rest ih =>
    obtain ⟨below, hbelow, ⟨hindexed, rfl⟩ | ⟨position, hindexed, hposition, rfl⟩⟩ :=
      locationBy?_cons h
    · have hunindexed : ¬ element.index.isIndexed = true := by simp [hindexed]
      rw [leads_cons_iff, behind, if_neg hunindexed, ih hbelow, List.append_assoc,
        List.singleton_append]
    · rw [leads_cons_iff, behind, if_pos hindexed, resolve_of_positionBy? hindexed hposition,
        ih hbelow, List.append_assoc, List.append_assoc, List.singleton_append,
        List.singleton_append]

namespace Node

/-- A walk to decided positions is stopped exactly when the way to their location is not free. -/
theorem conflict_walk_eq_none_iff {placement : Placement} {elements : List PathElement}
    {node : Node} {location : Location}
    (h : locationBy? placement.pinned? elements = some location) :
    (walk placement elements node).conflict = none ↔ node.Admits location := by
  constructor
  · intro hwalk
    have hroot : (walk placement elements ((node.at? []).getD .placeholder)).conflict = none :=
      hwalk
    have hleads := (leads_iff hroot).mpr rfl
    have hlocation : (walk placement elements node).location = location :=
      (leads_iff_of_locationBy? h).mp hleads
    rw [← hlocation]
    exact admits_walk hwalk
  · exact fun hadmits => (walk_of_locationBy? h hadmits).1

end Node

/-- A write to decided positions fails exactly when the way to their location is not free. -/
theorem Path.exists_write_eq_error {path : Path} {placement : Placement} {location : Location}
    (h : locationBy? placement.pinned? path.elements = some location) {target : Node}
    (hblocked : ¬ target.Admits location) (tags : List String) (value : Scalar) :
    ∃ conflict, path.write placement tags value target = .error conflict := by
  rw [← Node.conflict_walk_eq_none_iff h] at hblocked
  obtain ⟨conflict, hconflict⟩ := Option.ne_none_iff_exists'.mp hblocked
  exact ⟨conflict, by rw [Path.write, Path.walk, hconflict]⟩

/-- The location of a list of elements is that of its parts. -/
theorem locationBy?_append {decided? : String → Option Nat} {first second : List PathElement}
    {way rest : Location} (hway : locationBy? decided? first = some way)
    (hrest : locationBy? decided? second = some rest) :
    locationBy? decided? (first ++ second) = some (way ++ rest) := by
  induction first generalizing way with
  | nil =>
    cases hway
    exact hrest
  | cons element elements ih =>
    obtain ⟨below, hbelow, ⟨hindexed, rfl⟩ | ⟨position, hindexed, hposition, rfl⟩⟩ :=
      locationBy?_cons hway
    · rw [List.cons_append, locationBy?, ih hbelow, hindexed]
      rfl
    · rw [List.cons_append, locationBy?, ih hbelow, hindexed, hposition]
      rfl

/-- When two ways to decide the positions give one location, they agree on the first position and
give one location below it. -/
theorem eq_of_locationBy?_cons {first second : String → Option Nat} {element : PathElement}
    {rest : List PathElement} {location : Location}
    (hfirst : locationBy? first (element :: rest) = some location)
    (hsecond : locationBy? second (element :: rest) = some location) :
    (element.index.isIndexed = true →
        element.index.positionBy? first = element.index.positionBy? second) ∧
      ∃ below, locationBy? first rest = some below ∧ locationBy? second rest = some below := by
  obtain ⟨below, hbelow, hcases⟩ := locationBy?_cons hfirst
  obtain ⟨beyond, hbeyond, hothers⟩ := locationBy?_cons hsecond
  rcases hcases with ⟨hunindexed, rfl⟩ | ⟨position, hindexed, hposition, rfl⟩
  · rcases hothers with ⟨_, heq⟩ | ⟨_, hindexed, _, _⟩
    · rw [(List.cons.inj heq).2] at hbelow
      exact ⟨fun hindexed => by simp [hindexed] at hunindexed, beyond, hbelow, hbeyond⟩
    · simp [hindexed] at hunindexed
  · rcases hothers with ⟨hunindexed, _⟩ | ⟨other, _, hother, heq⟩
    · simp [hindexed] at hunindexed
    · obtain ⟨hitem, hrest⟩ := List.cons.inj (List.cons.inj heq).2
      cases hitem
      rw [hrest] at hbelow
      exact ⟨fun _ => hposition.trans hother.symm, beyond, hbelow, hbeyond⟩

/-- An index whose position is decided while mapping selects an item. -/
theorem PathIndex.isIndexed_of_isDynamic {index : PathIndex} (h : index.isDynamic = true) :
    index.isIndexed = true := by
  cases index with
  | none => cases h
  | static position => rfl
  | wildcard run => rfl
  | named tag => rfl

/-- Elements have a location only when a position is decided under each of their tags. -/
theorem exists_decided_of_locationBy? {decided? : String → Option Nat}
    {elements : List PathElement} {location : Location}
    (h : locationBy? decided? elements = some location) {tag : String}
    (htag : tag ∈ Path.dynamicTags ⟨elements⟩) : ∃ position, decided? tag = some position := by
  induction elements generalizing location with
  | nil => cases htag
  | cons element rest ih =>
    obtain ⟨below, hbelow, hcases⟩ := locationBy?_cons h
    obtain ⟨found, hmem, hdynamic, hfound⟩ := Path.mem_dynamicTags_iff.mp htag
    rcases List.mem_cons.mp hmem with rfl | hlater
    · rcases hcases with ⟨hunindexed, _⟩ | ⟨position, _, hposition, _⟩
      · rw [PathIndex.isIndexed_of_isDynamic hdynamic] at hunindexed
        cases hunindexed
      · rw [PathIndex.positionBy?_of_isDynamic hdynamic hfound] at hposition
        exact ⟨position, hposition⟩
    · exact ih hbelow (Path.mem_dynamicTags_iff.mpr ⟨found, hlater, hdynamic, hfound⟩)

/-- Positions that are decided stay so when more of them are. -/
theorem locationBy?_mono {first second : String → Option Nat} {elements : List PathElement}
    {location : Location} (h : locationBy? first elements = some location)
    (hsame : ∀ tag position, first tag = some position → second tag = some position) :
    locationBy? second elements = some location := by
  rw [← h]
  refine locationBy?_congr fun tag htag => ?_
  obtain ⟨position, hposition⟩ := exists_decided_of_locationBy? h htag
  rw [hposition]
  exact hsame tag position hposition

/-- No element with a decided position has a tag without one. -/
theorem tag?_ne_of_locationBy? {decided? : String → Option Nat} {elements : List PathElement}
    {location : Location} (h : locationBy? decided? elements = some location) {tag : String}
    (hnone : decided? tag = none) {element : PathElement} (hmem : element ∈ elements)
    (hdynamic : element.tag? = some tag → element.index.isDynamic = true) :
    element.tag? ≠ some tag := by
  intro htag
  obtain ⟨position, hposition⟩ := exists_decided_of_locationBy? h
    (Path.mem_dynamicTags_iff.mpr ⟨element, hmem, hdynamic htag, htag⟩)
  rw [hnone] at hposition
  cases hposition

/-- A location tells the positions under the tags of its elements. -/
theorem eq_of_locationBy? {first second : String → Option Nat} {elements : List PathElement}
    {location : Location} (hfirst : locationBy? first elements = some location)
    (hsecond : locationBy? second elements = some location) {tag : String}
    (htag : tag ∈ Path.dynamicTags ⟨elements⟩) : first tag = second tag := by
  induction elements generalizing location with
  | nil => cases htag
  | cons element rest ih =>
    obtain ⟨hposition, below, hbelow, hbeyond⟩ := eq_of_locationBy?_cons hfirst hsecond
    obtain ⟨found, hmem, hdynamic, hfound⟩ := Path.mem_dynamicTags_iff.mp htag
    rcases List.mem_cons.mp hmem with rfl | hlater
    · have hsame := hposition (PathIndex.isIndexed_of_isDynamic hdynamic)
      rwa [PathIndex.positionBy?_of_isDynamic hdynamic hfound,
        PathIndex.positionBy?_of_isDynamic hdynamic hfound] at hsame
    · exact ih hbelow hbeyond (Path.mem_dynamicTags_iff.mpr ⟨found, hlater, hdynamic, hfound⟩)

/-! ## Free ways after a store -/

namespace Node

/-- A store frees no way to a location of its shape. -/
theorem admits_of_store {node : Node} {value : Scalar} {location other : Location}
    (hshape : location.SameShape other) (hlocation : node.Admits location)
    (h : (node.store value location).Admits other) : node.Admits other := by
  induction location generalizing node other with
  | nil =>
    cases other with
    | nil => trivial
    | cons next others => exact hshape.elim
  | cons place rest ih =>
    cases other with
    | nil => exact hshape.elim
    | cons next others =>
      obtain ⟨hkind, hshape⟩ := hshape
      obtain ⟨haccepts, hrest⟩ := hlocation
      obtain ⟨_, hothers⟩ := h
      refine ⟨accepts_of_sameKind haccepts hkind, ?_⟩
      rw [store_cons] at hothers
      by_cases hplace : place = next
      · subst hplace
        rw [slotAt_of_child? (child?_modifyChild node place _)] at hothers
        exact ih hshape hrest hothers
      · rw [slotAt_modifyChild_of_ne _ haccepts hplace] at hothers
        exact hothers

/-- A store neither blocks nor frees the way to a location of its shape. -/
theorem admits_store_iff {node : Node} (value : Scalar) {location other : Location}
    (hshape : location.SameShape other) (hlocation : node.Admits location) :
    (node.store value location).Admits other ↔ node.Admits other :=
  ⟨admits_of_store hshape hlocation, admits_store value hshape hlocation⟩

end Node

/-! ## Rows of places -/

/-- Locations of one shape, of which no two are equal. -/
structure Row (place : Nat → Location) : Prop where
  sameShape : ∀ first second, (place first).SameShape (place second)
  injective : Function.Injective place

theorem Row.diverges {place : Nat → Location} (h : Row place) {first second : Nat}
    (hne : first ≠ second) : (place first).Diverges (place second) :=
  (h.sameShape first second).diverges fun heq => hne (h.injective heq)

/-- Scalars have come to the first places of a row, and nothing else has changed in a tree but what
was needed to make room for them. -/
structure Spread (place : Nat → Location) (before after : Node) (values : List Scalar) : Prop where
  /-- Every scalar stands at its own place. -/
  stored : ∀ number value, values[number]? = some value →
    after.at? (place number) = some (.scalar value)
  /-- What stood at a location that diverges from these places stands there still. -/
  unchanged : ∀ other node, (∀ number < values.length, (place number).Diverges other) →
    before.at? other = some node → after.at? other = some node
  /-- A new location is on the way to one of these places or an empty slot in front of one. -/
  added : ∀ other, before.at? other = none → (after.at? other).isSome →
    ∃ number < values.length, other <+: place number ∨
      (other.Pads (place number) ∧ after.at? other = some .placeholder)
  /-- The way to a place is free when it has been. -/
  free : ∀ number, after.Admits (place number) ↔ before.Admits (place number)

namespace Spread

variable {place : Nat → Location} {before after : Node} {values : List Scalar}

theorem refl (place : Nat → Location) (tree : Node) : Spread place tree tree [] where
  stored _ _ hvalue := by cases hvalue
  unchanged _ _ _ hnode := hnode
  added other hnone hsome := by
    rw [hnone] at hsome
    cases hsome
  free _ := Iff.rfl

/-- The next scalar comes to the next place of the row. -/
theorem store (h : Spread place before after values) (hrow : Row place) (value : Scalar)
    (hadmits : after.Admits (place values.length)) :
    Spread place before (after.store value (place values.length)) (values ++ [value]) where
  stored number found hfound := by
    rcases Nat.lt_trichotomy number values.length with hlt | rfl | hgt
    · rw [List.getElem?_append_left hlt] at hfound
      exact (placed_store value hadmits).unchanged _ _ (hrow.diverges (Nat.ne_of_gt hlt))
        (h.stored number found hfound)
    · rw [List.getElem?_concat_length] at hfound
      cases hfound
      exact Node.at?_store after value _
    · rw [List.getElem?_eq_none (by simpa using hgt)] at hfound
      cases hfound
  unchanged other node hdiverges hnode := by
    rw [List.length_append, List.length_singleton] at hdiverges
    refine (placed_store value hadmits).unchanged other node (hdiverges _ (Nat.lt_succ_self _)) ?_
    exact h.unchanged other node (fun number hlt => hdiverges number (Nat.lt_succ_of_lt hlt)) hnode
  added other hnone hsome := by
    rw [List.length_append, List.length_singleton]
    cases hother : after.at? other with
    | none =>
      exact ⟨values.length, Nat.lt_succ_self _,
        (placed_store value hadmits).added other hother hsome⟩
    | some found =>
      obtain ⟨number, hlt, hcases⟩ := h.added other hnone (by rw [hother]; rfl)
      rcases hcases with honWay | ⟨hpads, hplaceholder⟩
      · exact ⟨number, Nat.lt_succ_of_lt hlt, .inl honWay⟩
      · -- an empty slot stays one unless the next place lies at or below it
        rcases (place values.length).diverges_or_below other with
          hdiverges | heq | ⟨next, rest, rfl⟩ | ⟨next, rest, heq⟩
        · exact ⟨number, Nat.lt_succ_of_lt hlt, .inr ⟨hpads,
            (placed_store value hadmits).unchanged other _ hdiverges hplaceholder⟩⟩
        · exact ⟨values.length, Nat.lt_succ_self _, .inl (by rw [heq])⟩
        · rw [Node.at?_store_below _ _ _ _ (List.cons_ne_nil _ _)] at hsome
          cases hsome
        · exact ⟨values.length, Nat.lt_succ_self _, .inl ⟨next :: rest, heq.symm⟩⟩
  free number := by
    rw [Node.admits_store_iff value (hrow.sameShape _ _) hadmits]
    exact h.free number

end Spread

/-! ## The row of a path -/

/-- The location that a path leads to with its pinned tags at their numbers and all others at one
position. -/
def Path.placeAt (path : Path) (placement : Placement) (position : Nat) : Location :=
  (locationBy? (fun tag => some ((placement.pinned? tag).getD position)) path.elements).getD []

theorem Path.locationBy?_placeAt (path : Path) (placement : Placement) (position : Nat) :
    locationBy? (fun tag => some ((placement.pinned? tag).getD position)) path.elements =
      some (path.placeAt placement position) := by
  obtain ⟨location, hlocation⟩ :=
    @exists_locationBy? (fun tag => some ((placement.pinned? tag).getD position)) path.elements
      fun _ _ => ⟨_, rfl⟩
  rw [Path.placeAt, hlocation, Option.getD_some]

/-- The places of a path are a row when one of its tags is not pinned. -/
theorem Path.row_placeAt {path : Path} {placement : Placement} {tag : String}
    (htag : tag ∈ path.dynamicTags) (hunpinned : placement.pinned? tag = none) :
    Row (path.placeAt placement) where
  sameShape first second :=
    sameShape_of_locationBy? (path.locationBy?_placeAt placement first)
      (path.locationBy?_placeAt placement second)
  injective := by
    intro first second heq
    have hfirst := path.locationBy?_placeAt placement first
    rw [heq] at hfirst
    have hpositions := eq_of_locationBy? hfirst (path.locationBy?_placeAt placement second) htag
    rw [hunpinned] at hpositions
    exact Option.some.inj hpositions

end DocumentMapping
