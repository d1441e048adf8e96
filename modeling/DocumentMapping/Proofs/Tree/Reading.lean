import DocumentMapping.Proofs.Tree.Location
import DocumentMapping.Tree.Reader

/-!
# What a reader yields

The values that a path selects are described here without any traversal: they are the scalars at the
locations of the concrete paths that the path covers. The recursive selection finds all of them, in
lexicographic order of their positions and each once. A reader holds a stack of places; what it
still yields is the selection below each of them in turn, so it yields the selection of its path,
and after any number of values what is left of it.
-/

namespace DocumentMapping

/-! ## Concrete paths -/

/-- A concrete index answers an index: a position the same position, and any position a run or a
tag. -/
inductive PathIndex.Covers : PathIndex → PathIndex → Prop where
  | none : Covers .none .none
  | static (position : UInt32) : Covers (.static position) (.static position)
  | wildcard (run : Nat) (position : UInt32) : Covers (.wildcard run) (.static position)
  | named (tag : String) (position : UInt32) : Covers (.named tag) (.static position)

/-- An index whose position is decided while mapping is answered by every position. -/
theorem PathIndex.covers_of_isDynamic {index concrete : PathIndex}
    (hdynamic : index.isDynamic = true) :
    index.Covers concrete ↔ ∃ position, concrete = .static position := by
  constructor
  · intro h
    cases h with
    | none => cases hdynamic
    | static position => cases hdynamic
    | wildcard run position => exact ⟨position, rfl⟩
    | named tag position => exact ⟨position, rfl⟩
  · rintro ⟨position, rfl⟩
    cases index with
    | none => cases hdynamic
    | static position => cases hdynamic
    | wildcard run => exact .wildcard run position
    | named tag => exact .named tag position

/-- A concrete element has the name of an element and answers its index. -/
def PathElement.Covers (element step : PathElement) : Prop :=
  step.name = element.name ∧ element.index.Covers step.index

/-- The concrete elements of a path answer the elements of another one by one. -/
def Path.Covers (path concrete : Path) : Prop :=
  List.Forall₂ PathElement.Covers path.elements concrete.elements

/-- The places to which a concrete element leads. -/
def PathElement.places (step : PathElement) : Location :=
  match step.index.static? with
  | none => [.property step.name]
  | some position => [.property step.name, .item position.toNat]

/-- The location of concrete elements. -/
def trailLocation (trail : List PathElement) : Location :=
  trail.flatMap PathElement.places

/-- The positions in concrete elements. -/
def trailPositions (trail : List PathElement) : List Nat :=
  trail.filterMap fun step => step.index.static?.map UInt32.toNat

namespace Node

/-! ## The selection of a path -/

/-- The numbered items are those at the positions that an index can write. -/
theorem mem_numbered_iff {items : List Node} {item : Node} {position : Nat} :
    (item, position) ∈ numbered items ↔ items[position]? = some item ∧ position < 2 ^ 32 := by
  unfold numbered
  rw [List.mem_filter, List.mem_zipIdx_iff_getElem?]
  simp only [decide_eq_true_eq]

/-- What an element reaches in an array when its position is not fixed. -/
theorem reachedIn_of_isDynamic {element : PathElement} (hdynamic : element.index.isDynamic = true)
    (child : Node) :
    reachedIn element child =
      match child with
      | .array items => (numbered items).map fun (item, position) =>
          (.item element.name (UInt32.ofNat position), item)
      | _ => [] := by
  obtain ⟨name, index⟩ := element
  cases index with
  | none => cases hdynamic
  | static position => cases hdynamic
  | wildcard run => rfl
  | named tag => rfl

/-- The node that a concrete index selects in the value of its property. -/
def selectedIn (child : Node) (index : PathIndex) : Option Node :=
  match index.static? with
  | none => some child
  | some position => child.item? position.toNat

/-- An element reaches in the value of its property what the indexes that it covers select. -/
theorem mem_reachedIn_iff {child next : Node} {element step : PathElement} :
    (step, next) ∈ reachedIn element child ↔
      element.Covers step ∧ child.selectedIn step.index = some next := by
  obtain ⟨name, index⟩ := element
  obtain ⟨key, concrete⟩ := step
  by_cases hdynamic : index.isDynamic = true
  · rw [reachedIn_of_isDynamic hdynamic, PathElement.Covers,
      PathIndex.covers_of_isDynamic hdynamic]
    cases child with
    | object properties =>
      constructor
      · intro hmem
        cases hmem
      · rintro ⟨⟨_, position, rfl⟩, hselected⟩
        cases hselected
    | scalar value =>
      constructor
      · intro hmem
        cases hmem
      · rintro ⟨⟨_, position, rfl⟩, hselected⟩
        cases hselected
    | array items =>
      simp only [List.mem_map]
      constructor
      · rintro ⟨⟨item, position⟩, hmem, heq⟩
        cases heq
        obtain ⟨hitem, hlt⟩ := mem_numbered_iff.mp hmem
        refine ⟨⟨rfl, _, rfl⟩, ?_⟩
        show items[(UInt32.ofNat position).toNat]? = some item
        rw [UInt32.toNat_ofNat_of_lt' hlt, hitem]
      · rintro ⟨⟨rfl, position, rfl⟩, hselected⟩
        refine ⟨(next, position.toNat), mem_numbered_iff.mpr ⟨hselected, position.toNat_lt⟩, ?_⟩
        rw [UInt32.ofNat_toNat]
        rfl
  · cases index with
    | wildcard run => exact absurd rfl hdynamic
    | named tag => exact absurd rfl hdynamic
    | none =>
      simp only [reachedIn, List.mem_singleton, PathElement.Covers]
      constructor
      · rintro ⟨⟩
        exact ⟨⟨rfl, .none⟩, rfl⟩
      · rintro ⟨⟨rfl, ⟨⟩⟩, hselected⟩
        cases hselected
        rfl
    | static position =>
      simp only [reachedIn, PathElement.Covers]
      constructor
      · intro hmem
        split at hmem
        · rename_i item hitem
          rw [List.mem_singleton] at hmem
          cases hmem
          exact ⟨⟨rfl, .static position⟩, hitem⟩
        · cases hmem
      · rintro ⟨⟨rfl, ⟨⟩⟩, hselected⟩
        have hitem : child.item? position.toNat = some next := hselected
        rw [hitem]
        exact List.mem_singleton.mpr rfl

/-- The node at the places of a concrete element is what its index selects in its property. -/
theorem at?_places (node : Node) (step : PathElement) :
    node.at? step.places = (node.get? step.name).bind (·.selectedIn step.index) := by
  unfold PathElement.places selectedIn
  cases step.index.static? with
  | none => rfl
  | some position =>
    show (node.get? step.name).bind _ = _
    congr 1
    funext child
    exact Option.bind_fun_some _

/-- An element reaches the nodes at the places of the concrete elements that it covers. -/
theorem mem_reached_iff {node next : Node} {element step : PathElement} :
    (step, next) ∈ node.reached element ↔
      element.Covers step ∧ node.at? step.places = some next := by
  rw [at?_places, reached]
  cases hget : node.get? element.name with
  | none =>
    constructor
    · intro hmem
      cases hmem
    · rintro ⟨⟨hname, _⟩, hnext⟩
      rw [hname, hget] at hnext
      cases hnext
  | some child =>
    simp only [mem_reachedIn_iff]
    constructor
    · rintro ⟨hcovers, hselected⟩
      rw [hcovers.1, hget]
      exact ⟨hcovers, hselected⟩
    · rintro ⟨hcovers, hselected⟩
      rw [hcovers.1, hget] at hselected
      exact ⟨hcovers, hselected⟩

/-- Elements select the scalars at the locations of the concrete elements that they cover. -/
theorem mem_select_iff {elements trail : List PathElement} {node : Node} {value : Scalar} :
    (trail, value) ∈ select elements node ↔
      List.Forall₂ PathElement.Covers elements trail ∧
        node.at? (trailLocation trail) = some (.scalar value) := by
  induction elements generalizing node trail with
  | nil =>
    rw [List.forall₂_nil_left_iff]
    constructor
    · intro hmem
      cases node with
      | scalar found =>
        rw [select, List.mem_singleton] at hmem
        cases hmem
        exact ⟨rfl, rfl⟩
      | object properties => cases hmem
      | array items => cases hmem
    · rintro ⟨rfl, hvalue⟩
      cases hvalue
      exact List.mem_singleton.mpr rfl
  | cons element rest ih =>
    rw [select, List.mem_flatMap]
    constructor
    · rintro ⟨⟨step, next⟩, hreached, hmem⟩
      obtain ⟨hcovers, hnext⟩ := mem_reached_iff.mp hreached
      obtain ⟨⟨below, found⟩, hbelow, heq⟩ := List.mem_map.mp hmem
      cases heq
      obtain ⟨hrest, hvalue⟩ := ih.mp hbelow
      refine ⟨.cons hcovers hrest, ?_⟩
      rw [trailLocation, List.flatMap_cons, at?_append, hnext, Option.bind_some]
      exact hvalue
    · rintro ⟨hforall, hvalue⟩
      cases hforall with
      | @cons _ step _ below hcovers hrest =>
        rw [trailLocation, List.flatMap_cons, at?_append, Option.bind_eq_some_iff] at hvalue
        obtain ⟨next, hnext, hvalue⟩ := hvalue
        refine ⟨(step, next), mem_reached_iff.mpr ⟨hcovers, hnext⟩, ?_⟩
        exact List.mem_map.mpr ⟨(below, value), ih.mpr ⟨hrest, hvalue⟩, rfl⟩

/-! ## The order of the selection -/

/-- The numbered items stand in the order of their positions. -/
theorem pairwise_numbered (items : List Node) :
    (numbered items).Pairwise fun first second => first.2 < second.2 := by
  have hpositions : (items.zipIdx.map Prod.snd).Pairwise (· < ·) := by
    rw [List.zipIdx_map_snd]
    exact List.pairwise_lt_range'
  exact (List.pairwise_map.mp hpositions).filter _

/-- The nodes that an element reaches are told apart by increasing positions. -/
theorem pairwise_reached (node : Node) (element : PathElement) :
    (node.reached element).Pairwise fun first second =>
      ∃ p q : UInt32, first.1.index.static? = some p ∧ second.1.index.static? = some q ∧
        p.toNat < q.toNat := by
  unfold reached
  cases node.get? element.name with
  | none => exact .nil
  | some child =>
    show (reachedIn element child).Pairwise _
    by_cases hdynamic : element.index.isDynamic = true
    · rw [reachedIn_of_isDynamic hdynamic]
      cases child with
      | object properties => exact .nil
      | scalar value => exact .nil
      | array items =>
        rw [List.pairwise_map]
        refine (pairwise_numbered items).imp_of_mem ?_
        rintro ⟨_, first⟩ ⟨_, second⟩ hfirst hsecond hlt
        refine ⟨_, _, rfl, rfl, ?_⟩
        rw [UInt32.toNat_ofNat_of_lt' (mem_numbered_iff.mp hfirst).2,
          UInt32.toNat_ofNat_of_lt' (mem_numbered_iff.mp hsecond).2]
        exact hlt
    · unfold reachedIn
      cases hindex : element.index with
      | none => exact List.pairwise_singleton _ _
      | static position =>
        simp only
        split
        · exact List.pairwise_singleton _ _
        · exact .nil
      | wildcard run => simp [hindex, PathIndex.isDynamic] at hdynamic
      | named tag => simp [hindex, PathIndex.isDynamic] at hdynamic

/-- What elements select stands in the lexicographic order of the positions. -/
theorem pairwise_select (elements : List PathElement) (node : Node) :
    (select elements node).Pairwise fun first second =>
      List.Lex (· < ·) (trailPositions first.1) (trailPositions second.1) := by
  induction elements generalizing node with
  | nil =>
    cases node with
    | scalar value => exact List.pairwise_singleton _ _
    | object properties => exact .nil
    | array items => exact .nil
  | cons element rest ih =>
    rw [select, List.pairwise_flatMap]
    constructor
    · rintro ⟨step, next⟩ _
      rw [List.pairwise_map]
      refine (ih next).imp ?_
      intro first second hlex
      unfold trailPositions at hlex ⊢
      rw [List.filterMap_cons, List.filterMap_cons]
      cases step.index.static? with
      | none => exact hlex
      | some position => exact .cons hlex
    · refine (pairwise_reached node element).imp ?_
      rintro ⟨_, _⟩ ⟨_, _⟩ ⟨p, q, hp, hq, hlt⟩ first hfirst second hsecond
      obtain ⟨⟨below, _⟩, _, rfl⟩ := List.mem_map.mp hfirst
      obtain ⟨⟨beyond, _⟩, _, rfl⟩ := List.mem_map.mp hsecond
      unfold trailPositions
      rw [List.filterMap_cons, List.filterMap_cons, hp, hq]
      exact .rel hlt

end Node

/-- The selection of a path stands in the lexicographic order of the positions. -/
theorem Path.pairwise_select (path : Path) (source : Node) :
    (path.select source).Pairwise fun first second =>
      List.Lex (· < ·) (trailPositions first.path.elements)
        (trailPositions second.path.elements) := by
  unfold Path.select
  rw [List.pairwise_map]
  exact Node.pairwise_select path.elements source

/-! ## Wide arrays -/

namespace Node

mutual

/-- The greatest number of items of an array in a tree. -/
def widest : Node → Nat
  | .object properties => widestProperty properties
  | .array items => max items.length (widestItem items)
  | .scalar _ => 0

/-- The greatest number of items of an array in a list of items. -/
def widestItem : List Node → Nat
  | [] => 0
  | item :: rest => max item.widest (widestItem rest)

/-- The greatest number of items of an array in the properties of an object. -/
def widestProperty : List (String × Node) → Nat
  | [] => 0
  | (_, node) :: rest => max node.widest (widestProperty rest)

end

theorem widest_le_of_getElem? {items : List Node} {position : Nat} {item : Node}
    (h : items[position]? = some item) : item.widest ≤ widestItem items := by
  induction items generalizing position with
  | nil => cases h
  | cons first rest ih =>
    rw [widestItem]
    cases position with
    | zero =>
      cases h
      exact Nat.le_max_left _ _
    | succ position => exact Nat.le_trans (ih h) (Nat.le_max_right _ _)

theorem widest_le_of_get? {properties : OrderedMap Node} {name : String} {child : Node}
    (h : properties.get? name = some child) : child.widest ≤ widestProperty properties := by
  induction properties with
  | nil => cases h
  | cons entry rest ih =>
    obtain ⟨key, node⟩ := entry
    rw [widestProperty]
    rw [OrderedMap.get?] at h
    split at h
    · cases h
      exact Nat.le_max_left _ _
    · exact Nat.le_trans (ih h) (Nat.le_max_right _ _)

/-- No part of a tree has wider arrays than the tree. -/
theorem widest_le_of_child? {node child : Node} {place : Place}
    (h : node.child? place = some child) : child.widest ≤ node.widest := by
  cases node with
  | scalar value => simp at h
  | object properties =>
    cases place with
    | item position => cases h
    | property name =>
      rw [widest]
      exact widest_le_of_get? h
  | array items =>
    cases place with
    | property name => cases h
    | item position =>
      rw [widest]
      exact Nat.le_trans (widest_le_of_getElem? h) (Nat.le_max_right _ _)

/-- A position in an array is less than the width of the tree. -/
theorem lt_widest_of_child? {node child : Node} {position : Nat}
    (h : node.child? (.item position) = some child) : position < node.widest := by
  cases node with
  | scalar value => simp at h
  | object properties => cases h
  | array items =>
    have hlt : position < items.length := (List.getElem?_eq_some_iff.mp h).1
    exact Nat.lt_of_lt_of_le hlt (Nat.le_max_left _ _)

/-- What is reached is no wider than the node it was reached from. -/
theorem widest_le_of_at? {node found : Node} {location : Location}
    (h : node.at? location = some found) : found.widest ≤ node.widest := by
  induction location generalizing node with
  | nil =>
    cases h
    exact Nat.le_refl _
  | cons place rest ih =>
    rw [at?_cons, Option.bind_eq_some_iff] at h
    obtain ⟨child, hchild, hrest⟩ := h
    exact Nat.le_trans (ih hrest) (widest_le_of_child? hchild)

end Node

/-- A location follows elements: it has their names in order, an item where there is an index, and
the fixed positions. -/
inductive Follows : List PathElement → Location → Prop where
  | done : Follows [] []
  | property {element : PathElement} {rest : List PathElement} {below : Location}
      (hindex : element.index = .none) (hrest : Follows rest below) :
      Follows (element :: rest) (.property element.name :: below)
  | fixed {element : PathElement} {rest : List PathElement} {below : Location} {position : UInt32}
      (hindex : element.index = .static position) (hrest : Follows rest below) :
      Follows (element :: rest) (.property element.name :: .item position.toNat :: below)
  | dynamic {element : PathElement} {rest : List PathElement} {below : Location} {position : Nat}
      (hindex : element.index.isDynamic = true) (hrest : Follows rest below) :
      Follows (element :: rest) (.property element.name :: .item position :: below)

/-- In a tree whose arrays are not wider than indexes can write, every location that follows
elements has concrete elements. -/
theorem Follows.exists_trail {elements : List PathElement} {location : Location} {node found : Node}
    (h : Follows elements location) (hwide : node.widest ≤ 2 ^ 32)
    (hfound : node.at? location = some found) :
    ∃ trail, List.Forall₂ PathElement.Covers elements trail ∧ trailLocation trail = location := by
  induction h generalizing node with
  | done => exact ⟨[], .nil, rfl⟩
  | @property element rest below hindex hrest ih =>
    rw [Node.at?_cons, Option.bind_eq_some_iff] at hfound
    obtain ⟨child, hchild, hfound⟩ := hfound
    obtain ⟨trail, hcovers, hlocation⟩ :=
      ih (Nat.le_trans (Node.widest_le_of_child? hchild) hwide) hfound
    refine ⟨.property element.name :: trail, .cons ⟨rfl, ?_⟩ hcovers, ?_⟩
    · rw [hindex]
      exact .none
    · rw [trailLocation, List.flatMap_cons, ← hlocation]
      rfl
  | @fixed element rest below position hindex hrest ih =>
    have hsplit : Place.property element.name :: .item position.toNat :: below =
        [.property element.name, .item position.toNat] ++ below := rfl
    rw [hsplit, Node.at?_append, Option.bind_eq_some_iff] at hfound
    obtain ⟨next, hnext, hfound⟩ := hfound
    obtain ⟨trail, hcovers, hlocation⟩ :=
      ih (Nat.le_trans (Node.widest_le_of_at? hnext) hwide) hfound
    refine ⟨.item element.name position :: trail, .cons ⟨rfl, ?_⟩ hcovers, ?_⟩
    · rw [hindex]
      exact .static position
    · rw [trailLocation, List.flatMap_cons, ← hlocation]
      rfl
  | @dynamic element rest below position hindex hrest ih =>
    rw [Node.at?_cons, Option.bind_eq_some_iff] at hfound
    obtain ⟨child, hchild, hfound⟩ := hfound
    rw [Node.at?_cons, Option.bind_eq_some_iff] at hfound
    obtain ⟨next, hnext, hfound⟩ := hfound
    have hnarrow := Nat.le_trans (Node.widest_le_of_child? hchild) hwide
    obtain ⟨trail, hcovers, hlocation⟩ :=
      ih (Nat.le_trans (Node.widest_le_of_child? hnext) hnarrow) hfound
    have hlt : position < 2 ^ 32 := Nat.lt_of_lt_of_le (Node.lt_widest_of_child? hnext) hnarrow
    refine ⟨.item element.name (UInt32.ofNat position) :: trail, .cons ⟨rfl, ?_⟩ hcovers, ?_⟩
    · rw [PathIndex.covers_of_isDynamic hindex]
      exact ⟨_, rfl⟩
    · rw [trailLocation, List.flatMap_cons, ← hlocation]
      show [Place.property element.name, .item (UInt32.ofNat position).toNat] ++ _ = _
      rw [UInt32.toNat_ofNat_of_lt' hlt]
      rfl

/-! ## The stack of a reader -/

namespace Reader

/-- The values below a place. -/
def pendingIn (frame : Frame) : List SelectedValue :=
  (frame.node.select frame.remaining).map fun (trail, value) => ⟨⟨frame.trail ++ trail⟩, value⟩

/-- The values below the places that are still to be visited. -/
def pending (frames : List Frame) : List SelectedValue :=
  frames.flatMap pendingIn

/-- A place gives what the places one element further give. -/
theorem pending_children (frame : Frame) (element : PathElement) (rest : List PathElement)
    (h : frame.remaining = element :: rest) :
    pending (frame.children element rest) = pendingIn frame := by
  unfold pending pendingIn Frame.children
  rw [h, Node.select, List.flatMap_map, List.map_flatMap]
  congr 1
  funext ⟨step, next⟩
  rw [List.map_map]
  congr 1
  funext ⟨trail, value⟩
  simp

/-- The next value is the first of those still to come, and the places that remain give the
others. -/
theorem pending_nextFrom (frames : List Frame) :
    pending frames =
      match nextFrom frames with
      | none => []
      | some (value, rest) => value :: pending rest := by
  fun_induction nextFrom frames with
  | case1 => rfl
  | case2 frame stack hremaining value hnode =>
    simp [pending, pendingIn, hremaining, hnode, Node.select]
  | case3 frame stack hremaining hnode ih =>
    rw [← ih]
    have hnone : Node.select [] frame.node = [] := by
      cases hkind : frame.node with
      | scalar value => exact (hnode value hkind).elim
      | object properties => rfl
      | array items => rfl
    simp [pending, pendingIn, hremaining, hnone]
  | case4 frame stack element rest hremaining ih =>
    rw [← ih]
    have hchildren := pending_children frame element rest hremaining
    unfold pending at hchildren ⊢
    rw [List.flatMap_append, hchildren, List.flatMap_cons]

/-- A reader yields all that is pending. -/
theorem valuesFrom_eq_pending (frames : List Frame) : valuesFrom frames = pending frames := by
  fun_induction valuesFrom frames with
  | case1 frames hnext => rw [pending_nextFrom, hnext]
  | case2 frames value rest hnext ih => rw [pending_nextFrom, hnext, ih]

/-- After a number of values a reader yields the others. -/
theorem toList_skip (reader : Reader) (count : Nat) :
    (reader.skip count).toList = reader.toList.drop count := by
  induction count generalizing reader with
  | zero => rfl
  | succ count ih =>
    have hvalues : reader.toList = pending reader.frames := valuesFrom_eq_pending _
    rw [pending_nextFrom] at hvalues
    unfold skip next?
    cases hnext : nextFrom reader.frames with
    | none =>
      rw [hnext] at hvalues
      rw [hvalues, List.drop_nil]
      exact valuesFrom_eq_pending []
    | some found =>
      obtain ⟨value, rest⟩ := found
      rw [hnext] at hvalues
      simp only [Option.map_some, ih]
      rw [hvalues, List.drop_succ_cons, ← valuesFrom_eq_pending]
      rfl

/-- A reader at the start of a tree yields the selection of its path. -/
theorem toList_start (source : Node) (path : Path) :
    (start source path).toList = path.select source := by
  unfold toList start
  rw [valuesFrom_eq_pending]
  simp [pending, pendingIn, Path.select]

end Reader

/-- A reader yields exactly what its path selects. -/
structure Reader.Exact (source : Node) (path : Path) : Prop where
  /-- The values are those of the recursive selection. -/
  selection : (Reader.start source path).toList = path.select source
  /-- Every value is the scalar at the location of a concrete path that the path covers. -/
  sound : ∀ concrete value, ⟨concrete, value⟩ ∈ (Reader.start source path).toList →
    path.Covers concrete ∧ source.at? (trailLocation concrete.elements) = some (.scalar value)
  /-- Every scalar at a location that follows the path is a value. -/
  complete : ∀ location value, Follows path.elements location →
    source.at? location = some (.scalar value) →
      ∃ concrete, trailLocation concrete.elements = location ∧
        ⟨concrete, value⟩ ∈ (Reader.start source path).toList
  /-- The values stand in the lexicographic order of their positions. -/
  ordered : (Reader.start source path).toList.Pairwise fun first second =>
    List.Lex (· < ·) (trailPositions first.path.elements) (trailPositions second.path.elements)
  /-- No concrete path comes twice. -/
  distinct : ((Reader.start source path).toList.map (·.path)).Nodup
  /-- After a number of values the others follow. -/
  resumed : ∀ count, ((Reader.start source path).skip count).toList =
    (Reader.start source path).toList.drop count

/-- The selection of a path holds the scalars at the locations of the concrete paths that it
covers. -/
theorem Path.mem_select_iff {path concrete : Path} {source : Node} {value : Scalar} :
    ⟨concrete, value⟩ ∈ path.select source ↔
      path.Covers concrete ∧
        source.at? (trailLocation concrete.elements) = some (.scalar value) := by
  obtain ⟨trail⟩ := concrete
  unfold Path.select Path.Covers
  rw [List.mem_map, ← Node.mem_select_iff]
  constructor
  · rintro ⟨⟨below, found⟩, hmem, heq⟩
    cases heq
    exact hmem
  · intro hmem
    exact ⟨(trail, value), hmem, rfl⟩

/-- In a tree whose arrays are not wider than indexes can write, a reader yields exactly what its
path selects, in order and each concrete path once, and can be continued after any number of
values. -/
theorem reader_exact (source : Node) (path : Path) (hwide : source.widest ≤ 2 ^ 32) :
    Reader.Exact source path where
  selection := Reader.toList_start source path
  sound := by
    intro concrete value hmem
    rw [Reader.toList_start] at hmem
    exact Path.mem_select_iff.mp hmem
  complete := by
    intro location value hfollows hvalue
    obtain ⟨trail, hcovers, rfl⟩ := hfollows.exists_trail hwide hvalue
    refine ⟨⟨trail⟩, rfl, ?_⟩
    rw [Reader.toList_start]
    exact Path.mem_select_iff.mpr ⟨hcovers, hvalue⟩
  ordered := by
    rw [Reader.toList_start]
    exact Path.pairwise_select path source
  distinct := by
    rw [Reader.toList_start]
    unfold List.Nodup
    rw [List.pairwise_map]
    refine (Path.pairwise_select path source).imp ?_
    intro first second hlex heq
    rw [heq] at hlex
    exact List.lex_irrefl Nat.lt_irrefl _ hlex
  resumed := fun count => Reader.toList_skip _ count

/-- Taxes of three lines are read in order, the line without taxes gives none. -/
theorem reader_exact_of_ragged_lines :
    (Node.object [("lines", .array [.object [("tax", .array [.scalar (.integer 5), .placeholder])],
      .object [], .object [("tax", .array [.object [], .scalar (.integer 9)])]])]).widest ≤ 2 ^ 32 ∧
    Reader.Exact (.object [("lines", .array
      [.object [("tax", .array [.scalar (.integer 5), .placeholder])],
      .object [], .object [("tax", .array [.object [], .scalar (.integer 9)])]])])
      ⟨[⟨"lines", .wildcard 1⟩, ⟨"tax", .wildcard 2⟩]⟩ :=
  ⟨by decide, reader_exact _ _ (by decide)⟩

end DocumentMapping
