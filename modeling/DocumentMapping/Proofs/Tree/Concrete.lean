import DocumentMapping.Proofs.Path.Consistency
import DocumentMapping.Proofs.Path.RoundTrip

/-!
# Concrete paths lead back

The concrete path of a value has fixed positions only, so it covers no other path. Its text is read
again as that path, and in the same tree it selects the value and nothing else. The innermost item
around the value is the node at the end of the longest beginning of the concrete path that enters an
array, and from there only names lead on to the value.
-/

namespace DocumentMapping

/-! ## Paths without open positions -/

/-- A path whose positions are all fixed covers itself only. -/
theorem Path.covers_iff_eq {path concrete : Path}
    (h : ∀ element ∈ path.elements, element.index.isDynamic = false) :
    path.Covers concrete ↔ concrete = path := by
  obtain ⟨elements⟩ := path
  obtain ⟨steps⟩ := concrete
  rw [Path.Covers, Path.mk.injEq]
  induction elements generalizing steps with
  | nil => exact List.forall₂_nil_left_iff
  | cons element rest ih =>
    obtain ⟨hfirst, hrest⟩ := List.forall_mem_cons.mp h
    have hindex : ∀ concrete, element.index.Covers concrete ↔ concrete = element.index := by
      intro concrete
      generalize element.index = index at hfirst ⊢
      constructor
      · intro hcovers
        cases hcovers with
        | none => rfl
        | static position => rfl
        | wildcard run position => cases hfirst
        | named tag position => cases hfirst
      · rintro rfl
        cases concrete with
        | none => exact .none
        | static position => exact .static position
        | wildcard run => cases hfirst
        | named tag => cases hfirst
    cases steps with
    | nil => simp
    | cons step more =>
      rw [List.forall₂_cons, ih hrest, List.cons.injEq, PathElement.Covers, hindex]
      apply and_congr_left'
      constructor
      · rintro ⟨hname, hsame⟩
        obtain ⟨name, index⟩ := step
        cases hname
        cases hsame
        rfl
      · rintro rfl
        exact ⟨rfl, rfl⟩

/-- A path without open positions selects the scalar at its location and nothing else. -/
theorem Path.select_eq_singleton {path : Path} {source : Node} {value : Scalar}
    (h : ∀ element ∈ path.elements, element.index.isDynamic = false)
    (hvalue : source.at? (trailLocation path.elements) = some (.scalar value)) :
    path.select source = [⟨path, value⟩] := by
  have hall : ∀ selected ∈ path.select source, selected = ⟨path, value⟩ := by
    rintro ⟨concrete, found⟩ hmem
    obtain ⟨hcovers, hfound⟩ := Path.mem_select_iff.mp hmem
    obtain rfl := (Path.covers_iff_eq h).mp hcovers
    rw [hvalue] at hfound
    cases hfound
    rfl
  have hsome : ⟨path, value⟩ ∈ path.select source :=
    Path.mem_select_iff.mpr ⟨(Path.covers_iff_eq h).mpr rfl, hvalue⟩
  have horder := Path.pairwise_select path source
  cases hvalues : path.select source with
  | nil =>
    rw [hvalues] at hsome
    cases hsome
  | cons first rest =>
    rw [hvalues, List.forall_mem_cons] at hall
    rw [hvalues, List.pairwise_cons] at horder
    obtain ⟨rfl, hlater⟩ := hall
    -- a second value would be the first one again, which does not come before itself
    cases rest with
    | nil => rfl
    | cons next more =>
      have hlex := horder.1 next List.mem_cons_self
      rw [hlater next List.mem_cons_self] at hlex
      exact (List.lex_irrefl Nat.lt_irrefl _ hlex).elim

/-- The text of every value that a path from a text selects is read as the concrete path of the
value, and this path makes a reader yield the value and nothing else. -/
theorem concrete_paths_are_read_again {text : String} {path : Path}
    (hpath : Path.ofString text = .ok path) {source : Node} {selected : SelectedValue}
    (hmem : selected ∈ (Reader.start source path).toList) :
    Path.ofString selected.path.text = .ok selected.path ∧
      (Reader.start source selected.path).toList = [selected] := by
  rw [Reader.toList_start] at hmem
  obtain ⟨hcovers, hvalue⟩ := Path.mem_select_iff.mp hmem
  have hfixed := isDynamic_eq_false_of_covers hcovers
  constructor
  · have hne : selected.path.elements ≠ [] := by
      intro hnil
      obtain ⟨tree, htree⟩ := Path.exists_derives hpath
      obtain rfl : path = ⟨tree.map PathText.WrittenElement.value⟩ :=
        Except.ok.inj (hpath.symm.trans (Path.ofChars_of_derives htree))
      have hlength := hcovers.length_eq
      rw [hnil, List.length_map, List.length_nil, List.length_eq_zero_iff] at hlength
      exact htree.nonempty hlength
    refine Path.ofString_text_of_isWritable hne ?_
      (Path.ofElements_eq_ok_iff.mpr ⟨rfl, consistent_of_not_isDynamic hfixed⟩)
    intro element helement
    have hindex := hfixed element helement
    generalize element.index = index at hindex
    cases index with
    | none => trivial
    | static position => trivial
    | wildcard run => cases hindex
    | named tag => cases hindex
  · rw [Reader.toList_start]
    exact Path.select_eq_singleton hfixed hvalue

/-- Two lists of notes under names that need quotes. -/
def quotedNotes : Node :=
  .object [("it's", .array [.object [("", .array [.scalar (.integer 4)])], .object [],
    .object [("", .array [.placeholder, .scalar (.integer 9)])]])]

/-- The path of the last note is written with an escape and an empty name, and read again. -/
theorem concrete_paths_are_read_again_of_quoted_names :
    Path.ofString "$['it\\'s'][a][''][b]" =
      .ok ⟨[⟨"it's", .named "a"⟩, ⟨"", .named "b"⟩]⟩ ∧
    ⟨⟨[.item "it's" 2, .item "" 1]⟩, .integer 9⟩ ∈
      (Reader.start quotedNotes ⟨[⟨"it's", .named "a"⟩, ⟨"", .named "b"⟩]⟩).toList ∧
    Path.text ⟨[.item "it's" 2, .item "" 1]⟩ = "$['it\\'s'][2][''][1]" ∧
    Path.ofString "$['it\\'s'][2][''][1]" = .ok ⟨[.item "it's" 2, .item "" 1]⟩ ∧
    (Reader.start quotedNotes ⟨[.item "it's" 2, .item "" 1]⟩).toList =
      [⟨⟨[.item "it's" 2, .item "" 1]⟩, .integer 9⟩] := by
  have hpath : Path.ofString "$['it\\'s'][a][''][b]" =
      .ok ⟨[⟨"it's", .named "a"⟩, ⟨"", .named "b"⟩]⟩ := by cbv
  have hmem : (⟨⟨[.item "it's" 2, .item "" 1]⟩, .integer 9⟩ : SelectedValue) ∈
      (Reader.start quotedNotes ⟨[⟨"it's", .named "a"⟩, ⟨"", .named "b"⟩]⟩).toList := by
    rw [Reader.toList_start]
    decide
  have htext : Path.text ⟨[.item "it's" 2, .item "" 1]⟩ = "$['it\\'s'][2][''][1]" := by decide
  obtain ⟨hread, hvalues⟩ := concrete_paths_are_read_again hpath hmem
  exact ⟨hpath, hmem, htext, htext ▸ hread, hvalues⟩

/-! ## Enclosing items -/

/-- The last of some elements enters an array. -/
def EndsInItem (elements : List PathElement) : Prop :=
  ∃ before last, elements = before ++ [last] ∧ last.index.isIndexed = true

/-- The longest beginning of elements that ends in an item; it is empty when no element enters an
array. -/
structure LongestToItem (elements front : List PathElement) : Prop where
  isPrefix : front <+: elements
  ends : front = [] ∨ EndsInItem front
  longest : ∀ other, other <+: elements → EndsInItem other → other <+: front

/-- Behind the last element that enters an array there are only names. -/
theorem exists_longestToItem {elements : List PathElement}
    (h : ∀ element ∈ elements, element.index.isDynamic = false) :
    ∃ (front : List PathElement) (names : List String),
      elements = front ++ names.map .property ∧ LongestToItem elements front := by
  have hsplit : ∃ (front : List PathElement) (names : List String),
      elements = front ++ names.map .property ∧ (front = [] ∨ EndsInItem front) := by
    induction elements using List.reverseRecOn with
    | nil => exact ⟨[], [], rfl, .inl rfl⟩
    | append_singleton before last ih =>
      cases hindexed : last.index.isIndexed with
      | true => exact ⟨before ++ [last], [], by simp, .inr ⟨before, last, rfl, hindexed⟩⟩
      | false =>
        obtain ⟨front, names, rfl, hends⟩ :=
          ih fun element hmem => h element (List.mem_append_left _ hmem)
        obtain ⟨name, index⟩ := last
        cases index with
        | none => exact ⟨front, names ++ [name], by simp [PathElement.property], hends⟩
        | static position => cases hindexed
        | wildcard run => cases hindexed
        | named tag => cases hindexed
  obtain ⟨front, names, rfl, hends⟩ := hsplit
  refine ⟨front, names, rfl, List.prefix_append _ _, hends, ?_⟩
  rintro _ hother ⟨before, last, rfl, hindexed⟩
  rcases List.prefix_or_prefix_of_prefix hother (List.prefix_append front _) with
    hshort | ⟨between, hbetween⟩
  · exact hshort
  · -- what is longer than the front ends in a name
    rcases List.eq_nil_or_concat between with rfl | ⟨more, final, rfl⟩
    · rw [← hbetween, List.append_nil]
    · rw [List.concat_eq_append, ← List.append_assoc] at hbetween
      obtain ⟨rfl, hlast⟩ := List.append_inj' hbetween rfl
      obtain rfl := (List.cons.inj hlast).1
      rw [List.append_assoc, List.prefix_append_right_inj] at hother
      have hmem : final ∈ names.map PathElement.property :=
        hother.subset (List.mem_append_right _ (List.mem_singleton_self _))
      obtain ⟨name, _, rfl⟩ := List.mem_map.mp hmem
      cases hindexed

namespace Node

/-- The search for the innermost item goes to the node at the places of the first element, which is
the innermost item so far when it is one. -/
theorem enclosingFrom_cons (enclosing node : Node) (element : PathElement)
    (rest : List PathElement) :
    enclosingFrom enclosing (element :: rest) node =
      (node.at? element.places).bind fun next =>
        enclosingFrom (if element.index.static?.isSome then next else enclosing) rest next := by
  rw [enclosingFrom, at?_places]
  cases node.get? element.name with
  | none => rfl
  | some child =>
    rw [Option.bind_some, selectedIn]
    cases element.index.static? with
    | none => rfl
    | some position =>
      simp only [Option.isSome_some, if_true]
      cases child.item? position.toNat <;> rfl

/-- Names lead to no other item. -/
theorem enclosingFrom_names (enclosing node : Node) (names : List String) :
    enclosingFrom enclosing (names.map .property) node =
      (node.at? (names.map .property)).map fun _ => enclosing := by
  induction names generalizing node with
  | nil => rfl
  | cons name rest ih =>
    rw [List.map_cons, enclosingFrom_cons, List.map_cons]
    change ((node.child? (.property name)).bind _).bind _ = _
    rw [at?_cons]
    cases node.child? (.property name) with
    | none => rfl
    | some child => exact ih child

/-- Behind elements that end in an item the search goes on from this item. -/
theorem enclosingFrom_append (enclosing node : Node) (before : List PathElement)
    {last : PathElement} (rest : List PathElement) (hlast : last.index.static?.isSome) :
    enclosingFrom enclosing (before ++ [last] ++ rest) node =
      (node.at? (trailLocation (before ++ [last]))).bind fun item =>
        enclosingFrom item rest item := by
  induction before generalizing enclosing node with
  | nil =>
    rw [List.nil_append, List.singleton_append, enclosingFrom_cons, hlast, trailLocation,
      List.flatMap_singleton]
    rfl
  | cons first more ih =>
    rw [List.cons_append, List.cons_append, enclosingFrom_cons, trailLocation, List.flatMap_cons,
      at?_append, Option.bind_assoc]
    congr 1
    funext next
    exact ih _ next

end Node

/-- The innermost item around a value that a reader yields exists: it is the node at the end of the
longest beginning of the concrete path that ends in an item, or the root when there is none. The
names that are left lead from there to the value. -/
theorem enclosing_item_is_innermost {source : Node} {path : Path} {selected : SelectedValue}
    (hmem : selected ∈ (Reader.start source path).toList) :
    ∃ (front : List PathElement) (names : List String) (item : Node),
      selected.path.elements = front ++ names.map .property ∧
      LongestToItem selected.path.elements front ∧
      source.enclosingItem? selected.path = some item ∧
      source.at? (trailLocation front) = some item ∧
      item.at? (names.map .property) = some (.scalar selected.value) := by
  rw [Reader.toList_start] at hmem
  obtain ⟨hcovers, hvalue⟩ := Path.mem_select_iff.mp hmem
  have hfixed := isDynamic_eq_false_of_covers hcovers
  obtain ⟨front, names, helements, hlongest⟩ := exists_longestToItem hfixed
  have hnames : trailLocation (names.map .property) = names.map .property := by
    rw [trailLocation, List.flatMap_map]
    exact List.flatMap_pure_eq_map _ _
  rw [helements, trailLocation, List.flatMap_append, Node.at?_append,
    Option.bind_eq_some_iff] at hvalue
  obtain ⟨item, hitem, hvalue⟩ := hvalue
  change item.at? (trailLocation (names.map .property)) = _ at hvalue
  rw [hnames] at hvalue
  refine ⟨front, names, item, helements, hlongest, ?_, hitem, hvalue⟩
  rw [Node.enclosingItem?, helements]
  rcases hlongest.ends with rfl | ⟨before, last, rfl, hindexed⟩
  · cases hitem
    rw [List.nil_append, Node.enclosingFrom_names, hvalue, Option.map_some]
  · have hstatic : last.index.static?.isSome := by
      have hindex := hfixed last (by simp [helements])
      generalize last.index = index at hindexed hindex
      cases index with
      | none => cases hindexed
      | static position => rfl
      | wildcard run => cases hindex
      | named tag => cases hindex
    change source.at? (trailLocation (before ++ [last])) = some item at hitem
    rw [Node.enclosingFrom_append _ _ _ _ hstatic, hitem, Option.bind_some,
      Node.enclosingFrom_names, hvalue, Option.map_some]

/-- A line with two taxes, whose rates are nested in objects. -/
def taxedLine : Node :=
  .object [("lines", .array [.object [("tax", .array [.placeholder,
    .object [("rate", .object [("value", .scalar (.integer 7))])]])]])]

/-- The item around a rate is its tax, the second one of the line. -/
theorem enclosing_item_is_innermost_of_taxes :
    ⟨⟨[.item "lines" 0, .item "tax" 1, .property "rate", .property "value"]⟩, .integer 7⟩ ∈
      (Reader.start taxedLine
        ⟨[⟨"lines", .static 0⟩, ⟨"tax", .wildcard 1⟩, .property "rate",
          .property "value"]⟩).toList ∧
    ∃ (front : List PathElement) (names : List String) (item : Node),
      [.item "lines" 0, .item "tax" 1, .property "rate", .property "value"] =
        front ++ names.map .property ∧
      LongestToItem [.item "lines" 0, .item "tax" 1, .property "rate", .property "value"] front ∧
      taxedLine.enclosingItem?
        ⟨[.item "lines" 0, .item "tax" 1, .property "rate", .property "value"]⟩ = some item ∧
      taxedLine.at? (trailLocation front) = some item ∧
      item.at? (names.map .property) = some (.scalar (.integer 7)) := by
  have hmem : (⟨⟨[.item "lines" 0, .item "tax" 1, .property "rate", .property "value"]⟩,
      .integer 7⟩ : SelectedValue) ∈ (Reader.start taxedLine
        ⟨[⟨"lines", .static 0⟩, ⟨"tax", .wildcard 1⟩, .property "rate",
          .property "value"]⟩).toList := by
    rw [Reader.toList_start]
    decide
  exact ⟨hmem, enclosing_item_is_innermost hmem⟩

end DocumentMapping
