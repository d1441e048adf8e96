import DocumentMapping.Proofs.Tree.Spreading

/-!
# Writes that change places

Two writes to decided positions, none of which lies at or below the other, can change places: where
the second one finds a free way after the first one, each of them finds its way without the other.
The trees they leave differ at most in the order of properties, since a property stands behind those
that were there when it was made.
-/

namespace DocumentMapping

/-! ## Maps and lists -/

namespace OrderedMap

variable {α : Type u}

/-- Insertions under two keys give the same entries in either order. -/
theorem insert_perm {key other : String} (hne : key ≠ other) (map : OrderedMap α)
    (first second : α) :
    ((map.insert key first).insert other second).Perm
      ((map.insert other second).insert key first) := by
  induction map with
  | nil =>
    simp only [insert, if_neg hne, if_neg hne.symm]
    exact List.Perm.swap _ _ _
  | cons entry rest ih =>
    obtain ⟨k, v⟩ := entry
    by_cases hkey : k = key
    · subst hkey
      simp [insert, hne]
    · by_cases hother : k = other
      · subst hother
        simp [insert, hkey]
      · simp only [insert, if_neg hkey, if_neg hother]
        exact ih.cons _

/-- Related values under one key make related maps. -/
theorem forall₂_insert {R : α → α → Prop} (hrefl : ∀ value, R value value) (map : OrderedMap α)
    (key : String) {first second : α} (h : R first second) :
    List.Forall₂ R ((map.insert key first).map Prod.snd)
      ((map.insert key second).map Prod.snd) := by
  induction map with
  | nil => exact .cons h .nil
  | cons entry rest ih =>
    obtain ⟨k, v⟩ := entry
    by_cases hkey : k = key
    · simp only [insert, if_pos hkey, List.map_cons]
      exact .cons h (List.forall₂_same.mpr fun value _ => hrefl value)
    · simp only [insert, if_neg hkey, List.map_cons]
      exact .cons (hrefl v) ih

end OrderedMap

/-- Related values at one position make related lists. -/
theorem forall₂_modify {α : Type u} {R : α → α → Prop} (hrefl : ∀ value, R value value)
    (values : List α) (position : Nat) {first second : α} (h : R first second) :
    List.Forall₂ R (values.modify position fun _ => first)
      (values.modify position fun _ => second) := by
  induction values generalizing position with
  | nil =>
    rw [List.modify_nil, List.modify_nil]
    exact .nil
  | cons value rest ih =>
    cases position with
    | zero =>
      rw [List.modify_zero_cons, List.modify_zero_cons]
      exact .cons h (List.forall₂_same.mpr fun value _ => hrefl value)
    | succ position =>
      rw [List.modify_succ_cons, List.modify_succ_cons]
      exact .cons (hrefl value) (ih position)

/-! ## Trees that differ in the order of properties -/

namespace Node

/-- Two trees are equal but for the order of properties: the properties of every object, in some
other order, have the names of the other object and values that are equal in this sense. -/
inductive EqualUpToOrder : Node → Node → Prop
  | scalar (value : Scalar) : EqualUpToOrder (.scalar value) (.scalar value)
  | array {items others : List Node} (hitems : List.Forall₂ EqualUpToOrder items others) :
      EqualUpToOrder (.array items) (.array others)
  | object {properties rearranged others : OrderedMap Node} (hperm : properties.Perm rearranged)
      (hkeys : rearranged.keys = others.keys)
      (hvalues : List.Forall₂ EqualUpToOrder (rearranged.map Prod.snd) (others.map Prod.snd)) :
      EqualUpToOrder (.object properties) (.object others)

theorem EqualUpToOrder.refl : (node : Node) → node.EqualUpToOrder node
  | .scalar value => .scalar value
  | .array items => .array (List.forall₂_same.mpr fun item _ => refl item)
  | .object properties => by
    refine .object (List.Perm.refl _) rfl ?_
    rw [List.forall₂_map_left_iff, List.forall₂_map_right_iff]
    refine List.forall₂_same.mpr fun (name, child) hmem => ?_
    have hlt : sizeOf (name, child) < sizeOf properties := List.sizeOf_lt_of_mem hmem
    have hchild : sizeOf (name, child) = 1 + sizeOf name + sizeOf child := rfl
    exact refl child

/-- A change of one place to nodes that are equal up to order gives such trees. -/
theorem EqualUpToOrder.modifyChild {node : Node} {place : Place} {first second : Node → Node}
    (h : (first (node.slotAt place)).EqualUpToOrder (second (node.slotAt place))) :
    (node.modifyChild place first).EqualUpToOrder (node.modifyChild place second) := by
  have hfirst : node.modifyChild place first =
      node.modifyChild place fun _ => first (node.slotAt place) := modifyChild_congr rfl
  have hsecond : node.modifyChild place second =
      node.modifyChild place fun _ => second (node.slotAt place) := modifyChild_congr rfl
  rw [hfirst, hsecond]
  cases place with
  | property name =>
    refine .object (List.Perm.refl _) ?_ (OrderedMap.forall₂_insert .refl _ name h)
    rw [OrderedMap.keys_insert, OrderedMap.keys_insert]
  | item position => exact .array (forall₂_modify .refl _ position h)

/-! ## Changes of two places -/

/-- Changes of two places of one container give the same tree in either order, up to the order of
properties. -/
theorem modifyChild_swap {place other : Place} (node : Node) (first second : Node → Node)
    (hkind : place.SameKind other) (hne : place ≠ other) :
    ((node.modifyChild place first).modifyChild other second).EqualUpToOrder
      ((node.modifyChild other second).modifyChild place first) := by
  cases place with
  | property name =>
    cases other with
    | item index => exact hkind.elim
    | property key =>
      have hkey : name ≠ key := fun h => hne (by rw [h])
      simp only [modifyChild, modifyProperty, asProperties?_object, Option.getD_some, slot,
        OrderedMap.get?_insert, if_neg hkey, if_neg hkey.symm]
      exact .object (OrderedMap.insert_perm hkey _ _ _) rfl
        (List.forall₂_same.mpr fun value _ => .refl value)
  | item position =>
    cases other with
    | property key => exact hkind.elim
    | item index =>
      have hindex : position ≠ index := fun h => hne (by rw [h])
      -- items come in the same order whichever of the two positions is changed first
      have hsame : (node.modifyChild (.item position) first).modifyChild (.item index) second =
          (node.modifyChild (.item index) second).modifyChild (.item position) first :=
        congrArg Node.array (modifyItem_comm hindex _ first second)
      rw [hsame]
      exact .refl _

/-! ## Stores at two locations -/

/-- When a store at one of two diverging locations leaves the way to the other one free, the stores
can change places. -/
theorem stores_swap {node : Node} {location other : Location} (first second : Scalar)
    (hlocation : node.Admits location) (hother : (node.store first location).Admits other)
    (hdiverges : location.Diverges other) :
    node.Admits other ∧ (node.store second other).Admits location ∧
      ((node.store first location).store second other).EqualUpToOrder
        ((node.store second other).store first location) := by
  induction location generalizing node other with
  | nil => exact (Location.not_diverges_nil_left other hdiverges).elim
  | cons place rest ih =>
    cases other with
    | nil => exact (Location.not_diverges_nil_right _ hdiverges).elim
    | cons next others =>
      obtain ⟨haccepts, hrest⟩ := hlocation
      obtain ⟨hnext, hothers⟩ := hother
      have hkind := sameKind_of_accepts_modifyChild hnext
      by_cases hplace : place = next
      · -- behind a common place the stores change places below
        subst hplace
        have hlater : Location.Diverges rest others := by
          simpa [Location.diverges_cons] using hdiverges
        rw [store_cons, slotAt_of_child? (child?_modifyChild node place _)] at hothers
        obtain ⟨hfree, hstill, hequal⟩ := ih hrest hothers hlater
        refine ⟨⟨haccepts, hfree⟩, ⟨accepts_modifyChild node _ hkind, ?_⟩, ?_⟩
        · rw [store_cons, slotAt_of_child? (child?_modifyChild node place _)]
          exact hstill
        · simp only [store_cons, modifyChild_modifyChild]
          exact EqualUpToOrder.modifyChild hequal
      · have hfree := accepts_of_sameKind haccepts hkind
        rw [store_cons, slotAt_modifyChild_of_ne _ haccepts hplace] at hothers
        refine ⟨⟨hfree, hothers⟩, ⟨accepts_modifyChild node _ hkind.symm, ?_⟩, ?_⟩
        · rw [store_cons, slotAt_modifyChild_of_ne _ hfree (Ne.symm hplace)]
          exact hrest
        · exact modifyChild_swap node _ _ hkind hplace

end Node

/-! ## Two writes -/

/-- A write whose positions are all decided: its path has fixed positions, or tags that the hints
pin to a position. -/
structure PinnedWrite where
  path : Path
  placement : Placement
  tags : List String
  value : Scalar
  pinned : ∀ tag ∈ path.dynamicTags, ∃ position, placement.get? tag = some (.position position)

namespace PinnedWrite

/-- Performs the write. -/
def run (write : PinnedWrite) (target : Node) : Except Conflict Written :=
  write.path.write write.placement write.tags write.value target

/-- The location of the write, the same in every tree. -/
def location (write : PinnedWrite) : Location :=
  (locationBy? write.placement.pinned? write.path.elements).getD []

theorem locationBy?_eq (write : PinnedWrite) :
    locationBy? write.placement.pinned? write.path.elements = some write.location := by
  obtain ⟨location, hlocation⟩ := exists_locationBy? fun tag htag => by
    obtain ⟨position, hposition⟩ := write.pinned tag htag
    have hpinned : write.placement.pinned? tag = some position := by
      rw [Placement.pinned?, hposition]
    exact ⟨position, hpinned⟩
  rw [PinnedWrite.location, hlocation, Option.getD_some]

/-- The write succeeds where the way to its location is free, and stores its value there. -/
theorem run_of_admits (write : PinnedWrite) {target : Node}
    (hadmits : target.Admits write.location) :
    ∃ more, write.run target = .ok ⟨target.store write.value write.location, more⟩ :=
  ⟨_, Path.write_of_locationBy? write.locationBy?_eq hadmits write.tags write.value⟩

theorem admits_of_run {write : PinnedWrite} {target : Node} {written : Written}
    (h : write.run target = .ok written) : target.Admits write.location := by
  by_contra hblocked
  obtain ⟨conflict, hconflict⟩ :=
    Path.exists_write_eq_error write.locationBy?_eq hblocked write.tags write.value
  rw [run, hconflict] at h
  cases h

/-- What a write that succeeds leaves. -/
theorem node_of_run {write : PinnedWrite} {target : Node} {written : Written}
    (h : write.run target = .ok written) :
    written.node = target.store write.value write.location := by
  obtain ⟨more, hrun⟩ := write.run_of_admits (admits_of_run h)
  rw [h] at hrun
  rw [Except.ok.inj hrun]

end PinnedWrite

/-- Two writes to decided positions of which none lies at or below the other can change places: when
one succeeds after the other, they succeed in the other order too, and the trees are equal up to the
order of properties. -/
theorem writes_commute (first second : PinnedWrite)
    (hdiverges : first.location.Diverges second.location) {target : Node} {early both : Written}
    (hfirst : first.run target = .ok early) (hsecond : second.run early.node = .ok both) :
    ∃ late swapped, second.run target = .ok late ∧ first.run late.node = .ok swapped ∧
      both.node.EqualUpToOrder swapped.node := by
  have hboth := PinnedWrite.node_of_run hsecond
  have hother := PinnedWrite.admits_of_run hsecond
  rw [PinnedWrite.node_of_run hfirst] at hboth hother
  obtain ⟨hfree, hstill, hequal⟩ :=
    Node.stores_swap first.value second.value (PinnedWrite.admits_of_run hfirst) hother hdiverges
  obtain ⟨more, hlate⟩ := second.run_of_admits hfree
  obtain ⟨further, hswapped⟩ := first.run_of_admits hstill
  refine ⟨_, _, hlate, hswapped, ?_⟩
  rw [hboth]
  exact hequal

/-- A write to a property of the second of some lines. -/
def secondLine (name : String) (value : Scalar) : PinnedWrite where
  path := ⟨[⟨"lines", .wildcard 1⟩, .property name]⟩
  placement := [("*", .position 1)]
  tags := []
  value := value
  pinned := by
    intro tag htag
    have hstar : tag = "*" := List.mem_singleton.mp htag
    subst hstar
    exact ⟨1, rfl⟩

/-- Two lines, of which the second one has the given properties. -/
def secondLineWith (properties : OrderedMap Node) : Node :=
  .object [("lines", .array [.placeholder, .object properties])]

/-- Each of two writes makes the second line, and puts its own property in front. -/
theorem writes_commute_in_second_line :
    (secondLine "rate" (.integer 9)).location.Diverges (secondLine "code" .null).location ∧
    (secondLine "rate" (.integer 9)).run (.object []) =
      .ok ⟨secondLineWith [("rate", .scalar (.integer 9))], false⟩ ∧
    (secondLine "code" .null).run (secondLineWith [("rate", .scalar (.integer 9))]) =
      .ok ⟨secondLineWith [("rate", .scalar (.integer 9)), ("code", .scalar .null)], false⟩ ∧
    ∃ late swapped, (secondLine "code" .null).run (.object []) = .ok late ∧
      (secondLine "rate" (.integer 9)).run late.node = .ok swapped ∧
      (secondLineWith [("rate", .scalar (.integer 9)), ("code", .scalar .null)]).EqualUpToOrder
        swapped.node := by
  have hdiverges : (secondLine "rate" (.integer 9)).location.Diverges
      (secondLine "code" .null).location := ⟨by decide, by decide⟩
  have hrate : (secondLine "rate" (.integer 9)).run (.object []) =
      .ok ⟨secondLineWith [("rate", .scalar (.integer 9))], false⟩ := rfl
  have hcode : (secondLine "code" .null).run
      (secondLineWith [("rate", .scalar (.integer 9))]) =
      .ok ⟨secondLineWith [("rate", .scalar (.integer 9)), ("code", .scalar .null)], false⟩ := rfl
  exact ⟨hdiverges, hrate, hcode, writes_commute _ _ hdiverges hrate hcode⟩

end DocumentMapping
