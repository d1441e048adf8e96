import DocumentMapping.Proofs.Tree.Location

/-!
# Storing scalars at locations

A scalar is stored at a location by one change of every node on the way. The lookup after a store
is the scalar at the location itself, what remains of the store on the way to it, and unchanged at
every location that diverges from it. Two stores at one location are one store, and two stores at
locations of one shape do not depend on their order when the first location exists already.
-/

namespace DocumentMapping.Node

/-- Stores a scalar at a location. -/
def store (value : Scalar) : Location → Node → Node
  | [], _ => .scalar value
  | place :: rest, node => node.modifyChild place (store value rest)

@[simp] theorem store_nil (value : Scalar) (node : Node) :
    node.store value [] = .scalar value := rfl

@[simp] theorem store_cons (value : Scalar) (place : Place) (rest : Location) (node : Node) :
    node.store value (place :: rest) = node.modifyChild place (store value rest) := rfl

/-! ## Lookups after a store -/

/-- Below a place that is missing a lookup finds as little as in an empty slot. -/
theorem at?_cons_getD (node : Node) (place : Place) (rest : Location) :
    (node.at? (place :: rest)).getD .placeholder =
      ((node.slotAt place).at? rest).getD .placeholder := by
  rw [at?_cons, slotAt]
  cases node.child? place with
  | some child => rfl
  | none =>
    cases rest with
    | nil => rfl
    | cons next more => rw [Option.getD_none, placeholder, at?_scalar (List.cons_ne_nil _ _)]; rfl

/-- On the way to a store stands the old node with the rest of the store. -/
theorem at?_store_append (node : Node) (value : Scalar) (location rest : Location) :
    (node.store value (location ++ rest)).at? location =
      some (((node.at? location).getD .placeholder).store value rest) := by
  induction location generalizing node with
  | nil => rfl
  | cons place more ih =>
    rw [List.cons_append, store_cons, at?_cons, child?_modifyChild, Option.bind_some, ih,
      at?_cons_getD]

/-- After a store the location holds the scalar. -/
@[simp] theorem at?_store (node : Node) (value : Scalar) (location : Location) :
    (node.store value location).at? location = some (.scalar value) := by
  have h := at?_store_append node value location []
  rwa [List.append_nil, store_nil] at h

/-- Below a stored scalar there is nothing. -/
theorem at?_store_below (node : Node) (value : Scalar) (location rest : Location)
    (hrest : rest ≠ []) : (node.store value location).at? (location ++ rest) = none := by
  rw [at?_append, at?_store, Option.bind_some, at?_scalar hrest]

/-- At a location that diverges a store leaves everything as it is, but for the empty items in front
of a new one. -/
theorem at?_store_of_diverges {node : Node} (value : Scalar) {location other : Location}
    (hadmits : node.Admits location) (hdiverges : location.Diverges other) :
    (node.store value location).at? other = node.at? other ∨
      (node.at? other = none ∧ (node.store value location).at? other = some .placeholder ∧
        other.Pads location) := by
  induction location generalizing node other with
  | nil => exact (Location.not_diverges_nil_left other hdiverges).elim
  | cons place rest ih =>
    cases other with
    | nil => exact (Location.not_diverges_nil_right _ hdiverges).elim
    | cons next others =>
      obtain ⟨haccepts, hrest⟩ := hadmits
      rw [store_cons, at?_cons, at?_cons]
      by_cases hplace : place = next
      · subst hplace
        have hlater : Location.Diverges rest others := by
          simpa [Location.diverges_cons] using hdiverges
        rw [child?_modifyChild, Option.bind_some]
        have hslot : (node.child? place).bind (·.at? others) = (node.slotAt place).at? others := by
          cases hchild : node.child? place with
          | some child => rw [Option.bind_some, slotAt_of_child? hchild]
          | none =>
            have hne : others ≠ [] := by
              rintro rfl
              exact Location.not_diverges_nil_right _ hlater
            rw [Option.bind_none, slotAt, hchild, Option.getD_none, placeholder, at?_scalar hne]
        rw [hslot]
        rcases ih hrest hlater with hsame | ⟨hnone, hsome, hpads⟩
        · exact .inl hsame
        · exact .inr ⟨hnone, hsome, hpads.cons place⟩
      · rcases child?_modifyChild_of_ne (store value rest) haccepts hplace with
          hsame | ⟨hnone, hsome, position, index, rfl, rfl, hlt⟩
        · left
          rw [hsame]
        · rw [hnone, hsome, Option.bind_none, Option.bind_some]
          cases others with
          | nil => exact .inr ⟨rfl, rfl, [], position, index, rest, rfl, rfl, hlt⟩
          | cons more others =>
            left
            rw [placeholder, at?_scalar (List.cons_ne_nil _ _)]

/-- A store keeps the way to every location of its shape free. -/
theorem admits_store {node : Node} (value : Scalar) {location other : Location}
    (hshape : location.SameShape other) (hlocation : node.Admits location)
    (hother : node.Admits other) : (node.store value location).Admits other := by
  induction location generalizing node other with
  | nil =>
    cases other with
    | nil => trivial
    | cons next others => exact hshape.elim
  | cons place rest ih =>
    cases other with
    | nil => exact hshape.elim
    | cons next others =>
      obtain ⟨hkind, hshape⟩ := hshape
      obtain ⟨haccepts, hrest⟩ := hlocation
      refine ⟨accepts_modifyChild node _ hkind, ?_⟩
      rw [store_cons]
      by_cases hplace : place = next
      · subst hplace
        rw [slotAt_of_child? (child?_modifyChild node place _)]
        exact ih hshape hrest hother.2
      · rw [slotAt_modifyChild_of_ne _ haccepts hplace]
        exact hother.2

/-! ## Two stores -/

/-- Of two stores at one location the later one counts. -/
theorem store_store (node : Node) (first second : Scalar) (location : Location) :
    (node.store first location).store second location = node.store second location := by
  induction location generalizing node with
  | nil => rfl
  | cons place rest ih =>
    rw [store_cons, store_cons, modifyChild_modifyChild, store_cons]
    congr 1
    funext child
    exact ih child

/-- Storing what stands at a location changes nothing. -/
theorem store_eq_self {node : Node} {value : Scalar} {location : Location}
    (h : node.at? location = some (.scalar value)) : node.store value location = node := by
  induction location generalizing node with
  | nil => exact (Option.some.inj h).symm
  | cons place rest ih =>
    rw [at?_cons, Option.bind_eq_some_iff] at h
    obtain ⟨child, hchild, hrest⟩ := h
    exact modifyChild_eq_self hchild (ih hrest)

/-- Stores at two locations of one shape do not depend on their order when the first location exists
already. -/
theorem store_comm {node : Node} {location other : Location} (first second : Scalar)
    (hexists : (node.at? location).isSome) (hshape : location.SameShape other)
    (hne : location ≠ other) :
    (node.store second other).store first location =
      (node.store first location).store second other := by
  induction location generalizing node other with
  | nil =>
    cases other with
    | nil => exact (hne rfl).elim
    | cons next others => exact hshape.elim
  | cons place rest ih =>
    cases other with
    | nil => exact hshape.elim
    | cons next others =>
      obtain ⟨hkind, hshape⟩ := hshape
      rw [at?_cons, Option.isSome_bind, Option.any_eq_true] at hexists
      obtain ⟨child, hchild, hrest⟩ := hexists
      by_cases hplace : place = next
      · subst hplace
        have hlater : rest ≠ others := fun h => hne (by rw [h])
        simp only [store_cons, modifyChild_modifyChild]
        apply modifyChild_congr
        rw [slotAt_of_child? hchild]
        exact ih hrest hshape hlater
      · exact modifyChild_comm _ _ hchild hkind hplace

end DocumentMapping.Node
