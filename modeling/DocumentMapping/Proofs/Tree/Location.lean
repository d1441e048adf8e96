import DocumentMapping.Tree.Writing
import Mathlib

/-!
# Locations in a tree

A location is a list of places, each a property of an object or an item of an array. Lookups along
a location and changes of a single place are described here; how whole scalars are stored is built
on them.
-/

namespace DocumentMapping

/-- A place in a node: a property of an object or an item of an array. -/
inductive Place where
  | property (name : String)
  | item (position : Nat)
deriving DecidableEq, Repr

/-- The places that lead from the root of a tree to a node. -/
abbrev Location := List Place

/-- Whether two places belong to the same kind of container. -/
def Place.SameKind : Place → Place → Prop
  | .property _, .property _ => True
  | .item _, .item _ => True
  | _, _ => False

namespace Place

theorem SameKind.symm {place other : Place} (h : place.SameKind other) : other.SameKind place := by
  cases place <;> cases other <;> simp_all [SameKind]

theorem SameKind.trans {place middle other : Place} (h : place.SameKind middle)
    (hother : middle.SameKind other) : place.SameKind other := by
  cases place <;> cases middle <;> cases other <;> simp_all [SameKind]

end Place

namespace Location

/-- Neither of two locations lies at or below the other. -/
def Diverges (location other : Location) : Prop :=
  ¬ location <+: other ∧ ¬ other <+: location

/-- A location is an item in front of an item that another location passes through. -/
def Pads (location other : Location) : Prop :=
  ∃ before position index rest,
    other = before ++ .item position :: rest ∧ location = before ++ [.item index] ∧
      index < position

/-- Two locations pass through the same kinds of containers. -/
def SameShape : Location → Location → Prop
  | [], [] => True
  | place :: rest, other :: others => place.SameKind other ∧ SameShape rest others
  | _, _ => False

/-- Different places part two locations; behind a common place they part later. -/
theorem diverges_cons {place other : Place} {rest others : Location} :
    Diverges (place :: rest) (other :: others) ↔ place ≠ other ∨ Diverges rest others := by
  unfold Diverges
  rw [List.cons_prefix_cons, List.cons_prefix_cons]
  by_cases h : place = other
  · simp [h]
  · simp [h, Ne.symm h]

theorem not_diverges_nil_left (other : Location) : ¬ Diverges [] other :=
  fun h => h.1 (List.nil_prefix)

theorem not_diverges_nil_right (location : Location) : ¬ Diverges location [] :=
  fun h => h.2 (List.nil_prefix)

/-- Two locations diverge, are equal, or one lies below the other. -/
theorem diverges_or_below (location other : Location) :
    location.Diverges other ∨ location = other ∨
      (∃ place rest, other = location ++ place :: rest) ∨
      ∃ place rest, location = other ++ place :: rest := by
  induction location generalizing other with
  | nil =>
    cases other with
    | nil => exact .inr (.inl rfl)
    | cons place rest => exact .inr (.inr (.inl ⟨place, rest, rfl⟩))
  | cons place rest ih =>
    cases other with
    | nil => exact .inr (.inr (.inr ⟨place, rest, rfl⟩))
    | cons next others =>
      rw [diverges_cons]
      by_cases hplace : place = next
      · subst hplace
        rcases ih others with h | rfl | ⟨more, below, rfl⟩ | ⟨more, below, rfl⟩
        · exact .inl (.inr h)
        · exact .inr (.inl rfl)
        · exact .inr (.inr (.inl ⟨more, below, rfl⟩))
        · exact .inr (.inr (.inr ⟨more, below, rfl⟩))
      · exact .inl (.inl hplace)

/-- Padding stays padding behind a common place. -/
theorem Pads.cons {location other : Location} (h : location.Pads other) (place : Place) :
    Pads (place :: location) (place :: other) := by
  obtain ⟨before, position, index, rest, rfl, rfl, hlt⟩ := h
  exact ⟨place :: before, position, index, rest, rfl, rfl, hlt⟩

theorem SameShape.symm {location other : Location} (h : location.SameShape other) :
    other.SameShape location := by
  induction location generalizing other with
  | nil =>
    cases other with
    | nil => trivial
    | cons place rest => exact h.elim
  | cons place rest ih =>
    cases other with
    | nil => exact h.elim
    | cons next others => exact ⟨h.1.symm, ih h.2⟩

theorem SameShape.trans {location middle other : Location} (h : location.SameShape middle)
    (hother : middle.SameShape other) : location.SameShape other := by
  induction location generalizing middle other with
  | nil =>
    cases middle with
    | nil => exact hother
    | cons place rest => exact h.elim
  | cons place rest ih =>
    cases middle with
    | nil => exact h.elim
    | cons next more =>
      cases other with
      | nil => exact hother.elim
      | cons last others => exact ⟨h.1.trans hother.1, ih h.2 hother.2⟩

/-- Of two locations of one shape none lies below the other. -/
theorem SameShape.diverges {location other : Location} (h : location.SameShape other)
    (hne : location ≠ other) : location.Diverges other := by
  induction location generalizing other with
  | nil =>
    cases other with
    | nil => exact (hne rfl).elim
    | cons place rest => exact h.elim
  | cons place rest ih =>
    cases other with
    | nil => exact h.elim
    | cons next others =>
      rw [diverges_cons]
      by_cases hplace : place = next
      · right
        exact ih h.2 (fun heq => hne (by rw [hplace, heq]))
      · exact .inl hplace

end Location

namespace Node

/-! ## Lookups -/

/-- The node at a place. -/
def child? (node : Node) : Place → Option Node
  | .property name => node.get? name
  | .item position => node.item? position

/-- The node at a location. -/
def at? : Node → Location → Option Node
  | node, [] => some node
  | node, place :: rest => (node.child? place).bind (·.at? rest)

/-- The number of items that stand at a location; a missing array has none. -/
def lengthAt (node : Node) (location : Location) : Nat :=
  match node.at? location with
  | some (.array items) => items.length
  | _ => 0

@[simp] theorem at?_nil (node : Node) : node.at? [] = some node := rfl

@[simp] theorem at?_cons (node : Node) (place : Place) (rest : Location) :
    node.at? (place :: rest) = (node.child? place).bind (·.at? rest) := rfl

/-- A lookup along two locations is a lookup at the second from where the first leads. -/
theorem at?_append (node : Node) (location rest : Location) :
    node.at? (location ++ rest) = (node.at? location).bind (·.at? rest) := by
  induction location generalizing node with
  | nil => rfl
  | cons place more ih =>
    rw [List.cons_append, at?_cons, at?_cons]
    cases node.child? place with
    | none => rfl
    | some child => exact ih child

@[simp] theorem child?_scalar (value : Scalar) (place : Place) :
    (Node.scalar value).child? place = none := by
  cases place <;> rfl

/-- Nothing lies below a scalar. -/
theorem at?_scalar {value : Scalar} {location : Location} (h : location ≠ []) :
    (Node.scalar value).at? location = none := by
  cases location with
  | nil => exact (h rfl).elim
  | cons place rest => rw [at?_cons, child?_scalar, Option.bind_none]

/-- The node that a write finds at a place: an empty slot when there is none yet. -/
def slotAt (node : Node) (place : Place) : Node :=
  (node.child? place).getD .placeholder

/-- Whether a node can hold something at a place: an array has no properties and an object no
items. -/
def Accepts (node : Node) : Place → Prop
  | .property _ => node.asProperties?.isSome
  | .item _ => node.asItems?.isSome

/-- Whether every node on the way to a location can hold the next place. -/
def Admits : Node → Location → Prop
  | _, [] => True
  | node, place :: rest => node.Accepts place ∧ Admits (node.slotAt place) rest

/-- A node that can hold something at a place can do so at every place of the kind. -/
theorem accepts_of_sameKind {node : Node} {place other : Place} (h : node.Accepts place)
    (hkind : place.SameKind other) : node.Accepts other := by
  cases place <;> cases other <;> first | exact h | exact hkind.elim

theorem slotAt_of_child? {node child : Node} {place : Place} (h : node.child? place = some child) :
    node.slotAt place = child := by
  rw [slotAt, h, Option.getD_some]

@[simp] theorem slotAt_scalar (value : Scalar) (place : Place) :
    (Node.scalar value).slotAt place = .placeholder := by
  rw [slotAt, child?_scalar, Option.getD_none]

/-- A scalar is an empty slot for every location. -/
theorem admits_scalar (value : Scalar) (location : Location) :
    (Node.scalar value).Admits location := by
  induction location generalizing value with
  | nil => trivial
  | cons place rest ih =>
    refine ⟨?_, ?_⟩
    · cases place <;> rfl
    · rw [slotAt_scalar]
      exact ih _

/-- The property of a node, read in the properties that a write finds. -/
theorem child?_property (node : Node) (name : String) :
    node.child? (.property name) = OrderedMap.get? (node.asProperties?.getD []) name := by
  cases node <;> rfl

/-- The item of a node, read in the items that a write finds. -/
theorem child?_item (node : Node) (position : Nat) :
    node.child? (.item position) = (node.asItems?.getD [])[position]? := by
  cases node <;> rfl

@[simp] theorem asProperties?_object (properties : OrderedMap Node) :
    (Node.object properties).asProperties? = some properties := rfl

@[simp] theorem asItems?_array (items : List Node) : (Node.array items).asItems? = some items := rfl

@[simp] theorem child?_object (properties : OrderedMap Node) (name : String) :
    (Node.object properties).child? (.property name) = properties.get? name := rfl

@[simp] theorem child?_array (items : List Node) (position : Nat) :
    (Node.array items).child? (.item position) = items[position]? := rfl

/-! ## Changing a place -/

/-- Changes the node at a place, after making a place for it. -/
def modifyChild (node : Node) (place : Place) (change : Node → Node) : Node :=
  match place with
  | .property name => node.modifyProperty name change
  | .item position => .array (modifyItem (node.asItems?.getD []) position change)

/-- A grown list has the old items and empty slots behind them. -/
theorem getElem?_grow (items : List Node) (position index : Nat) :
    (grow items position)[index]? =
      if index < items.length then items[index]?
      else if index ≤ position then some .placeholder else none := by
  rw [grow_eq, List.getElem?_append]
  split
  · rfl
  · rw [List.getElem?_replicate]
    congr 1
    simp only [eq_iff_iff]
    omega

/-- A grown list reaches beyond the position. -/
theorem length_grow (items : List Node) (position : Nat) :
    (grow items position).length = max items.length (position + 1) := by
  rw [grow_eq, List.length_append, List.length_replicate]
  omega

@[simp] theorem length_modifyItem (items : List Node) (position : Nat) (change : Node → Node) :
    (modifyItem items position change).length = max items.length (position + 1) := by
  rw [modifyItem, List.length_modify, length_grow]

/-- The item at the position is changed, and what is added are empty slots. -/
theorem getElem?_modifyItem (items : List Node) (position index : Nat) (change : Node → Node) :
    (modifyItem items position change)[index]? =
      if index = position then some (change (items[position]?.getD .placeholder))
      else if index < items.length then items[index]?
      else if index < position then some .placeholder else none := by
  rw [modifyItem, List.getElem?_modify, getElem?_grow]
  by_cases h : index = position
  · subst h
    rw [if_pos rfl]
    by_cases hlt : index < items.length
    · simp [hlt]
    · simp [hlt]
  · have hlt : index ≤ position ↔ index < position := by omega
    simp [h, Ne.symm h, hlt]

/-- Changes at two positions do not depend on their order. -/
theorem modifyItem_comm {position index : Nat} (hne : position ≠ index) (items : List Node)
    (first second : Node → Node) :
    modifyItem (modifyItem items position first) index second =
      modifyItem (modifyItem items index second) position first := by
  apply List.ext_getElem?
  intro i
  simp only [getElem?_modifyItem, length_modifyItem]
  grind

/-- After a change the place holds the changed node. -/
@[simp] theorem child?_modifyChild (node : Node) (place : Place) (change : Node → Node) :
    (node.modifyChild place change).child? place = some (change (node.slotAt place)) := by
  cases place with
  | property name =>
    rw [slotAt, child?_property node]
    simp [modifyChild, modifyProperty, slot, OrderedMap.get?_insert]
  | item position =>
    rw [slotAt, child?_item node, modifyChild, child?_array, getElem?_modifyItem, if_pos rfl]

/-- A change of one place leaves the others, but for the empty items that an array gets in front of
a new one. -/
theorem child?_modifyChild_of_ne {node : Node} {place other : Place} (change : Node → Node)
    (haccepts : node.Accepts place) (hne : place ≠ other) :
    (node.modifyChild place change).child? other = node.child? other ∨
      (node.child? other = none ∧
        (node.modifyChild place change).child? other = some .placeholder ∧
        ∃ position index, place = .item position ∧ other = .item index ∧ index < position) := by
  cases place with
  | property name =>
    left
    cases other with
    | item position => cases node <;> first | rfl | exact absurd haccepts Bool.false_ne_true
    | property key =>
      have hkey : name ≠ key := fun h => hne (by rw [h])
      rw [child?_property node]
      simp [modifyChild, modifyProperty, OrderedMap.get?_insert, hkey]
  | item position =>
    cases other with
    | property name =>
      left
      cases node <;> first | rfl | exact absurd haccepts Bool.false_ne_true
    | item index =>
      have hindex : index ≠ position := fun h => hne (by rw [h])
      rw [child?_item node, modifyChild, child?_array, getElem?_modifyItem, if_neg hindex]
      split
      · exact .inl rfl
      · rw [List.getElem?_eq_none (by omega)]
        split
        · right
          exact ⟨rfl, rfl, position, index, rfl, rfl, by assumption⟩
        · exact .inl rfl

/-- What a write finds at a place does not depend on a change of another place. -/
theorem slotAt_modifyChild_of_ne {node : Node} {place other : Place} (change : Node → Node)
    (haccepts : node.Accepts place) (hne : place ≠ other) :
    (node.modifyChild place change).slotAt other = node.slotAt other := by
  rcases child?_modifyChild_of_ne change haccepts hne with hsame | ⟨hnone, hsome, _⟩
  · rw [slotAt, slotAt, hsame]
  · rw [slotAt, slotAt, hnone, hsome]
    rfl

/-- A changed node can hold what belongs to the container of the changed place. -/
theorem accepts_modifyChild {place other : Place} (node : Node) (change : Node → Node)
    (h : place.SameKind other) : (node.modifyChild place change).Accepts other := by
  cases place with
  | property name =>
    cases other with
    | property key => rfl
    | item index => exact h.elim
  | item position =>
    cases other with
    | property key => exact h.elim
    | item index => rfl

/-- A changed node holds nothing but what belongs to the container of the changed place. -/
theorem sameKind_of_accepts_modifyChild {node : Node} {place other : Place}
    {change : Node → Node} (h : (node.modifyChild place change).Accepts other) :
    place.SameKind other := by
  cases place with
  | property name =>
    cases other with
    | property key => trivial
    | item index => exact absurd h Bool.false_ne_true
  | item position =>
    cases other with
    | property key => exact absurd h Bool.false_ne_true
    | item index => trivial

/-- Only what a change makes of the node at the place counts. -/
theorem modifyChild_congr {node : Node} {place : Place} {first second : Node → Node}
    (h : first (node.slotAt place) = second (node.slotAt place)) :
    node.modifyChild place first = node.modifyChild place second := by
  cases place with
  | property name =>
    rw [slotAt, child?_property] at h
    simp only [modifyChild, modifyProperty, slot, h]
  | item position =>
    rw [slotAt, child?_item] at h
    simp only [modifyChild]
    congr 1
    apply List.ext_getElem?
    intro index
    rw [getElem?_modifyItem, getElem?_modifyItem, h]

/-- Two changes of one place are one change. -/
theorem modifyChild_modifyChild (node : Node) (place : Place) (first second : Node → Node) :
    (node.modifyChild place first).modifyChild place second =
      node.modifyChild place (second ∘ first) := by
  cases place with
  | property name =>
    simp [modifyChild, modifyProperty, slot, OrderedMap.get?_insert,
      OrderedMap.insert_insert]
  | item position =>
    simp only [modifyChild, asItems?_array, Option.getD_some]
    congr 1
    apply List.ext_getElem?
    intro index
    simp only [getElem?_modifyItem, length_modifyItem, if_true, Option.getD_some]
    grind

/-- Changes of two places of one container do not depend on their order when the first of them
exists already. -/
theorem modifyChild_comm {node child : Node} {place other : Place} (first second : Node → Node)
    (hchild : node.child? place = some child) (hkind : place.SameKind other) (hne : place ≠ other) :
    (node.modifyChild other second).modifyChild place first =
      (node.modifyChild place first).modifyChild other second := by
  cases place with
  | property name =>
    cases other with
    | item index => exact hkind.elim
    | property key =>
      have hkey : name ≠ key := fun h => hne (by rw [h])
      rw [child?_property] at hchild
      simp only [modifyChild, modifyProperty, asProperties?_object, Option.getD_some, slot,
        OrderedMap.get?_insert, hkey, hkey.symm, if_false]
      rw [OrderedMap.insert_comm hchild hkey]
  | item position =>
    cases other with
    | property key => exact hkind.elim
    | item index =>
      have hindex : position ≠ index := fun h => hne (by rw [h])
      exact congrArg Node.array (modifyItem_comm hindex _ first second).symm

/-- A change that keeps the node at a place changes nothing. -/
theorem modifyChild_eq_self {node child : Node} {place : Place} {change : Node → Node}
    (hchild : node.child? place = some child) (hchange : change child = child) :
    node.modifyChild place change = node := by
  cases place with
  | property name =>
    cases node with
    | array items => simp [child?, get?] at hchild
    | scalar value => simp at hchild
    | object properties =>
      rw [child?_object] at hchild
      simp [modifyChild, modifyProperty, slot, hchild, hchange,
        OrderedMap.insert_eq_self hchild]
  | item position =>
    cases node with
    | object properties => simp [child?, item?] at hchild
    | scalar value => simp at hchild
    | array items =>
      rw [child?_array] at hchild
      have hlt := (List.getElem?_eq_some_iff.mp hchild).1
      simp only [modifyChild, asItems?_array, Option.getD_some]
      congr 1
      apply List.ext_getElem?
      intro index
      rw [getElem?_modifyItem]
      grind

end Node

end DocumentMapping
