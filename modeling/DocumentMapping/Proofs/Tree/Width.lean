import DocumentMapping.Proofs.Tree.Reading
import DocumentMapping.Proofs.Tree.Writing

/-!
# How long arrays become

A write makes the arrays on its way longer, adds items with arrays of their own, and appends where a
hint says so. Along the elements with certain tags, however, it reaches just up to the position of
these tags, or stays below a limit. So the arrays along such elements that are longer than that have
been so before, and only they let a write report further items.
-/

namespace DocumentMapping

/-- A placement sends the elements with one of the tags to one position, whatever stands there. -/
def Placement.Fixes (placement : Placement) (tags : List String) (position : Nat)
    (elements : List PathElement) : Prop :=
  ∀ element ∈ elements, ∀ tag ∈ tags, element.tag? = some tag →
    ∀ length, placement.resolve element.index length = position

/-- A placement sends the elements with one of the tags below a limit, as long as their arrays are
within a bound. -/
def Placement.StaysBelow (placement : Placement) (tags : List String) (bound limit : Nat)
    (elements : List PathElement) : Prop :=
  ∀ element ∈ elements, ∀ tag ∈ tags, element.tag? = some tag →
    ∀ length ≤ bound, placement.resolve element.index length < limit

namespace Node

/-- The items that a write finds under a name. -/
def itemsAt (node : Node) (name : String) : List Node :=
  (node.slotAt (.property name)).asItems?.getD []

/-- Every array that an element with one of the tags indexes has at most the given number of items,
whatever items the elements before it lead through. -/
def ArraysWithin (tags : List String) (bound : Nat) : List PathElement → Node → Prop
  | [], _ => True
  | element :: rest, node =>
    if element.index.isIndexed then
      (∀ tag ∈ tags, element.tag? = some tag → (node.itemsAt element.name).length ≤ bound) ∧
        ∀ item ∈ node.itemsAt element.name, ArraysWithin tags bound rest item
    else ArraysWithin tags bound rest (node.slotAt (.property element.name))

variable {tags : List String} {bound : Nat}

theorem arraysWithin_property {element : PathElement} (hindex : element.index = .none)
    (rest : List PathElement) (node : Node) :
    node.ArraysWithin tags bound (element :: rest) ↔
      (node.slotAt (.property element.name)).ArraysWithin tags bound rest := by
  rw [ArraysWithin, hindex]
  exact Iff.rfl

theorem arraysWithin_item {element : PathElement} (hindexed : element.index.isIndexed = true)
    (rest : List PathElement) (node : Node) :
    node.ArraysWithin tags bound (element :: rest) ↔
      (∀ tag ∈ tags, element.tag? = some tag → (node.itemsAt element.name).length ≤ bound) ∧
        ∀ item ∈ node.itemsAt element.name, item.ArraysWithin tags bound rest := by
  rw [ArraysWithin, if_pos hindexed]

/-- There are no arrays in a scalar. -/
theorem arraysWithin_scalar (value : Scalar) (elements : List PathElement) :
    (Node.scalar value).ArraysWithin tags bound elements := by
  induction elements generalizing value with
  | nil => trivial
  | cons element rest ih =>
    have hitems : (Node.scalar value).itemsAt element.name = [] := by
      rw [itemsAt, slotAt_scalar]
      rfl
    rw [ArraysWithin, hitems, slotAt_scalar]
    split
    · exact ⟨fun _ _ _ => Nat.zero_le _, fun _ hmem => nomatch hmem⟩
    · exact ih _

theorem ArraysWithin.mono {elements : List PathElement} {node : Node} {greater : Nat}
    (h : node.ArraysWithin tags bound elements) (hle : bound ≤ greater) :
    node.ArraysWithin tags greater elements := by
  induction elements generalizing node with
  | nil => trivial
  | cons element rest ih =>
    rw [ArraysWithin] at h ⊢
    split at h
    · rename_i hindexed
      rw [if_pos hindexed]
      exact ⟨fun tag hmem htag => Nat.le_trans (h.1 tag hmem htag) hle,
        fun item hmem => ih (h.2 item hmem)⟩
    · rename_i hindexed
      rw [if_neg hindexed]
      exact ih h

/-- What holds of the items under a name holds of the item that a write goes on in. -/
theorem arraysWithin_slotAt_item {rest : List PathElement} {node : Node} {name : String}
    (h : ∀ item ∈ node.itemsAt name, item.ArraysWithin tags bound rest) (position : Nat) :
    ((node.slotAt (.property name)).slotAt (.item position)).ArraysWithin tags bound rest := by
  rw [slotAt, child?_item]
  change ((node.itemsAt name)[position]?.getD .placeholder).ArraysWithin tags bound rest
  cases hitem : (node.itemsAt name)[position]? with
  | some item => exact h item (List.mem_of_getElem? hitem)
  | none => exact arraysWithin_scalar .null rest

/-- The items under a name are none or those of the array that stands there. -/
theorem itemsAt_eq_nil_or (node : Node) (name : String) :
    node.itemsAt name = [] ∨
      node.at? [.property name] = some (.array (node.itemsAt name)) := by
  rw [itemsAt, slotAt, at?_cons]
  cases node.child? (.property name) with
  | none => exact .inl rfl
  | some child =>
    cases child with
    | object properties => exact .inl rfl
    | array items => exact .inr rfl
    | scalar value => exact .inl rfl

/-- A bound on all arrays of a tree is one on those along elements. -/
theorem arraysWithin_of_forall_at? {node : Node}
    (h : ∀ location items, node.at? location = some (.array items) → items.length ≤ bound)
    (elements : List PathElement) : node.ArraysWithin tags bound elements := by
  induction elements generalizing node with
  | nil => trivial
  | cons element rest ih =>
    have hbelow : ∀ {found location}, node.at? location = some found →
        found.ArraysWithin tags bound rest := by
      intro found location hfound
      refine ih fun below items hitems => h (location ++ below) items ?_
      rw [at?_append, hfound, Option.bind_some, hitems]
    rw [ArraysWithin]
    split
    · rcases node.itemsAt_eq_nil_or element.name with hnil | harray
      · rw [hnil]
        exact ⟨fun _ _ _ => Nat.zero_le _, fun _ hmem => nomatch hmem⟩
      · refine ⟨fun _ _ _ => h _ _ harray, fun item hmem => ?_⟩
        obtain ⟨position, hposition⟩ := List.mem_iff_getElem?.mp hmem
        refine @hbelow item ([.property element.name] ++ [.item position]) ?_
        rw [at?_append, harray, Option.bind_some, at?_cons, child?_array, hposition,
          Option.bind_some, at?_nil]
    · rw [slotAt]
      cases hchild : node.child? (.property element.name) with
      | none => exact arraysWithin_scalar .null rest
      | some child =>
        refine @hbelow child [.property element.name] ?_
        rw [at?_cons, hchild, Option.bind_some, at?_nil]

/-! ## Writes -/

variable {placement : Placement} {position limit : Nat}

/-- A write makes the arrays along its tags no longer than the limit of its positions. -/
theorem ArraysWithin.store_walk_below {elements : List PathElement} {node : Node}
    (h : node.ArraysWithin tags bound elements)
    (hwalk : (walk placement elements node).conflict = none)
    (hstays : placement.StaysBelow tags bound limit elements) (hle : bound ≤ limit)
    (value : Scalar) :
    (node.store value (walk placement elements node).location).ArraysWithin tags limit
      elements := by
  induction elements generalizing node with
  | nil => trivial
  | cons element rest ih =>
    have hlater : placement.StaysBelow tags bound limit rest :=
      fun later hmem => hstays later (List.mem_cons_of_mem _ hmem)
    obtain ⟨_, ⟨hindex, hrest, hsteps⟩ | ⟨length, found, hindexed, hlength, hfound, _, hrest,
      hsteps⟩⟩ := walk_cons hwalk
    · rw [arraysWithin_property hindex] at h ⊢
      rw [hsteps]
      change (((node.modifyChild (.property element.name) (store value _))).slotAt
        (.property element.name)).ArraysWithin tags limit rest
      rw [slotAt_of_child? (child?_modifyChild _ _ _)]
      exact ih h hrest hlater
    · rw [arraysWithin_item hindexed] at h ⊢
      obtain ⟨hshort, hitems⟩ := h
      have hkept : ∀ item ∈ node.itemsAt element.name, item.ArraysWithin tags limit rest :=
        fun item hmem => (hitems item hmem).mono hle
      let below := (walk placement rest
        ((node.slotAt (.property element.name)).slotAt (.item found))).location
      have hafter : (node.store value
          (walk placement (element :: rest) node).location).itemsAt element.name =
            modifyItem (node.itemsAt element.name) found (store value below) := by
        rw [hsteps, itemsAt]
        change (((node.modifyChild (.property element.name)
          (store value (.item found :: below))).slotAt (.property element.name)).asItems?.getD
            []) = _
        rw [slotAt_of_child? (child?_modifyChild _ _ _)]
        rfl
      rw [hafter]
      constructor
      · -- an element with a tag reaches its position and no further
        intro tag hmem htag
        have hbound := hshort tag hmem htag
        have hreached : found < limit := by
          rw [hfound]
          exact hstays element List.mem_cons_self tag hmem htag length (by rwa [hlength])
        rw [length_modifyItem]
        exact Nat.max_le.mpr ⟨Nat.le_trans hbound hle, hreached⟩
      · intro item hmem
        obtain ⟨index, hindex⟩ := List.mem_iff_getElem?.mp hmem
        rw [getElem?_modifyItem] at hindex
        split at hindex
        · rw [← Option.some.inj hindex]
          have hslot : (node.itemsAt element.name)[found]?.getD .placeholder =
              (node.slotAt (.property element.name)).slotAt (.item found) := by
            rw [slotAt, child?_item]
            rfl
          rw [hslot]
          exact ih (arraysWithin_slotAt_item hitems found) hrest hlater
        · split at hindex
          · exact hkept item (List.mem_of_getElem? hindex)
          · split at hindex
            · rw [← Option.some.inj hindex]
              exact arraysWithin_scalar .null rest
            · cases hindex

/-- A write keeps a bound on the arrays along its tags that its position stays below. -/
theorem ArraysWithin.store_walk {elements : List PathElement} {node : Node}
    (h : node.ArraysWithin tags bound elements)
    (hwalk : (walk placement elements node).conflict = none)
    (hfixes : placement.Fixes tags position elements) (hlt : position < bound) (value : Scalar) :
    (node.store value (walk placement elements node).location).ArraysWithin tags bound
      elements := by
  refine h.store_walk_below hwalk (fun element hmem tag htag heq length _ => ?_) (Nat.le_refl _)
    value
  rw [hfixes element hmem tag htag heq length]
  exact hlt

/-- A walk goes to the positions that its elements have in the arrays it meets. -/
theorem ArraysWithin.resolve_of_mem_steps {elements : List PathElement} {node : Node}
    {element : PathElement} {length : Nat} (h : node.ArraysWithin tags bound elements)
    (hmem : .item element position length ∈ (walk placement elements node).steps) :
    element ∈ elements ∧ element.index.isIndexed = true ∧
      position = placement.resolve element.index length ∧
      ∀ tag ∈ tags, element.tag? = some tag → length ≤ bound := by
  induction elements generalizing node with
  | nil => cases hmem
  | cons first rest ih =>
    have hlater : element ∈ rest → element ∈ first :: rest := List.mem_cons_of_mem _
    cases hproperties : node.asProperties? with
    | none => simp [walk, hproperties] at hmem
    | some properties =>
      have haccepts : node.Accepts (.property first.name) := by simp [Accepts, hproperties]
      by_cases hindexed : first.index.isIndexed = true
      · rw [arraysWithin_item hindexed] at h
        cases hitems : (node.slotAt (.property first.name)).asItems? with
        | none =>
          rw [slotAt_property hproperties] at hitems
          simp [walk, hproperties, hindexed, hitems] at hmem
        | some items =>
          have hfound : node.itemsAt first.name = items := by rw [itemsAt, hitems, Option.getD_some]
          rw [walk_item haccepts hindexed hitems rfl, Walk.cons, List.mem_cons] at hmem
          rcases hmem with heq | hmem
          · cases heq
            rw [hfound] at h
            exact ⟨List.mem_cons_self, hindexed, rfl, h.1⟩
          · exact (ih (arraysWithin_slotAt_item h.2 _) hmem).imp_left hlater
      · have hnone := Bool.eq_false_iff.mpr hindexed
        rw [ArraysWithin, hnone] at h
        rw [walk_property haccepts hnone, Walk.cons, List.mem_cons] at hmem
        rcases hmem with heq | hmem
        · cases heq
        · exact (ih h hmem).imp_left hlater

/-- A write that reports further items has met an array along its tags that reaches beyond its
position. -/
theorem ArraysWithin.lt_of_leavesMore {elements : List PathElement} {node : Node}
    (h : node.ArraysWithin tags bound elements)
    (hwalk : (walk placement elements node).conflict = none)
    (hfixes : placement.Fixes tags position elements)
    (hmore : (walk placement elements node).steps.any (·.leavesMore tags) = true) :
    position + 1 < bound := by
  induction elements generalizing node with
  | nil => cases hmore
  | cons element rest ih =>
    have hlater : placement.Fixes tags position rest :=
      fun later hmem => hfixes later (List.mem_cons_of_mem _ hmem)
    obtain ⟨_, ⟨hindex, hrest, hsteps⟩ | ⟨length, found, hindexed, hlength, hfound, _, hrest,
      hsteps⟩⟩ := walk_cons hwalk
    · rw [arraysWithin_property hindex] at h
      rw [hsteps] at hmore
      exact ih h hrest hlater hmore
    · rw [arraysWithin_item hindexed] at h
      rw [hsteps, Walk.cons, List.any_cons, Bool.or_eq_true] at hmore
      rcases hmore with hhere | hmore
      · rw [Step.leavesMore] at hhere
        split at hhere
        · rename_i tag htag
          rw [Bool.and_eq_true, List.contains_iff_mem, decide_eq_true_eq] at hhere
          obtain ⟨hmem, hbeyond⟩ := hhere
          have hreached : found = position := by
            rw [hfound]
            exact hfixes element List.mem_cons_self tag hmem htag length
          have hle : length ≤ bound := by
            rw [hlength]
            exact h.1 tag hmem htag
          omega
        · cases hhere
      · exact ih (arraysWithin_slotAt_item h.2 found) hrest hlater hmore

end Node

end DocumentMapping
