import DocumentMapping.Proofs.Tree.Storing

/-!
# Stores one after the other

A list of stores at locations of one shape never leaves the way to another of them blocked. After
it every location holds the last value that was stored there, every other scalar was there before or
is padding, and storing the whole list again changes nothing.
-/

namespace DocumentMapping

/-- A scalar and the location where it is stored. -/
structure Deposit where
  location : Location
  value : Scalar
deriving DecidableEq, Repr

/-- The last value that is stored at a location. -/
def Deposit.last? (deposits : List Deposit) (location : Location) : Option Scalar :=
  (deposits.filter (·.location = location)).getLast?.map (·.value)

theorem Deposit.last?_append (deposits : List Deposit) (deposit : Deposit) (location : Location) :
    last? (deposits ++ [deposit]) location =
      if deposit.location = location then some deposit.value else last? deposits location := by
  unfold last?
  rw [List.filter_append]
  by_cases h : deposit.location = location <;> simp [h]

/-- A location where something is stored has a last value. -/
theorem Deposit.exists_last? {deposits : List Deposit} {deposit : Deposit}
    (hmem : deposit ∈ deposits) : ∃ value, last? deposits deposit.location = some value := by
  have hsome : deposit ∈ deposits.filter (·.location = deposit.location) :=
    List.mem_filter.mpr ⟨hmem, decide_eq_true rfl⟩
  rw [last?, List.getLast?_eq_some_getLast (List.ne_nil_of_mem hsome)]
  exact ⟨_, rfl⟩

namespace Node

/-- Stores scalars one after the other. -/
def storeAll (deposits : List Deposit) (node : Node) : Node :=
  deposits.foldl (fun node deposit => node.store deposit.value deposit.location) node

@[simp] theorem storeAll_nil (node : Node) : node.storeAll [] = node := rfl

@[simp] theorem storeAll_cons (deposit : Deposit) (deposits : List Deposit) (node : Node) :
    node.storeAll (deposit :: deposits) =
      (node.store deposit.value deposit.location).storeAll deposits := rfl

theorem storeAll_append (first second : List Deposit) (node : Node) :
    node.storeAll (first ++ second) = (node.storeAll first).storeAll second := by
  unfold storeAll
  rw [List.foldl_append]

/-- Whether the way to every location of a shape is free. -/
def AdmitsShape (node : Node) (shape : Location) : Prop :=
  ∀ location : Location, location.SameShape shape → node.Admits location

variable {shape : Location}

theorem AdmitsShape.store {node : Node} (h : node.AdmitsShape shape) (value : Scalar)
    {location : Location} (hshape : location.SameShape shape) :
    (node.store value location).AdmitsShape shape := by
  intro other hother
  exact admits_store value (hshape.trans hother.symm) (h location hshape) (h other hother)

theorem AdmitsShape.storeAll {node : Node} (h : node.AdmitsShape shape) {deposits : List Deposit}
    (hshape : ∀ deposit ∈ deposits, deposit.location.SameShape shape) :
    (node.storeAll deposits).AdmitsShape shape := by
  induction deposits generalizing node with
  | nil => exact h
  | cons deposit rest ih =>
    rw [List.forall_mem_cons] at hshape
    exact ih (h.store deposit.value hshape.1) hshape.2

/-- What stands at a location of the shape stands there after a store elsewhere. -/
theorem at?_store_of_ne {node found : Node} (h : node.AdmitsShape shape) (value : Scalar)
    {location other : Location} (hlocation : location.SameShape shape)
    (hother : other.SameShape shape) (hne : location ≠ other)
    (hfound : node.at? other = some found) :
    (node.store value location).at? other = some found := by
  have hdiverges := (hlocation.trans hother.symm).diverges hne
  rcases at?_store_of_diverges value (h location hlocation) hdiverges with hsame | ⟨hnone, _, _⟩
  · rw [hsame, hfound]
  · rw [hnone] at hfound
    cases hfound

/-- After some stores a location holds the last value stored there. -/
theorem at?_storeAll {node : Node} (h : node.AdmitsShape shape) {deposits : List Deposit}
    (hshape : ∀ deposit ∈ deposits, deposit.location.SameShape shape) {location : Location}
    (hlocation : location.SameShape shape) {value : Scalar}
    (hlast : Deposit.last? deposits location = some value) :
    (node.storeAll deposits).at? location = some (.scalar value) := by
  induction deposits using List.reverseRecOn generalizing value with
  | nil => cases hlast
  | append_singleton deposits deposit ih =>
    have hbefore : ∀ earlier ∈ deposits, earlier.location.SameShape shape :=
      fun earlier hmem => hshape earlier (List.mem_append_left _ hmem)
    have hdeposit := hshape deposit (by simp)
    rw [Deposit.last?_append] at hlast
    rw [storeAll_append, storeAll_cons, storeAll_nil]
    split at hlast
    · rename_i heq
      rw [heq, at?_store, Option.some.inj hlast]
    · rename_i hne
      exact at?_store_of_ne (h.storeAll hbefore) _ hdeposit hlocation hne (ih hbefore hlast)

/-- A scalar of the tree after some stores was stored, is padding, or stood there before. -/
theorem scalar_of_at?_storeAll {node : Node} (h : node.AdmitsShape shape) {deposits : List Deposit}
    (hshape : ∀ deposit ∈ deposits, deposit.location.SameShape shape) {location : Location}
    {value : Scalar} (hvalue : (node.storeAll deposits).at? location = some (.scalar value)) :
    (∃ deposit ∈ deposits, deposit.location = location) ∨
      (value = .null ∧ ∃ deposit ∈ deposits, location.Pads deposit.location) ∨
      node.at? location = some (.scalar value) := by
  induction deposits using List.reverseRecOn generalizing value with
  | nil => exact .inr (.inr hvalue)
  | append_singleton deposits deposit ih =>
    have hbefore : ∀ earlier ∈ deposits, earlier.location.SameShape shape :=
      fun earlier hmem => hshape earlier (List.mem_append_left _ hmem)
    have hdeposit := hshape deposit (by simp)
    have hadmits := h.storeAll hbefore deposit.location hdeposit
    rw [storeAll_append, storeAll_cons, storeAll_nil] at hvalue
    rcases deposit.location.diverges_or_below location with
      hdiverges | heq | ⟨place, rest, rfl⟩ | ⟨place, rest, heq⟩
    · rcases at?_store_of_diverges deposit.value hadmits hdiverges with
        hsame | ⟨_, hsome, hpads⟩
      · rw [hsame] at hvalue
        rcases ih hbefore hvalue with ⟨found, hmem, hfound⟩ | ⟨hnull, found, hmem, hpads⟩ | hold
        · exact .inl ⟨found, List.mem_append_left _ hmem, hfound⟩
        · exact .inr (.inl ⟨hnull, found, List.mem_append_left _ hmem, hpads⟩)
        · exact .inr (.inr hold)
      · rw [hsome] at hvalue
        cases hvalue
        exact .inr (.inl ⟨rfl, deposit, by simp, hpads⟩)
    · exact .inl ⟨deposit, by simp, heq⟩
    · rw [at?_store_below _ _ _ _ (List.cons_ne_nil _ _)] at hvalue
      cases hvalue
    · -- on the way to the store stands a container
      rw [heq, at?_store_append, store_cons] at hvalue
      cases place <;> cases hvalue

/-! ## Storing again -/

/-- A store between others at existing locations does not matter when it is repeated at the end. -/
theorem store_storeAll_store {node : Node} (h : node.AdmitsShape shape) {deposits : List Deposit}
    (hshape : ∀ deposit ∈ deposits, deposit.location.SameShape shape)
    (hexists : ∀ deposit ∈ deposits, (node.at? deposit.location).isSome) (value : Scalar)
    {location : Location} (hlocation : location.SameShape shape) :
    ((node.store value location).storeAll deposits).store value location =
      (node.storeAll deposits).store value location := by
  induction deposits generalizing node with
  | nil => exact store_store node value value location
  | cons deposit rest ih =>
    rw [List.forall_mem_cons] at hshape hexists
    rw [storeAll_cons, storeAll_cons]
    by_cases heq : deposit.location = location
    · rw [heq, store_store]
    · rw [store_comm deposit.value value hexists.1 (hshape.1.trans hlocation.symm) heq]
      apply ih (h.store deposit.value hshape.1) hshape.2
      intro later hmem
      obtain ⟨found, hfound⟩ := Option.isSome_iff_exists.mp (hexists.2 later hmem)
      by_cases hsame : deposit.location = later.location
      · rw [hsame, at?_store]
        rfl
      · rw [at?_store_of_ne h deposit.value hshape.1 (hshape.2 later hmem) hsame hfound]
        rfl

/-- Storing the same scalars at the same locations again changes nothing. -/
theorem storeAll_storeAll {node : Node} (h : node.AdmitsShape shape) {deposits : List Deposit}
    (hshape : ∀ deposit ∈ deposits, deposit.location.SameShape shape) :
    (node.storeAll deposits).storeAll deposits = node.storeAll deposits := by
  induction deposits using List.reverseRecOn with
  | nil => rfl
  | append_singleton deposits deposit ih =>
    have hbefore : ∀ earlier ∈ deposits, earlier.location.SameShape shape :=
      fun earlier hmem => hshape earlier (List.mem_append_left _ hmem)
    have hdeposit := hshape deposit (by simp)
    have hexists : ∀ earlier ∈ deposits,
        ((node.storeAll deposits).at? earlier.location).isSome := by
      intro earlier hmem
      obtain ⟨value, hlast⟩ := Deposit.exists_last? hmem
      rw [at?_storeAll h hbefore (hbefore earlier hmem) hlast]
      rfl
    calc (node.storeAll (deposits ++ [deposit])).storeAll (deposits ++ [deposit])
      _ = (((node.storeAll deposits).store deposit.value deposit.location).storeAll
            deposits).store deposit.value deposit.location := by
        simp only [storeAll_append, storeAll_cons, storeAll_nil]
      _ = ((node.storeAll deposits).storeAll deposits).store deposit.value deposit.location :=
        store_storeAll_store (h.storeAll hbefore) hbefore hexists _ hdeposit
      _ = (node.storeAll deposits).store deposit.value deposit.location := by
        rw [ih hbefore]
      _ = node.storeAll (deposits ++ [deposit]) := by
        rw [storeAll_append, storeAll_cons, storeAll_nil]

end Node

end DocumentMapping
