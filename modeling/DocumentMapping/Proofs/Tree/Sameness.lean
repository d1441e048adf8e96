import Mathlib.Data.List.Perm.Subperm
import DocumentMapping.Node
import DocumentMapping.Proofs.Number.Numeral

/-!
# When two trees are the same

Scalars are the same when they have one kind and mean the same. Arrays are the same item by item, and
objects property by property, in any order. So sameness is an equivalence, as long as no object has
a name twice.
-/

namespace DocumentMapping

/-! ## Scalars -/

/-- A number with the two zeros of a double taken together. -/
def JsonNumber.unsignedZero : JsonNumber → JsonNumber
  | .double x => .double (if x.isZero then ⟨false, 0, 0⟩ else x)
  | number => number

theorem Double.sameValue_iff {x y : Double} :
    x.sameValue y = true ↔
      (JsonNumber.double x).unsignedZero = (JsonNumber.double y).unsignedZero := by
  simp only [sameValue, Bool.or_eq_true, beq_iff_eq, Bool.and_eq_true, JsonNumber.unsignedZero,
    JsonNumber.double.injEq]
  by_cases hx : x.isZero = true <;> by_cases hy : y.isZero = true
  · simp [hx, hy]
  · have hne : x ≠ y := fun heq => hy (heq ▸ hx)
    have hzero : (⟨false, 0, 0⟩ : Double) ≠ y := fun heq => hy (heq ▸ rfl)
    simp [hx, hy, hne, hzero]
  · have hne : x ≠ y := fun heq => hx (heq ▸ hy)
    have hzero : x ≠ (⟨false, 0, 0⟩ : Double) := fun heq => hx (heq ▸ rfl)
    simp [hx, hy, hne, hzero]
  · simp [hx, hy]

namespace Scalar

theorem sameNumber_iff {x y : JsonNumber} :
    sameNumber x y = true ↔ x.unsignedZero = y.unsignedZero := by
  cases x <;> cases y
  · simp [sameNumber, JsonNumber.unsignedZero]
  · simp [sameNumber, JsonNumber.unsignedZero]
  · simp [sameNumber, JsonNumber.unsignedZero]
  · exact Double.sameValue_iff

/-- What a scalar means: a number its value, whether it is an integer or a decimal, and a moment
its instant. -/
inductive Meaning where
  | nothing
  | truth (value : Bool)
  | number (value : ℚ)
  /-- A number outside the range of integers and decimals. -/
  | wideNumber (value : JsonNumber)
  | date (value : Date)
  | instant (second : Int) (nanosecond : Nat)
  | guid (value : Guid)
  | uri (value : Uri)
  | text (value : String)

/-- The meaning of a scalar. -/
def meaning : Scalar → Meaning
  | .null => .nothing
  | .boolean value => .truth value
  | .integer value => .number value.toInt
  | .decimal value => .number value.value
  | .number value => .wideNumber value.unsignedZero
  | .date value => .date value
  | .moment value => .instant value.instantSeconds value.time.nanosecond
  | .guid value => .guid value
  | .uri value => .uri value
  | .string value => .text value

/-- Scalars are the same when they have one kind and mean the same. -/
theorem same_iff {x y : Scalar} :
    x.same y = true ↔ x.kind = y.kind ∧ x.meaning = y.meaning := by
  cases x <;> cases y <;>
    simp [same, kind, meaning, sameNumber_iff, Decimal.sameValue_iff, Moment.sameInstant,
      Int64.toInt_inj]

end Scalar

/-! ## Trees -/

namespace OrderedMap

variable {α : Type u}

theorem mem_keys_iff {map : OrderedMap α} {key : String} :
    key ∈ map.keys ↔ ∃ value, map.get? key = some value := by
  rw [← Option.ne_none_iff_exists', ne_eq, get?_eq_none_iff, not_not]

theorem length_keys (map : OrderedMap α) : map.keys.length = map.length :=
  List.length_map _

/-- Two maps agree under every key when they have the same keys and agree under these. -/
theorem rel_get?_iff {r : α → α → Prop} {first second : OrderedMap α} :
    (∀ key, Option.Rel r (first.get? key) (second.get? key)) ↔
      (∀ key, key ∈ first.keys ↔ key ∈ second.keys) ∧
        ∀ key x y, first.get? key = some x → second.get? key = some y → r x y := by
  simp only [mem_keys_iff, ← forall_and]
  refine forall_congr' fun key => ?_
  cases first.get? key <;> cases second.get? key <;> simp

end OrderedMap

namespace Node

/-- No object of a tree has a name twice. -/
inductive NamesDistinct : Node → Prop
  | scalar (value : Scalar) : NamesDistinct (.scalar value)
  | array {items : List Node} (hitems : ∀ item ∈ items, NamesDistinct item) :
      NamesDistinct (.array items)
  | object {properties : OrderedMap Node} (hnames : properties.keys.Nodup)
      (hvalues : ∀ name value, (name, value) ∈ properties → NamesDistinct value) :
      NamesDistinct (.object properties)

/-- Arrays are the same item by item. -/
theorem itemsSame_iff {xs ys : List Node} :
    itemsSame xs ys = true ↔ List.Forall₂ (fun x y => x.same y = true) xs ys := by
  induction xs generalizing ys with
  | nil => cases ys <;> simp [itemsSame]
  | cons x xs ih => cases ys <;> simp [itemsSame, ih]

/-- Every property is found with the same node in another object. -/
theorem propertiesSame_iff {xs : List (String × Node)} {ys : OrderedMap Node} :
    propertiesSame xs ys = true ↔
      ∀ name x, (name, x) ∈ xs → ∃ y, ys.get? name = some y ∧ x.same y = true := by
  induction xs with
  | nil => simp [propertiesSame]
  | cons entry rest ih =>
    obtain ⟨name, x⟩ := entry
    rw [propertiesSame, Bool.and_eq_true, ih]
    constructor
    · rintro ⟨hfirst, hrest⟩ other y hmem
      obtain heq | hmem := List.mem_cons.mp hmem
      · cases heq
        split at hfirst
        · exact ⟨_, ‹_›, hfirst⟩
        · cases hfirst
      · exact hrest other y hmem
    · intro h
      refine ⟨?_, fun other y hmem => h other y (List.mem_cons_of_mem _ hmem)⟩
      obtain ⟨y, hget, hsame⟩ := h name x List.mem_cons_self
      simpa only [hget] using hsame

section

variable {xs ys : OrderedMap Node}

/-- As many names of one object as of another one, all found there, are the names of the other. -/
theorem perm_keys_of_propertiesSame (hx : xs.keys.Nodup) (hlength : xs.length = ys.length)
    (h : propertiesSame xs ys = true) : xs.keys.Perm ys.keys := by
  have hsubset : xs.keys ⊆ ys.keys := by
    intro name hname
    obtain ⟨x, hvalue⟩ := OrderedMap.mem_keys_iff.mp hname
    have hmem := (OrderedMap.get?_eq_some_iff hx).mp hvalue
    obtain ⟨y, hget, -⟩ := propertiesSame_iff.mp h name x hmem
    exact OrderedMap.mem_keys_iff.mpr ⟨y, hget⟩
  refine (List.subperm_of_subset hx hsubset).perm_of_length_le ?_
  rw [OrderedMap.length_keys, OrderedMap.length_keys, hlength]

/-- Objects are the same when they have the same names and the same node under each of them. -/
theorem same_object_iff (hx : xs.keys.Nodup) (hy : ys.keys.Nodup) :
    (Node.object xs).same (.object ys) = true ↔
      ∀ name, Option.Rel (fun x y => x.same y = true) (xs.get? name) (ys.get? name) := by
  rw [same, Bool.and_eq_true, beq_iff_eq]
  constructor
  · rintro ⟨hlength, hproperties⟩ name
    cases hvalue : xs.get? name with
    | some x =>
      have hmem := (OrderedMap.get?_eq_some_iff hx).mp hvalue
      obtain ⟨y, hget, hsame⟩ := propertiesSame_iff.mp hproperties name x hmem
      rw [hget]
      exact .some hsame
    | none =>
      have hperm := perm_keys_of_propertiesSame hx hlength hproperties
      have hnone : ys.get? name = none := by
        rw [OrderedMap.get?_eq_none_iff, ← hperm.mem_iff]
        exact OrderedMap.get?_eq_none_iff.mp hvalue
      rw [hnone]
      exact .none
  · intro h
    obtain ⟨hnames, hvalues⟩ := OrderedMap.rel_get?_iff.mp h
    have hperm : xs.keys.Perm ys.keys := (List.perm_ext_iff_of_nodup hx hy).mpr hnames
    refine ⟨?_, propertiesSame_iff.mpr fun name x hmem => ?_⟩
    · rw [← OrderedMap.length_keys, ← OrderedMap.length_keys, hperm.length_eq]
    · have hget := (OrderedMap.get?_eq_some_iff hx).mpr hmem
      obtain ⟨y, hother⟩ :=
        OrderedMap.mem_keys_iff.mp ((hnames name).mp (OrderedMap.mem_keys_iff.mpr ⟨x, hget⟩))
      exact ⟨y, hother, hvalues name x y hget hother⟩

end

/-! ## Sameness is an equivalence -/

theorem same_array_iff {xs ys : List Node} :
    (Node.array xs).same (.array ys) = true ↔ List.Forall₂ (fun x y => x.same y = true) xs ys := by
  rw [same, itemsSame_iff]

/-- Only arrays are the same as an array. -/
theorem exists_of_same_array {xs : List Node} {y : Node} (h : (Node.array xs).same y = true) :
    ∃ ys, y = .array ys := by
  cases y with
  | array ys => exact ⟨ys, rfl⟩
  | _ => simp [same] at h

/-- Only objects are the same as an object. -/
theorem exists_of_same_object {xs : OrderedMap Node} {y : Node}
    (h : (Node.object xs).same y = true) : ∃ ys, y = .object ys := by
  cases y with
  | object ys => exact ⟨ys, rfl⟩
  | _ => simp [same] at h

theorem exists_of_same_scalar {a : Scalar} {y : Node} (h : (Node.scalar a).same y = true) :
    ∃ b, y = .scalar b ∧ a.same b = true := by
  cases y with
  | scalar b => exact ⟨b, rfl, by simpa [same] using h⟩
  | _ => simp [same] at h

/-- What is found under a name can be compared the other way round. -/
theorem rel_swap {α β : Type} {r : α → β → Prop} {s : β → α → Prop} {left : Option α}
    {right : Option β} (h : Option.Rel r left right)
    (hswap : ∀ a ∈ left, ∀ b ∈ right, r a b → s b a) : Option.Rel s right left := by
  cases h with
  | some hab => exact .some (hswap _ rfl _ rfl hab)
  | none => exact .none

theorem rel_comp {α β γ : Type} {r : α → β → Prop} {s : β → γ → Prop} {t : α → γ → Prop}
    {left : Option α} {middle : Option β} {right : Option γ} (h : Option.Rel r left middle)
    (hnext : Option.Rel s middle right)
    (hcomp : ∀ a ∈ left, ∀ b ∈ middle, ∀ c ∈ right, r a b → s b c → t a c) :
    Option.Rel t left right := by
  cases h with
  | some hab =>
    cases hnext with
    | some hbc => exact .some (hcomp _ rfl _ rfl _ rfl hab hbc)
  | none =>
    cases hnext with
    | none => exact .none

variable {x y z : Node}

theorem same_refl (hx : x.NamesDistinct) : x.same x = true := by
  induction hx with
  | scalar a =>
    rw [same]
    exact Scalar.same_iff.mpr ⟨rfl, rfl⟩
  | array hitems ih => exact same_array_iff.mpr (List.forall₂_same.mpr ih)
  | @object properties hnames hvalues ih =>
    refine (same_object_iff hnames hnames).mpr fun name => ?_
    cases hget : properties.get? name with
    | none => exact .none
    | some value => exact .some (ih name value ((OrderedMap.get?_eq_some_iff hnames).mp hget))

theorem same_symm (hx : x.NamesDistinct) (hy : y.NamesDistinct) (h : x.same y = true) :
    y.same x = true := by
  induction hx generalizing y with
  | scalar a =>
    obtain ⟨b, rfl, hsame⟩ := exists_of_same_scalar h
    obtain ⟨hkind, hmeaning⟩ := Scalar.same_iff.mp hsame
    rw [same]
    exact Scalar.same_iff.mpr ⟨hkind.symm, hmeaning.symm⟩
  | array hitems ih =>
    obtain ⟨ys, rfl⟩ := exists_of_same_array h
    cases hy with | array hothers =>
    have hpairs := List.forall₂_iff_get.mp (same_array_iff.mp h)
    refine same_array_iff.mpr (List.forall₂_iff_get.mpr ⟨hpairs.1.symm, fun i hi hj => ?_⟩)
    exact ih _ (List.get_mem _ _) (hothers _ (List.get_mem _ _)) (hpairs.2 i hj hi)
  | object hnames hvalues ih =>
    obtain ⟨ys, rfl⟩ := exists_of_same_object h
    cases hy with | object hothers hchildren =>
    refine (same_object_iff hothers hnames).mpr fun name => ?_
    refine rel_swap ((same_object_iff hnames hothers).mp h name) fun a ha b hb hsame => ?_
    exact ih name a ((OrderedMap.get?_eq_some_iff hnames).mp ha)
      (hchildren name b ((OrderedMap.get?_eq_some_iff hothers).mp hb)) hsame

theorem same_trans (hx : x.NamesDistinct) (hy : y.NamesDistinct) (hz : z.NamesDistinct)
    (hxy : x.same y = true) (hyz : y.same z = true) : x.same z = true := by
  induction hx generalizing y z with
  | scalar a =>
    obtain ⟨b, rfl, hab⟩ := exists_of_same_scalar hxy
    obtain ⟨c, rfl, hbc⟩ := exists_of_same_scalar hyz
    obtain ⟨hkind, hmeaning⟩ := Scalar.same_iff.mp hab
    obtain ⟨hkind', hmeaning'⟩ := Scalar.same_iff.mp hbc
    rw [same]
    exact Scalar.same_iff.mpr ⟨hkind.trans hkind', hmeaning.trans hmeaning'⟩
  | array hitems ih =>
    obtain ⟨ys, rfl⟩ := exists_of_same_array hxy
    obtain ⟨zs, rfl⟩ := exists_of_same_array hyz
    cases hy with | array hmiddle =>
    cases hz with | array hothers =>
    have hfirst := List.forall₂_iff_get.mp (same_array_iff.mp hxy)
    have hsecond := List.forall₂_iff_get.mp (same_array_iff.mp hyz)
    refine same_array_iff.mpr
      (List.forall₂_iff_get.mpr ⟨hfirst.1.trans hsecond.1, fun i hi hk => ?_⟩)
    have hj := hfirst.1 ▸ hi
    exact ih _ (List.get_mem _ _) (hmiddle _ (List.get_mem _ _)) (hothers _ (List.get_mem _ _))
      (hfirst.2 i hi hj) (hsecond.2 i hj hk)
  | object hnames hvalues ih =>
    obtain ⟨ys, rfl⟩ := exists_of_same_object hxy
    obtain ⟨zs, rfl⟩ := exists_of_same_object hyz
    cases hy with | object hmiddle hmiddles =>
    cases hz with | object hothers hchildren =>
    refine (same_object_iff hnames hothers).mpr fun name => ?_
    refine rel_comp ((same_object_iff hnames hmiddle).mp hxy name)
      ((same_object_iff hmiddle hothers).mp hyz name) fun a ha b hb c hc hab hbc => ?_
    exact ih name a ((OrderedMap.get?_eq_some_iff hnames).mp ha)
      (hmiddles name b ((OrderedMap.get?_eq_some_iff hmiddle).mp hb))
      (hchildren name c ((OrderedMap.get?_eq_some_iff hothers).mp hc)) hab hbc

end Node

end DocumentMapping
