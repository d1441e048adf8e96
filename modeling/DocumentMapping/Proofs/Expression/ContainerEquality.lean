import DocumentMapping.Proofs.Expression.Comparison

/-!
# Equality of containers

Containers are equal when they have the same positions or names and equal nodes there, with one
difference: an integer and a decimal that are equal on their own make the containers around them
unequal.
-/

namespace DocumentMapping

open Expression

/-- One of two nodes is an integer and the other one a decimal. -/
inductive Node.MixedNumbers : Node → Node → Prop
  | integerFirst (a : Int64) (b : Decimal) :
      MixedNumbers (.scalar (.integer a)) (.scalar (.decimal b))
  | decimalFirst (a : Decimal) (b : Int64) :
      MixedNumbers (.scalar (.decimal a)) (.scalar (.integer b))

namespace Scalar

variable {a b : Scalar}

theorem orderKind?_of_mixedNumbers (h : (Node.scalar a).MixedNumbers (.scalar b)) :
    a.orderKind? = some .number ∧ b.orderKind? = some .number := by
  cases h <;> exact ⟨rfl, rfl⟩

/-- Numbers have one kind unless they are mixed. -/
theorem kind_toScalar_eq_iff (x y : Numeric) :
    x.toScalar.kind = y.toScalar.kind ↔
      ¬(Node.scalar x.toScalar).MixedNumbers (.scalar y.toScalar) := by
  have hkinds : "integer" ≠ "decimal" := by decide
  cases x with
  | integer a =>
    cases y with
    | integer b => exact iff_of_true rfl nofun
    | decimal b => exact iff_of_false hkinds (not_not_intro (.integerFirst a b))
  | decimal a =>
    cases y with
    | integer b => exact iff_of_false hkinds.symm (not_not_intro (.decimalFirst a b))
    | decimal b => exact iff_of_true rfl nofun

/-- Scalars that mean the same have one kind unless they are an integer and a decimal. -/
theorem kind_eq_iff (h : a.meaning = b.meaning) :
    a.kind = b.kind ↔ ¬(Node.scalar a).MixedNumbers (.scalar b) := by
  by_cases ha : a.orderKind? = some .number
  · by_cases hb : b.orderKind? = some .number
    · obtain ⟨x, rfl⟩ := exists_of_orderKind? ha
      obtain ⟨y, rfl⟩ := exists_of_orderKind? hb
      exact kind_toScalar_eq_iff x y
    · exact iff_of_true (kind_eq_of_meaning_eq hb h.symm).symm fun hmixed =>
        hb (orderKind?_of_mixedNumbers hmixed).2
  · exact iff_of_true (kind_eq_of_meaning_eq ha h) fun hmixed =>
      ha (orderKind?_of_mixedNumbers hmixed).1

end Scalar

namespace Node

/-- Nodes are the same when they are equal and not an integer and a decimal. -/
theorem same_iff {x y : Node} : x.same y = true ↔ x.equal y = true ∧ ¬x.MixedNumbers y := by
  cases x with
  | scalar a =>
    cases y with
    | scalar b =>
      rw [same, equal, Scalar.equal_iff, Scalar.same_iff, and_comm]
      exact and_congr_right Scalar.kind_eq_iff
    | _ => exact (and_iff_left (by rintro ⟨⟩)).symm
  | _ => exact (and_iff_left (by rintro ⟨⟩)).symm

end Node

/-- Containers are equal when their parts are, but for mixed numbers. Arrays are equal when they have
the same length and equal items at all positions, of which none are an integer and a decimal. Objects
are equal when they have the same names and equal nodes under all of them, with the same
exception. -/
theorem containers_equal_by_unmixed_parts {xs ys : List Node} {left right : OrderedMap Node}
    (hleft : left.keys.Nodup) (hright : right.keys.Nodup) :
    (Gives .equal (.array xs) (.array ys) true ↔
      xs.length = ys.length ∧ ∀ (i : ℕ) x y, xs[i]? = some x → ys[i]? = some y →
        Gives .equal x y true ∧ ¬x.MixedNumbers y) ∧
    (Gives .equal (.object left) (.object right) true ↔
      (∀ name, name ∈ left.keys ↔ name ∈ right.keys) ∧
        ∀ name x y, left.get? name = some x → right.get? name = some y →
          Gives .equal x y true ∧ ¬x.MixedNumbers y) := by
  simp only [gives_equal_iff, ← Node.same_iff]
  constructor
  · show (Node.array xs).same (.array ys) = true ↔ _
    rw [Node.same_array_iff, List.forall₂_iff_get]
    refine and_congr_right fun hlength => ⟨fun h i x y hx hy => ?_, fun h i hx hy => ?_⟩
    · obtain ⟨hi, rfl⟩ := List.getElem?_eq_some_iff.mp hx
      obtain ⟨hj, rfl⟩ := List.getElem?_eq_some_iff.mp hy
      exact h i hi hj
    · exact h i _ _ (List.getElem?_eq_getElem hx) (List.getElem?_eq_getElem hy)
  · show (Node.object left).same (.object right) = true ↔ _
    rw [Node.same_object_iff hleft hright, OrderedMap.rel_get?_iff]

/-- Two objects with the same names in another order, and an array in both of them. -/
theorem containers_equal_by_unmixed_parts_of_reordered_names :
    let items : List Node := [.scalar (.integer 2), .placeholder]
    let left : OrderedMap Node := [("a", .scalar (.string "x")), ("b", .array items)]
    let right : OrderedMap Node := [("b", .array items), ("a", .scalar (.string "x"))]
    left.keys.Nodup ∧ right.keys.Nodup ∧
      Gives .equal (.object left) (.object right) true ∧
      (∀ name, name ∈ left.keys ↔ name ∈ right.keys) ∧
      (∀ name x y, left.get? name = some x → right.get? name = some y →
        Gives .equal x y true ∧ ¬x.MixedNumbers y) ∧
      ∀ (i : ℕ) x y, items[i]? = some x → items[i]? = some y →
        Gives .equal x y true ∧ ¬x.MixedNumbers y := by
  intro items left right
  have hleft : left.keys.Nodup := by decide
  have hright : right.keys.Nodup := by decide
  obtain ⟨harrays, hobjects⟩ := @containers_equal_by_unmixed_parts items items left right hleft hright
  have hequal : Gives .equal (.object left) (.object right) true := gives_equal_iff.mpr (by decide)
  have hitems : Gives .equal (.array items) (.array items) true := gives_equal_iff.mpr (by decide)
  obtain ⟨hnames, hvalues⟩ := hobjects.mp hequal
  exact ⟨hleft, hright, hequal, hnames, hvalues, (harrays.mp hitems).2⟩

/-- An array of an integer and one of a decimal are not equal although their items are. -/
theorem equal_items_in_unequal_arrays :
    let one : Node := .scalar (.integer 1)
    let oneWithPlace : Node := .scalar (.decimal ⟨false, 10, 1, by decide, by decide⟩)
    ¬(Gives .equal (.array [one]) (.array [oneWithPlace]) true ↔
      [one].length = [oneWithPlace].length ∧
        ∀ (i : ℕ) x y, [one][i]? = some x → [oneWithPlace][i]? = some y →
          Gives .equal x y true) := by
  intro one oneWithPlace hparts
  have hitems : Gives .equal one oneWithPlace true := gives_equal_iff.mpr (by decide)
  have harrays := gives_equal_iff.mp (hparts.mpr ⟨rfl, fun i x y hx hy => ?_⟩)
  · exact absurd harrays (by decide)
  · obtain rfl := List.mem_singleton.mp (List.mem_of_getElem? hx)
    obtain rfl := List.mem_singleton.mp (List.mem_of_getElem? hy)
    exact hitems

end DocumentMapping
