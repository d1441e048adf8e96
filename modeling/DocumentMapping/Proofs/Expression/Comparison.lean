import DocumentMapping.Proofs.Expression.ScalarOrder

/-!
# Comparisons

The comparison operators read the order of scalars of one kind, and equality agrees with it. No other
nodes are in an order, and equality is an equivalence of all nodes.
-/

namespace DocumentMapping

open Expression

/-! ## Evaluation of comparisons -/

namespace Expression

/-- What an operator gives for two nodes, whatever expressions they are the results of. -/
def Gives (op : BinaryOperator) (x y : Node) (answer : Bool) : Prop :=
  ∀ {left right : Expression} {inputs : Inputs} {cache middle last : Cache},
    left.evaluate inputs cache = (.ok x, middle) → right.evaluate inputs middle = (.ok y, last) →
      (Expression.binary op left right).evaluate inputs cache = (.ok (ofBool answer), last)

/-- The operators that ask for an order. -/
def orderOperators : List BinaryOperator :=
  [.lessThan, .lessThanOrEqual, .greaterThan, .greaterThanOrEqual]

theorem ofBool_inj {a b : Bool} : ofBool a = ofBool b ↔ a = b := by
  simp [ofBool]

section

variable {op : BinaryOperator} {x y : Node} {answer : Bool}

/-- An operator that is not lazy is applied to the nodes on both sides. -/
theorem evaluate_binary {left right : Expression} {inputs : Inputs} {cache middle last : Cache}
    (h : op.isLazy = false) (hleft : left.evaluate inputs cache = (.ok x, middle))
    (hright : right.evaluate inputs middle = (.ok y, last)) :
    (Expression.binary op left right).evaluate inputs cache = (applyBinary op x y, last) := by
  have hleft : eval inputs left cache = (.ok x, middle) := hleft
  have hright : eval inputs right middle = (.ok y, last) := hright
  show eval inputs (.binary op left right) cache = _
  rw [eval_binary h, bind_of_eq_ok hleft, bind_of_eq_ok hright]
  rfl

theorem gives_iff (h : op.isLazy = false) :
    Gives op x y answer ↔ applyBinary op x y = .ok (ofBool answer) := by
  constructor
  · intro hgives
    let inputs : Inputs := ⟨x, y, .placeholder⟩
    have hleft : (Expression.input .request).evaluate inputs [] = (.ok x, []) := rfl
    have hright : (Expression.input .item).evaluate inputs [] = (.ok y, []) := rfl
    exact congrArg Prod.fst ((evaluate_binary h hleft hright).symm.trans (hgives hleft hright))
  · intro hresult left right inputs cache middle last hleft hright
    rw [evaluate_binary h hleft hright, hresult]

theorem gives_equal_iff : Gives .equal x y answer ↔ x.equal y = answer := by
  rw [gives_iff rfl, applyBinary, Except.ok.injEq, ofBool_inj]

theorem gives_order_iff (h : op ∈ orderOperators) :
    Gives op x y answer ↔ (x.compare? y).any (satisfies op) = answer := by
  have hresult : applyBinary op x y = .ok (ofBool ((x.compare? y).any (satisfies op))) := by
    simp only [orderOperators, List.mem_cons, List.not_mem_nil, or_false] at h
    rcases h with rfl | rfl | rfl | rfl <;> rfl
  have hstrict : op.isLazy = false := by
    simp only [orderOperators, List.mem_cons, List.not_mem_nil, or_false] at h
    rcases h with rfl | rfl | rfl | rfl <;> rfl
  rw [gives_iff hstrict, hresult, Except.ok.injEq, ofBool_inj]

end

/-- A comparison of two scalars is true. -/
def Holds (op : BinaryOperator) (a b : Scalar) : Prop :=
  Gives op (.scalar a) (.scalar b) true

/-- The comparisons of three scalars agree with each other. -/
structure Consistent (a b c : Scalar) : Prop where
  exactlyOne :
    Holds .lessThan a b ∧ ¬Holds .equal a b ∧ ¬Holds .greaterThan a b ∨
    ¬Holds .lessThan a b ∧ Holds .equal a b ∧ ¬Holds .greaterThan a b ∨
    ¬Holds .lessThan a b ∧ ¬Holds .equal a b ∧ Holds .greaterThan a b
  lessThanOrEqual_iff : Holds .lessThanOrEqual a b ↔ Holds .lessThan a b ∨ Holds .equal a b
  greaterThanOrEqual_iff : Holds .greaterThanOrEqual a b ↔ Holds .lessThanOrEqual b a
  lessThan_trans : Holds .lessThan a b → Holds .lessThan b c → Holds .lessThan a c
  equal_trans : Holds .equal a b → Holds .equal b c → Holds .equal a c
  lessThan_congr_left : Holds .equal a b → (Holds .lessThan a c ↔ Holds .lessThan b c)
  lessThan_congr_right : Holds .equal a b → (Holds .lessThan c a ↔ Holds .lessThan c b)

end Expression

namespace OrderedBy

variable {α β : Type} [LinearOrder α] {scalar : β → Scalar} {key : β → α}
  (h : OrderedBy scalar key)

include h

theorem holds_equal_iff (x y : β) : Holds .equal (scalar x) (scalar y) ↔ key x = key y := by
  rw [Holds, gives_equal_iff, ← h.meaning_iff]
  exact Scalar.equal_iff

/-- An operator that asks for an order holds when the order of the keys satisfies it. -/
theorem holds_order_iff {op : BinaryOperator} (hop : op ∈ orderOperators) (x y : β) :
    Holds op (scalar x) (scalar y) ↔ satisfies op (cmp (key x) (key y)) = true := by
  obtain ⟨order, hcompare, horder⟩ := h.compares x y
  have hkeys : order = cmp (key x) (key y) := horder.inj (cmp_compares _ _)
  rw [Holds, gives_order_iff hop, Node.compare?, hcompare, hkeys]
  rfl

theorem holds_lessThan_iff (x y : β) :
    Holds .lessThan (scalar x) (scalar y) ↔ key x < key y := by
  rw [h.holds_order_iff (by simp [orderOperators]), ← cmp_eq_lt_iff]
  exact beq_iff_eq

theorem holds_greaterThan_iff (x y : β) :
    Holds .greaterThan (scalar x) (scalar y) ↔ key y < key x := by
  rw [h.holds_order_iff (by simp [orderOperators]), ← cmp_eq_gt_iff]
  exact beq_iff_eq

theorem holds_lessThanOrEqual_iff (x y : β) :
    Holds .lessThanOrEqual (scalar x) (scalar y) ↔ key x ≤ key y := by
  rw [h.holds_order_iff (by simp [orderOperators]), ← not_lt, ← cmp_eq_gt_iff]
  exact bne_iff_ne

theorem holds_greaterThanOrEqual_iff (x y : β) :
    Holds .greaterThanOrEqual (scalar x) (scalar y) ↔ key y ≤ key x := by
  rw [h.holds_order_iff (by simp [orderOperators]), ← not_lt, ← cmp_eq_lt_iff]
  exact bne_iff_ne

/-- The comparisons of what is ordered by a key agree with each other as those of the keys do. -/
theorem consistent (x y z : β) : Consistent (scalar x) (scalar y) (scalar z) where
  exactlyOne := by
    simp only [h.holds_lessThan_iff, h.holds_equal_iff, h.holds_greaterThan_iff]
    rcases lt_trichotomy (key x) (key y) with hlt | heq | hgt
    · exact .inl ⟨hlt, hlt.ne, hlt.not_gt⟩
    · exact .inr (.inl ⟨heq.not_lt, heq, heq.not_gt⟩)
    · exact .inr (.inr ⟨hgt.not_gt, hgt.ne', hgt⟩)
  lessThanOrEqual_iff := by
    rw [h.holds_lessThanOrEqual_iff, h.holds_lessThan_iff, h.holds_equal_iff, le_iff_lt_or_eq]
  greaterThanOrEqual_iff := by
    rw [h.holds_greaterThanOrEqual_iff, h.holds_lessThanOrEqual_iff]
  lessThan_trans := by
    simp only [h.holds_lessThan_iff]
    exact lt_trans
  equal_trans := by
    simp only [h.holds_equal_iff]
    exact Eq.trans
  lessThan_congr_left := by
    simp only [h.holds_equal_iff, h.holds_lessThan_iff]
    intro heq
    rw [heq]
  lessThan_congr_right := by
    simp only [h.holds_equal_iff, h.holds_lessThan_iff]
    intro heq
    rw [heq]

end OrderedBy

/-- Scalars of one kind that has an order are compared consistently. -/
theorem Scalar.consistent {a b c : Scalar} {kind : OrderKind} (ha : a.orderKind? = some kind)
    (hb : b.orderKind? = some kind) (hc : c.orderKind? = some kind) : Consistent a b c := by
  have hx := exists_of_orderKind? ha
  have hy := exists_of_orderKind? hb
  have hz := exists_of_orderKind? hc
  cases kind with
  | number =>
    obtain ⟨⟨x, rfl⟩, ⟨y, rfl⟩, ⟨z, rfl⟩⟩ := And.intro hx (And.intro hy hz)
    exact orderedBy_numbers.consistent x y z
  | text =>
    obtain ⟨⟨x, rfl⟩, ⟨y, rfl⟩, ⟨z, rfl⟩⟩ := And.intro hx (And.intro hy hz)
    exact orderedBy_texts.consistent x y z
  | date =>
    obtain ⟨⟨x, rfl⟩, ⟨y, rfl⟩, ⟨z, rfl⟩⟩ := And.intro hx (And.intro hy hz)
    exact orderedBy_dates.consistent x y z
  | moment =>
    obtain ⟨⟨x, rfl⟩, ⟨y, rfl⟩, ⟨z, rfl⟩⟩ := And.intro hx (And.intro hy hz)
    exact orderedBy_moments.consistent x y z
  | truth =>
    obtain ⟨⟨x, rfl⟩, ⟨y, rfl⟩, ⟨z, rfl⟩⟩ := And.intro hx (And.intro hy hz)
    exact orderedBy_truths.consistent x y z

/-! ## Nodes -/

namespace Node

/-- Two nodes are scalars of one kind that has an order. -/
def Comparable (x y : Node) : Prop :=
  ∃ a b kind, x = .scalar a ∧ y = .scalar b ∧ a.orderKind? = some kind ∧ b.orderKind? = some kind

theorem comparable_of_compareScalars? {a b : Scalar} {order : Ordering}
    (h : compareScalars? a b = some order) : (Node.scalar a).Comparable (.scalar b) := by
  suffices hkinds : ∃ kind, a.orderKind? = some kind ∧ b.orderKind? = some kind by
    obtain ⟨kind, ha, hb⟩ := hkinds
    exact ⟨a, b, kind, rfl, rfl, ha, hb⟩
  cases a <;> cases b <;>
    simp [compareScalars?, Numeric.ofScalar?, Scalar.orderKind?] at h ⊢

theorem compare?_eq_none {x y : Node} (h : ¬x.Comparable y) : x.compare? y = none := by
  cases x with
  | scalar a =>
    cases y with
    | scalar b =>
      rw [compare?, Option.eq_none_iff_forall_ne_some]
      exact fun order hcompare => h (comparable_of_compareScalars? hcompare)
    | _ => rfl
  | _ => rfl

/-- Only a scalar is equal to a scalar. -/
theorem exists_of_equal_scalar {a : Scalar} {y : Node} (h : (Node.scalar a).equal y = true) :
    ∃ b, y = .scalar b ∧ a.meaning = b.meaning := by
  cases y with
  | scalar b => exact ⟨b, rfl, Scalar.equal_iff.mp h⟩
  | _ => simp [equal, same] at h

section

variable {x y z : Node}

theorem equal_refl (hx : x.NamesDistinct) : x.equal x = true := by
  cases x with
  | scalar a => exact Scalar.equal_iff.mpr rfl
  | _ => exact same_refl hx

theorem equal_symm (hx : x.NamesDistinct) (hy : y.NamesDistinct) (h : x.equal y = true) :
    y.equal x = true := by
  cases x with
  | scalar a =>
    obtain ⟨b, rfl, hmeaning⟩ := exists_of_equal_scalar h
    exact Scalar.equal_iff.mpr hmeaning.symm
  | array xs =>
    obtain ⟨ys, rfl⟩ := exists_of_same_array h
    exact same_symm hx hy h
  | object xs =>
    obtain ⟨ys, rfl⟩ := exists_of_same_object h
    exact same_symm hx hy h

theorem equal_trans (hx : x.NamesDistinct) (hy : y.NamesDistinct) (hz : z.NamesDistinct)
    (hxy : x.equal y = true) (hyz : y.equal z = true) : x.equal z = true := by
  cases x with
  | scalar a =>
    obtain ⟨b, rfl, hab⟩ := exists_of_equal_scalar hxy
    obtain ⟨c, rfl, hbc⟩ := exists_of_equal_scalar hyz
    exact Scalar.equal_iff.mpr (hab.trans hbc)
  | array xs =>
    obtain ⟨ys, rfl⟩ := exists_of_same_array hxy
    exact same_trans hx hy hz hxy hyz
  | object xs =>
    obtain ⟨ys, rfl⟩ := exists_of_same_object hxy
    exact same_trans hx hy hz hxy hyz

end

end Node

/-- Comparisons are consistent. They always give one truth value. Of three numbers, texts, dates,
moments or truth values, exactly one of less, equal and greater holds for the first two, the other
two operators follow from these, and all three are compared as in a total order. Nodes of other kinds
are in no order, and equality is an equivalence of all nodes in which no object has a name twice. -/
theorem comparisons_are_consistent {a b c : Scalar} {kind : OrderKind}
    (ha : a.orderKind? = some kind) (hb : b.orderKind? = some kind)
    (hc : c.orderKind? = some kind) :
    (∀ x y : Node, ∀ op ∈ .equal :: orderOperators, ∃! answer, Gives op x y answer) ∧
    Consistent a b c ∧
    (∀ x y : Node, ¬x.Comparable y → ∀ op ∈ orderOperators, Gives op x y false) ∧
    Equivalence fun x y : {node : Node // node.NamesDistinct} => Gives .equal x y true := by
  refine ⟨fun x y op hop => ?_, Scalar.consistent ha hb hc, fun x y hother op hop => ?_, ?_⟩
  · rcases List.mem_cons.mp hop with rfl | horder
    · simp only [gives_equal_iff, existsUnique_eq']
    · simp only [gives_order_iff horder, existsUnique_eq']
  · rw [gives_order_iff hop, Node.compare?_eq_none hother]
    rfl
  · simp only [gives_equal_iff]
    exact
      { refl := fun x => Node.equal_refl x.2
        symm := fun {x y} => Node.equal_symm x.2 y.2
        trans := fun {x y z} => Node.equal_trans x.2 y.2 z.2 }

/-- Integers on both sides of a decimal with more places than it needs. -/
theorem comparisons_are_consistent_of_mixed_numbers :
    let a : Scalar := .integer 1
    let b : Scalar := .decimal ⟨false, 150, 2, by decide, by decide⟩
    let c : Scalar := .integer 2
    a.orderKind? = some .number ∧ b.orderKind? = some .number ∧ c.orderKind? = some .number ∧
      Consistent a b c ∧ Holds .lessThan a c := by
  intro a b c
  obtain ⟨-, hconsistent, -⟩ :=
    comparisons_are_consistent (rfl : a.orderKind? = some .number)
      (rfl : b.orderKind? = some .number) (rfl : c.orderKind? = some .number)
  have hab : Holds .lessThan a b := (gives_order_iff (by decide)).mpr (by decide)
  have hbc : Holds .lessThan b c := (gives_order_iff (by decide)).mpr (by decide)
  exact ⟨rfl, rfl, rfl, hconsistent, hconsistent.lessThan_trans hab hbc⟩

end DocumentMapping
