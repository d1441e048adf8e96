import DocumentMapping.Proofs.Expression.Comparison

/-!
# Sums of integers

The total of a sum is an integer as long as it has 64 bits. It goes on as a decimal when it has more,
and stays one when it gets small again. Both kinds are exact, so the sum does not depend on the order
of the items although the kind of the result does.
-/

namespace DocumentMapping

open Expression

/-- An item that a sum of integers can have. -/
def Node.IsIntegerOrNull (node : Node) : Prop :=
  node = .placeholder ∨ ∃ value, node = .scalar (.integer value)

/-- The integer that an item adds to a sum; null adds nothing. -/
def Node.addend : Node → Int
  | .scalar (.integer value) => value.toInt
  | _ => 0

namespace Expression

namespace Numeric

variable {x y : Numeric} {a b : Int}

theorem toInt_eq_of_isWhole {value : Int64} (h : (integer value).toDecimal.IsWhole a) :
    value.toInt = a :=
  (Decimal.isWhole_ofInt64 value).signed_eq.symm.trans h.signed_eq

/-- Two whole numbers have a whole sum, as long as a decimal has room for it. -/
theorem add?_isWhole (hx : x.toDecimal.IsWhole a) (hy : y.toDecimal.IsWhole b)
    (h : (a + b).natAbs < 2 ^ 96) :
    ∃ sum, add? x y = some sum ∧ sum.toDecimal.IsWhole (a + b) := by
  obtain ⟨z, hz, hwhole⟩ := Decimal.add?_isWhole hx hy h
  have hdecimal : ∃ sum, (Decimal.add? x.toDecimal y.toDecimal).map Numeric.decimal = some sum ∧
      sum.toDecimal.IsWhole (a + b) := ⟨.decimal z, by rw [hz, Option.map_some], hwhole⟩
  cases x with
  | decimal _ => exact hdecimal
  | integer first =>
    cases y with
    | decimal _ => exact hdecimal
    | integer second =>
      obtain rfl := toInt_eq_of_isWhole hx
      obtain rfl := toInt_eq_of_isWhole hy
      cases hfits : Scalar.int64? (first.toInt + second.toInt) with
      | none =>
        have hnone : (some (first.toInt + second.toInt)).bind Scalar.int64? = none := hfits
        rw [add?, combine_eq_decimal hnone]
        exact hdecimal
      | some sum =>
        refine ⟨.integer sum, by simp only [add?, combine, hfits, Option.bind_some], ?_⟩
        rw [← toInt_of_int64? hfits]
        exact Decimal.isWhole_ofInt64 sum

end Numeric

variable {items : List Node}

/-- One more item keeps the total exact. -/
theorem addTo_isWhole {total : Numeric} {start : Int} {node : Node} (hnode : node.IsIntegerOrNull)
    (htotal : total.toDecimal.IsWhole start) (hroom : (start + node.addend).natAbs < 2 ^ 96) :
    ∃ next, addTo total node = .ok next ∧ next.toDecimal.IsWhole (start + node.addend) := by
  obtain rfl | ⟨value, rfl⟩ := hnode
  · have hsame : start + Node.placeholder.addend = start := Int.add_zero start
    exact ⟨total, rfl, hsame.symm ▸ htotal⟩
  · obtain ⟨next, hnext, hwhole⟩ :=
      Numeric.add?_isWhole htotal (y := .integer value) (Decimal.isWhole_ofInt64 value) hroom
    exact ⟨next, by simp only [addTo, Numeric.ofScalar?, hnext], hwhole⟩

/-- No item adds more than an integer of 64 bits has. -/
theorem natAbs_addend_le (node : Node) : node.addend.natAbs ≤ 2 ^ 63 := by
  unfold Node.addend
  split
  · exact Numeric.natAbs_toInt_le _
  · decide

/-- The total after some items is exact when there is room for that many integers. -/
theorem foldlM_addTo_isWhole {total : Numeric} {start : Int}
    (hitems : ∀ item ∈ items, item.IsIntegerOrNull) (htotal : total.toDecimal.IsWhole start)
    (hroom : start.natAbs + 2 ^ 63 * items.length < 2 ^ 96) :
    ∃ sum, items.foldlM addTo total = .ok sum ∧
      sum.toDecimal.IsWhole (start + (items.map Node.addend).sum) := by
  induction items generalizing total start with
  | nil => exact ⟨total, rfl, by simpa using htotal⟩
  | cons item rest ih =>
    obtain ⟨hitem, hrest⟩ := List.forall_mem_cons.mp hitems
    have hbound := natAbs_addend_le item
    rw [List.length_cons] at hroom
    obtain ⟨next, hnext, hwhole⟩ := addTo_isWhole hitem htotal (by omega)
    obtain ⟨sum, hsum, hexact⟩ := ih hrest hwhole (by omega)
    refine ⟨sum, ?_, ?_⟩
    · rw [List.foldlM_cons, hnext]
      exact hsum
    · rw [List.map_cons, List.sum_cons, ← Int.add_assoc]
      exact hexact

/-- The sum of fewer than `2 ^ 32` integers is exact. -/
theorem sumOf_isWhole (hitems : ∀ item ∈ items, item.IsIntegerOrNull)
    (hlength : items.length < 2 ^ 32) :
    ∃ total, sumOf items = .ok total ∧ total.toDecimal.IsWhole (items.map Node.addend).sum := by
  have hzero : (Numeric.integer 0).toDecimal.IsWhole 0 := Decimal.isWhole_ofInt64 0
  obtain ⟨total, htotal, hwhole⟩ := foldlM_addTo_isWhole hitems hzero (by simp; omega)
  rw [Int.zero_add] at hwhole
  exact ⟨total, htotal, hwhole⟩

/-- A function of one argument is called with the node that the argument gives. -/
theorem evaluate_call {function : Function} {argument : Expression} {inputs : Inputs}
    {cache after : Cache} {node : Node} (h : function.isLazy = false)
    (hargument : argument.evaluate inputs cache = (.ok node, after)) :
    (Expression.call function [argument]).evaluate inputs cache = function.call [node] after := by
  have harguments : evalAll inputs [argument] cache = (.ok [node], after) := by
    have hargument : eval inputs argument cache = (.ok node, after) := hargument
    rw [evalAll, bind_of_eq_ok hargument, evalAll]
    rfl
  show eval inputs (.call function [argument]) cache = _
  rw [eval_call h, bind_of_eq_ok harguments]
  rfl

/-- The sum of a list of fewer than `2 ^ 32` integers is evaluated to the exact sum. -/
theorem evaluate_sum {argument : Expression} {inputs : Inputs} {cache after : Cache}
    (hitems : ∀ item ∈ items, item.IsIntegerOrNull) (hlength : items.length < 2 ^ 32)
    (hargument : argument.evaluate inputs cache = (.ok (.array items), after)) :
    ∃ total : Numeric,
      (Expression.call .sum [argument]).evaluate inputs cache = (.ok (ofNumeric total), after) ∧
        total.value = (items.map Node.addend).sum := by
  obtain ⟨total, htotal, hwhole⟩ := sumOf_isWhole hitems hlength
  refine ⟨total, ?_, by rw [← total.toDecimal_value, hwhole.value_eq]⟩
  have hresult : readingCall after .sum [.array items] = .ok (ofNumeric total) := by
    show (sumOf items).map ofNumeric = _
    rw [htotal]
    rfl
  rw [evaluate_call rfl hargument, Function.call, hresult]
  rfl

end Expression

/-- Sums of integers are exact and do not depend on the order. A list of fewer than `2 ^ 32` items,
each an integer or null, has a sum, whose value is that of its integers, and the sum of the same
items in another order is equal to it. -/
theorem integer_sums_are_exact {argument : Expression} {inputs : Inputs} {cache after : Cache}
    {items : List Node} (hitems : ∀ item ∈ items, item.IsIntegerOrNull)
    (hlength : items.length < 2 ^ 32)
    (hargument : argument.evaluate inputs cache = (.ok (.array items), after)) :
    (∃ total : Numeric,
      (Expression.call .sum [argument]).evaluate inputs cache = (.ok (ofNumeric total), after) ∧
        total.value = (items.map Node.addend).sum) ∧
    ∀ (other : Expression) (reordered : List Node) (last : Cache), items.Perm reordered →
      other.evaluate inputs after = (.ok (.array reordered), last) →
        (Expression.binary .equal (.call .sum [argument]) (.call .sum [other])).evaluate inputs
          cache = (.ok (ofBool true), last) := by
  obtain ⟨total, htotal, hvalue⟩ := evaluate_sum hitems hlength hargument
  refine ⟨⟨total, htotal, hvalue⟩, fun other reordered last hperm hother => ?_⟩
  have hreordered : ∀ item ∈ reordered, item.IsIntegerOrNull := fun item hmem =>
    hitems item (hperm.mem_iff.mpr hmem)
  obtain ⟨again, hagain, hsame⟩ := evaluate_sum hreordered (hperm.length_eq ▸ hlength) hother
  have hsums : total.value = again.value := by
    rw [hvalue, hsame, (hperm.map Node.addend).sum_eq]
  have hequal : (ofNumeric total).equal (ofNumeric again) = true := by
    rw [ofNumeric, ofNumeric, Node.equal, Scalar.equal_iff, Scalar.meaning_toScalar,
      Scalar.meaning_toScalar, hsums]
  exact gives_equal_iff.mpr hequal htotal hagain

/-- The greatest integer and one more, which is taken away again: from the front, the total leaves the
integers of 64 bits and comes back; from the end, it never leaves them. -/
theorem integer_sums_are_exact_beyond_64_bits :
    let items : List Node := [.scalar (.integer Int64.maxValue), .scalar (.integer 1), .placeholder,
      .scalar (.integer (-1))]
    let inputs : Inputs := ⟨.array items, .array items.reverse, .placeholder⟩
    (∀ item ∈ items, item.IsIntegerOrNull) ∧ items.length < 2 ^ 32 ∧
      (Expression.input .request).evaluate inputs [] = (.ok (.array items), []) ∧
      items.Perm items.reverse ∧
      (Expression.input .item).evaluate inputs [] = (.ok (.array items.reverse), []) ∧
      (∃ total : Numeric, (Expression.call .sum [.input .request]).evaluate inputs [] =
        (.ok (ofNumeric total), []) ∧ total.value = 2 ^ 63 - 1) ∧
      (Expression.binary .equal (.call .sum [.input .request]) (.call .sum [.input .item])).evaluate
        inputs [] = (.ok (ofBool true), []) := by
  intro items inputs
  have hitems : ∀ item ∈ items, item.IsIntegerOrNull := by
    simp [items, Node.IsIntegerOrNull]
  have hlength : items.length < 2 ^ 32 := by decide
  have hperm : items.Perm items.reverse := (List.reverse_perm items).symm
  have hargument : (Expression.input .request).evaluate inputs [] = (.ok (.array items), []) := rfl
  obtain ⟨⟨total, htotal, hvalue⟩, hequal⟩ := integer_sums_are_exact hitems hlength hargument
  have hsum : (items.map Node.addend).sum = 2 ^ 63 - 1 := by decide
  refine ⟨hitems, hlength, hargument, hperm, rfl, ⟨total, htotal, ?_⟩, hequal _ _ _ hperm rfl⟩
  rw [hvalue, hsum]
  norm_num

end DocumentMapping
