import Mathlib.Data.Prod.Lex
import Mathlib.Data.String.Basic
import Mathlib.Order.Compare
import DocumentMapping.Proofs.Calendar.DayNumber
import DocumentMapping.Proofs.Expression.IntegerArithmetic
import DocumentMapping.Proofs.Tree.Sameness

/-!
# The order of scalars

Numbers, texts, dates, moments and truth values are each ordered by a key: the value of a number, the
number of a day, an instant. Scalars with equal keys mean the same, and scalars that mean the same
are equal.
-/

namespace DocumentMapping

open Expression

/-! ## Orders -/

theorem compares_compare {α : Type} [LinearOrder α] (x y : α) :
    (Ord.compare x y).Compares x y :=
  cmp_eq_compare x y ▸ cmp_compares x y

/-- A pair is ordered by its first part, and then by its second one. -/
theorem compares_then {α β : Type} [LinearOrder α] [LinearOrder β] {first second : Ordering}
    {x y : α × β} (hfirst : first.Compares x.1 y.1) (hsecond : second.Compares x.2 y.2) :
    (first.then second).Compares (toLex x) (toLex y) := by
  cases first with
  | lt => exact Prod.Lex.lt_iff.mpr (.inl hfirst)
  | gt => exact Prod.Lex.lt_iff.mpr (.inl hfirst)
  | eq =>
    cases second with
    | lt => exact Prod.Lex.lt_iff.mpr (.inr ⟨hfirst, hsecond⟩)
    | gt => exact Prod.Lex.lt_iff.mpr (.inr ⟨hfirst.symm, hsecond⟩)
    | eq => exact congrArg toLex (Prod.ext hfirst hsecond)

/-- The instant of a moment: its seconds, and then its nanoseconds. -/
def Moment.instant (moment : Moment) : ℤ ×ₗ ℕ :=
  toLex (moment.instantSeconds, moment.time.nanosecond)

theorem Moment.compares (x y : Moment) : (x.compare y).Compares x.instant y.instant :=
  compares_then (compares_compare _ _) (compares_compare _ _)

/-! ## Numbers -/

/-- Decimals are ordered by the numbers that they stand for. -/
theorem Decimal.compares (x y : Decimal) : (x.compare y).Compares x.value y.value := by
  have hlt {a b : Decimal} : a.signed * 10 ^ b.scale < b.signed * 10 ^ a.scale ↔
      a.value < b.value := by
    rw [value_eq_signed, value_eq_signed, div_lt_div_iff₀ (by positivity) (by positivity)]
    exact_mod_cast Iff.rfl
  cases hcompare : x.compare y with
  | lt => exact hlt.mp (compare_lt_iff_lt.mp hcompare)
  | eq => exact sameValue_iff.mp (beq_iff_eq.mpr (compare_eq_iff_eq.mp hcompare))
  | gt => exact hlt.mp (compare_gt_iff_gt.mp hcompare)

namespace Expression.Numeric

theorem toDecimal_value (x : Numeric) : x.toDecimal.value = x.value := by
  cases x with
  | integer value => exact (Decimal.isWhole_ofInt64 value).value_eq
  | decimal value => rfl

/-- Numbers are ordered by their values, also an integer and a decimal. -/
theorem compares (x y : Numeric) : (x.compare y).Compares x.value y.value := by
  have hdecimals := Decimal.compares x.toDecimal y.toDecimal
  rw [toDecimal_value, toDecimal_value] at hdecimals
  cases x with
  | integer a =>
    cases y with
    | integer b =>
      show (compareOfLessAndEq a b).Compares (a.toInt : ℚ) b.toInt
      unfold compareOfLessAndEq
      split
      · rename_i hlt
        exact Int.cast_lt.mpr (Int64.lt_iff_toInt_lt.mp hlt)
      split
      · rename_i heq
        rw [heq]
        rfl
      · rename_i hlt hne
        have hge := mt Int64.lt_iff_toInt_lt.mpr hlt
        have hsame := mt Int64.toInt_inj.mp hne
        exact Int.cast_lt.mpr (by omega)
    | decimal b => exact hdecimals
  | decimal a => exact hdecimals

end Expression.Numeric

/-! ## Scalars -/

/-- The kinds of scalars that have an order. -/
inductive OrderKind where
  | number
  | text
  | date
  | moment
  | truth

namespace Scalar

/-- The kind by which a scalar is ordered. -/
def orderKind? : Scalar → Option OrderKind
  | .integer _ => some .number
  | .decimal _ => some .number
  | .string _ => some .text
  | .date _ => some .date
  | .moment _ => some .moment
  | .boolean _ => some .truth
  | _ => none

/-- The scalars of a kind that has an order. -/
theorem exists_of_orderKind? {x : Scalar} {kind : OrderKind} (h : x.orderKind? = some kind) :
    match kind with
    | .number => ∃ number : Numeric, x = number.toScalar
    | .text => ∃ text, x = .string text
    | .date => ∃ date, x = .date date
    | .moment => ∃ moment, x = .moment moment
    | .truth => ∃ truth, x = .boolean truth := by
  cases x with
  | integer value => cases h; exact ⟨.integer value, rfl⟩
  | decimal value => cases h; exact ⟨.decimal value, rfl⟩
  | string value | date value | moment value | boolean value => cases h; exact ⟨value, rfl⟩
  | _ => cases h

theorem meaning_toScalar (number : Numeric) : number.toScalar.meaning = .number number.value := by
  cases number <;> rfl

theorem ofScalar?_toScalar (number : Numeric) :
    Numeric.ofScalar? number.toScalar = some number := by
  cases number <;> rfl

/-- What is no number is equal to what is the same. -/
theorem scalarsEqual_eq_same {x y : Scalar}
    (h : x.orderKind? ≠ some .number ∨ y.orderKind? ≠ some .number) :
    Node.scalarsEqual x y = x.same y := by
  have hnone {z : Scalar} (hz : z.orderKind? ≠ some .number) : Numeric.ofScalar? z = none := by
    cases z <;> first | rfl | exact absurd rfl hz
  unfold Node.scalarsEqual
  split
  · rename_i a b hx hy
    rcases h with h | h
    · simp [hnone h] at hx
    · simp [hnone h] at hy
  · rfl

/-- What is no number has one kind with everything that means the same. -/
theorem kind_eq_of_meaning_eq {x y : Scalar} (hx : x.orderKind? ≠ some .number)
    (h : x.meaning = y.meaning) : x.kind = y.kind := by
  cases x <;> cases y <;> simp [meaning, orderKind?, kind] at *

/-- Scalars are equal when they mean the same. -/
theorem equal_iff {x y : Scalar} : Node.scalarsEqual x y = true ↔ x.meaning = y.meaning := by
  by_cases hx : x.orderKind? = some .number
  · by_cases hy : y.orderKind? = some .number
    · obtain ⟨a, rfl⟩ := exists_of_orderKind? hx
      obtain ⟨b, rfl⟩ := exists_of_orderKind? hy
      rw [Node.scalarsEqual, ofScalar?_toScalar, ofScalar?_toScalar, meaning_toScalar,
        meaning_toScalar, Meaning.number.injEq, ← (a.compares b).eq_eq]
      exact beq_iff_eq
    · rw [scalarsEqual_eq_same (.inr hy), same_iff]
      exact and_iff_right_of_imp fun h => (kind_eq_of_meaning_eq hy h.symm).symm
  · rw [scalarsEqual_eq_same (.inl hx), same_iff]
    exact and_iff_right_of_imp fun h => kind_eq_of_meaning_eq hx h

end Scalar

/-- Scalars made from some data are ordered by a key of the data. -/
structure OrderedBy {α β : Type} [LinearOrder α] (scalar : β → Scalar) (key : β → α) : Prop where
  compares : ∀ x y, ∃ order, Node.compareScalars? (scalar x) (scalar y) = some order ∧
    order.Compares (key x) (key y)
  meaning_iff : ∀ x y, (scalar x).meaning = (scalar y).meaning ↔ key x = key y

theorem orderedBy_numbers : OrderedBy Numeric.toScalar Numeric.value where
  compares x y := by
    refine ⟨x.compare y, ?_, x.compares y⟩
    cases x <;> cases y <;> rfl
  meaning_iff x y := by
    cases x <;> cases y <;> simp [Numeric.toScalar, Scalar.meaning, Numeric.value]

theorem orderedBy_texts : OrderedBy Scalar.string id where
  compares x y := ⟨_, rfl, compares_compare x y⟩
  meaning_iff x y := by simp [Scalar.meaning]

theorem orderedBy_dates : OrderedBy Scalar.date Date.dayNumber where
  compares x y := ⟨_, rfl, compares_compare x.dayNumber y.dayNumber⟩
  meaning_iff x y := by
    rw [Date.dayNumber_inj]
    simp [Scalar.meaning]

theorem orderedBy_moments : OrderedBy Scalar.moment Moment.instant where
  compares x y := ⟨_, rfl, x.compares y⟩
  meaning_iff x y := by simp [Scalar.meaning, Moment.instant]

theorem orderedBy_truths : OrderedBy Scalar.boolean id where
  compares x y := ⟨_, rfl, compares_compare x y⟩
  meaning_iff x y := by simp [Scalar.meaning]

end DocumentMapping
