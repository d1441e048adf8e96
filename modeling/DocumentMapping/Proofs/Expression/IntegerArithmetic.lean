import DocumentMapping.Proofs.Expression.Composition
import DocumentMapping.Proofs.Number.Quotients

/-!
# Arithmetic of integers

Operators on two integers are exact. The result is an integer when it has 64 bits and a decimal
otherwise, and only products can be too large for a decimal. A quotient that is no integer is a
decimal, rounded to the nearest.
-/

namespace DocumentMapping

namespace Expression

/-! ## Exact numbers -/

/-- The number that a result stands for. -/
def Numeric.value : Numeric → ℚ
  | .integer value => value.toInt
  | .decimal value => value.value

/-- A result is exactly an integer, and is given as one when it has 64 bits. -/
structure Numeric.IsExactly (number : Numeric) (result : Int) : Prop where
  value_eq : number.value = result
  integer_iff : (∃ value, number = .integer value) ↔ -2 ^ 63 ≤ result ∧ result < 2 ^ 63

theorem toInt_of_int64? {number : Int} {value : Int64} (h : Scalar.int64? number = some value) :
    value.toInt = number := by
  unfold Scalar.int64? at h
  split at h
  · rename_i hfits
    cases h
    exact Int64.toInt_ofInt_of_le hfits.1 hfits.2
  · cases h

namespace Numeric

theorem ofInt_isExactly {result : Int} {x : Decimal} (hx : x.value = result) :
    (ofInt result x).IsExactly result := by
  unfold ofInt
  cases hresult : Scalar.int64? result with
  | none =>
    have hwide : ¬(-2 ^ 63 ≤ result ∧ result < 2 ^ 63) := by
      intro hfits
      rw [Scalar.int64?, if_pos hfits] at hresult
      cases hresult
    refine ⟨hx, ⟨?_, fun hfits => absurd hfits hwide⟩⟩
    rintro ⟨_, hinteger⟩
    cases hinteger
  | some value =>
    have hvalue := toInt_of_int64? hresult
    refine ⟨congrArg Int.cast hvalue, ⟨fun _ => ?_, fun _ => ⟨value, rfl⟩⟩⟩
    rw [← hvalue]
    exact ⟨value.le_toInt, value.toInt_lt⟩

section

variable {a b : Int64}

variable {integer : Int → Int → Option Int} {decimal : Decimal → Decimal → Option Decimal}

/-- Two integers are combined exactly by an operation that is exact on both kinds of numbers. -/
theorem combine_isExactly {result : Int} {x : Decimal}
    (hinteger : integer a.toInt b.toInt = some result)
    (hdecimal : decimal (.ofInt64 a) (.ofInt64 b) = some x) (hx : x.value = result) :
    ∃ number, combine integer decimal (.integer a) (.integer b) = some number ∧
      number.IsExactly result := by
  refine ⟨_, ?_, ofInt_isExactly hx⟩
  simp only [ofInt, combine, toDecimal, hinteger, hdecimal, Option.bind_some, Option.map_some]
  cases Scalar.int64? result <;> rfl

/-- Two integers are combined as decimals when they have no integer of 64 bits as their result. -/
theorem combine_eq_decimal (h : (integer a.toInt b.toInt).bind Scalar.int64? = none) :
    combine integer decimal (.integer a) (.integer b) =
      (decimal (.ofInt64 a) (.ofInt64 b)).map .decimal := by
  simp only [combine, toDecimal, h]

theorem natAbs_toInt_le (a : Int64) : a.toInt.natAbs ≤ 2 ^ 63 := by
  have := a.le_toInt
  have := a.toInt_lt
  omega

theorem add?_isExactly (a b : Int64) :
    ∃ number, add? (.integer a) (.integer b) = some number ∧
      number.IsExactly (a.toInt + b.toInt) := by
  have ha := natAbs_toInt_le a
  have hb := natAbs_toInt_le b
  obtain ⟨x, hx, hwhole⟩ := Decimal.add?_isWhole (Decimal.isWhole_ofInt64 a)
    (Decimal.isWhole_ofInt64 b) (by omega)
  exact combine_isExactly rfl hx hwhole.value_eq

theorem subtract?_isExactly (a b : Int64) :
    ∃ number, subtract? (.integer a) (.integer b) = some number ∧
      number.IsExactly (a.toInt - b.toInt) := by
  have ha := natAbs_toInt_le a
  have hb := natAbs_toInt_le b
  obtain ⟨x, hx, hwhole⟩ := Decimal.sub?_isWhole (Decimal.isWhole_ofInt64 a)
    (Decimal.isWhole_ofInt64 b) (by omega)
  exact combine_isExactly rfl hx hwhole.value_eq

theorem multiply?_isExactly (h : (a.toInt * b.toInt).natAbs < 2 ^ 96) :
    ∃ number, multiply? (.integer a) (.integer b) = some number ∧
      number.IsExactly (a.toInt * b.toInt) := by
  obtain ⟨x, hx, hwhole⟩ := Decimal.mul?_isWhole (Decimal.isWhole_ofInt64 a)
    (Decimal.isWhole_ofInt64 b) h
  exact combine_isExactly rfl hx hwhole.value_eq

/-- A product is too large exactly when no decimal has room for it. -/
theorem multiply?_eq_none (h : 2 ^ 96 ≤ (a.toInt * b.toInt).natAbs) :
    multiply? (.integer a) (.integer b) = none := by
  have hdecimal := Decimal.mul?_eq_none (Decimal.isWhole_ofInt64 a) (Decimal.isWhole_ofInt64 b) h
  have hwide : Scalar.int64? (a.toInt * b.toInt) = none := if_neg (by omega)
  rw [multiply?, combine_eq_decimal, hdecimal, Option.map_none]
  exact hwide

/-- The quotient of decimals that two integers give. -/
theorem exists_div? (a : Int64) (hb : b.toInt ≠ 0) :
    ∃ x, Decimal.div? (.ofInt64 a) (.ofInt64 b) = some x ∧ x.IsNearest (a.toInt / b.toInt) :=
  Decimal.div?_isNearest (Decimal.isWhole_ofInt64 a) (Decimal.isWhole_ofInt64 b) hb (by
    have := natAbs_toInt_le a
    omega)

theorem divide?_isExactly (hb : b.toInt ≠ 0) (hdvd : b.toInt ∣ a.toInt) :
    ∃ number, divide? (.integer a) (.integer b) = some number ∧
      number.IsExactly (a.toInt.tdiv b.toInt) := by
  obtain ⟨x, hx, hnearest⟩ := exists_div? a hb
  have hquotient : (a.toInt / b.toInt : ℚ) = (a.toInt.tdiv b.toInt : ℤ) := by
    rw [Int.tdiv_eq_ediv_of_dvd hdvd, Int.cast_div hdvd (by exact_mod_cast hb)]
  rw [hquotient] at hnearest
  exact combine_isExactly (if_pos (Int.dvd_iff_tmod_eq_zero.mp hdvd)) hx hnearest.value_eq

/-- A quotient with a remainder is a decimal. -/
theorem divide?_isNearest (hb : b.toInt ≠ 0) (hdvd : ¬b.toInt ∣ a.toInt) :
    ∃ x, divide? (.integer a) (.integer b) = some (.decimal x) ∧
      x.IsNearest (a.toInt / b.toInt) := by
  obtain ⟨x, hx, hnearest⟩ := exists_div? a hb
  have hinteger : (exactQuotient? a.toInt b.toInt).bind Scalar.int64? = none := by
    rw [exactQuotient?, if_neg (mt Int.dvd_iff_tmod_eq_zero.mpr hdvd), Option.bind_none]
  exact ⟨x, by rw [divide?, combine_eq_decimal hinteger, hx, Option.map_some], hnearest⟩

/-- A remainder is exact; it is a decimal when the integers have no quotient of 64 bits. -/
theorem remainder?_value (a : Int64) (hb : b.toInt ≠ 0) :
    ∃ number, remainder? (.integer a) (.integer b) = some number ∧
      number.value = (a.toInt.tmod b.toInt : ℤ) := by
  have hsmall := natAbs_toInt_le b
  obtain ⟨x, hx, hwhole⟩ := Decimal.rem?_isWhole (Decimal.isWhole_ofInt64 a)
    (Decimal.isWhole_ofInt64 b) hb (by omega)
  by_cases hquotient : (Scalar.int64? (a.toInt.tdiv b.toInt)).isSome = true
  · have hinteger : integerRemainder? a.toInt b.toInt = some (a.toInt.tmod b.toInt) :=
      if_pos hquotient
    obtain ⟨number, hnumber, hexact⟩ := combine_isExactly hinteger hx hwhole.value_eq
    exact ⟨number, hnumber, hexact.value_eq⟩
  · have hinteger : (integerRemainder? a.toInt b.toInt).bind Scalar.int64? = none := by
      rw [integerRemainder?, if_neg hquotient, Option.bind_none]
    exact ⟨.decimal x, by rw [remainder?, combine_eq_decimal hinteger, hx, Option.map_some],
      hwhole.value_eq⟩

theorem neg_isExactly (a : Int64) : (Numeric.integer a).neg.IsExactly (-a.toInt) :=
  ofInt_isExactly (Decimal.isWhole_ofInt64 a).neg.value_eq

theorem abs_isExactly (a : Int64) : (Numeric.integer a).abs.IsExactly |a.toInt| := by
  rw [← Int.natCast_natAbs, Numeric.abs]
  exact ofInt_isExactly (Decimal.isWhole_ofInt64 a).abs.value_eq

end

end Numeric

/-! ## Evaluation of operators on integers -/

/-- The arithmetic operators are applied to the numbers on both sides. -/
theorem applyBinary_integers {op : BinaryOperator} (h : (operation? op).isSome = true)
    (a b : Int64) :
    applyBinary op (.scalar (.integer a)) (.scalar (.integer b)) =
      applyNumeric op (.integer a) (.integer b) := by
  cases op with
  | add | subtract | multiply | divide | modulo => rfl
  | _ => cases h

theorem isLazy_eq_false {op : BinaryOperator} (h : (operation? op).isSome = true) :
    op.isLazy = false := by
  cases op with
  | and | or | coalesce => cases h
  | _ => rfl

theorem operation?_isSome_of_needsDivisor {op : BinaryOperator} (h : needsDivisor op = true) :
    (operation? op).isSome = true := by
  cases op with
  | divide | modulo => rfl
  | _ => cases h

/-- An evaluation gives exactly an integer and leaves a cache. -/
def GivesExactly (outcome : Except Fault Node × Cache) (cache : Cache) (result : Int) : Prop :=
  ∃ number : Numeric, outcome = (.ok (ofNumeric number), cache) ∧ number.IsExactly result

section

variable {inputs : Inputs} {cache middle last : Cache} {left right : Expression} {a b : Int64}
  (hleft : eval inputs left cache = (.ok (.scalar (.integer a)), middle))

include hleft

theorem eval_negate :
    eval inputs (.unary .negate left) cache =
      (.ok (ofNumeric (Numeric.integer a).neg), middle) := by
  rw [eval, bind_of_eq_ok hleft]
  rfl

theorem eval_abs :
    eval inputs (.call .abs [left]) cache = (.ok (ofNumeric (Numeric.integer a).abs), middle) := by
  have harguments : evalAll inputs [left] cache = (.ok [.scalar (.integer a)], middle) := by
    rw [evalAll, bind_of_eq_ok hleft, evalAll]
    rfl
  rw [eval_call rfl, bind_of_eq_ok harguments]
  rfl

variable (hright : eval inputs right middle = (.ok (.scalar (.integer b)), last))

include hright

theorem eval_arithmetic {op : BinaryOperator} (h : (operation? op).isSome = true) :
    eval inputs (.binary op left right) cache =
      (applyNumeric op (.integer a) (.integer b), last) := by
  rw [eval_binary (isLazy_eq_false h), bind_of_eq_ok hleft, bind_of_eq_ok hright,
    applyBinary_integers h]
  rfl

/-- An operation gives its result, or a fault when it has none. -/
theorem eval_operation {op : BinaryOperator} {f : Numeric → Numeric → Option Numeric}
    (hop : operation? op = some f) (hdivisor : needsDivisor op = true → b.toInt ≠ 0) :
    eval inputs (.binary op left right) cache =
      ((f (.integer a) (.integer b)).elim (.error (.overflow op)) (.ok ∘ ofNumeric), last) := by
  have hzero : ¬(needsDivisor op && (Numeric.integer b).isZero) = true := by
    intro h
    obtain ⟨hneeds, hb⟩ := Bool.and_eq_true_iff.mp h
    refine hdivisor hneeds ?_
    rw [beq_iff_eq.mp hb]
    rfl
  rw [eval_arithmetic hleft hright (by rw [hop]; rfl), applyNumeric, if_neg hzero, hop,
    Option.bind_some]
  cases f (.integer a) (.integer b) <;> rfl

theorem eval_zero_divisor {op : BinaryOperator} (hneeds : needsDivisor op = true)
    (hb : b.toInt = 0) :
    eval inputs (.binary op left right) cache = (.error .divisionByZero, last) := by
  obtain rfl : b = 0 := Int64.toInt_inj.mp hb
  rw [eval_arithmetic hleft hright (operation?_isSome_of_needsDivisor hneeds), applyNumeric,
    if_pos (by rw [hneeds]; rfl)]

end

end Expression

open Expression

/-- Arithmetic of integers is exact or faults. Sums, differences, negations and absolute values are
exact; so are products, unless no decimal has room for them. A quotient is exact if it is an
integer, and otherwise a decimal nearest to it; a remainder belongs to the quotient cut off towards
zero. Division by zero faults. -/
theorem integer_arithmetic_is_exact {left right : Expression} {inputs : Inputs}
    {cache middle last : Cache} {a b : Int64}
    (hleft : left.evaluate inputs cache = (.ok (.scalar (.integer a)), middle))
    (hright : right.evaluate inputs middle = (.ok (.scalar (.integer b)), last)) :
    let outcome (op : BinaryOperator) := (Expression.binary op left right).evaluate inputs cache
    GivesExactly (outcome .add) last (a.toInt + b.toInt) ∧
    GivesExactly (outcome .subtract) last (a.toInt - b.toInt) ∧
    (|a.toInt * b.toInt| ≤ 2 ^ 96 - 1 →
      GivesExactly (outcome .multiply) last (a.toInt * b.toInt)) ∧
    (2 ^ 96 - 1 < |a.toInt * b.toInt| →
      outcome .multiply = (.error (.overflow .multiply), last)) ∧
    GivesExactly ((Expression.unary .negate left).evaluate inputs cache) middle (-a.toInt) ∧
    GivesExactly ((Expression.call .abs [left]).evaluate inputs cache) middle |a.toInt| ∧
    (b.toInt ≠ 0 →
      (b.toInt ∣ a.toInt →
        GivesExactly (outcome .divide) last (a.toInt.tdiv b.toInt)) ∧
      (¬b.toInt ∣ a.toInt → ∃ quotient : Decimal,
        outcome .divide = (.ok (.scalar (.decimal quotient)), last) ∧
          quotient.IsNearest (a.toInt / b.toInt)) ∧
      ∃ rest : Numeric, outcome .modulo = (.ok (ofNumeric rest), last) ∧
        rest.value = (a.toInt - b.toInt * a.toInt.tdiv b.toInt : ℤ)) ∧
    (b.toInt = 0 → outcome .divide = (.error .divisionByZero, last) ∧
      outcome .modulo = (.error .divisionByZero, last)) := by
  intro outcome
  have gives {op : BinaryOperator} {f : Numeric → Numeric → Option Numeric} {number : Numeric}
      (hop : operation? op = some f) (hdivisor : needsDivisor op = true → b.toInt ≠ 0)
      (hnumber : f (.integer a) (.integer b) = some number) :
      outcome op = (.ok (ofNumeric number), last) := by
    refine (eval_operation hleft hright hop hdivisor).trans ?_
    rw [hnumber]
    rfl
  refine ⟨?_, ?_, fun hfits => ?_, fun hlarge => ?_, ?_, ?_,
    fun hb => ⟨fun hdvd => ?_, fun hdvd => ?_, ?_⟩, fun hb => ⟨?_, ?_⟩⟩
  · obtain ⟨number, hnumber, hexact⟩ := Numeric.add?_isExactly a b
    exact ⟨number, gives rfl nofun hnumber, hexact⟩
  · obtain ⟨number, hnumber, hexact⟩ := Numeric.subtract?_isExactly a b
    exact ⟨number, gives rfl nofun hnumber, hexact⟩
  · rw [← Int.natCast_natAbs] at hfits
    have hroom : (a.toInt * b.toInt).natAbs < 2 ^ 96 := by omega
    obtain ⟨number, hnumber, hexact⟩ := Numeric.multiply?_isExactly hroom
    exact ⟨number, gives rfl nofun hnumber, hexact⟩
  · rw [← Int.natCast_natAbs] at hlarge
    have hproduct : operation? .multiply = some Numeric.multiply? := rfl
    refine (eval_operation hleft hright hproduct nofun).trans ?_
    rw [Numeric.multiply?_eq_none (by omega)]
    rfl
  · exact ⟨_, eval_negate hleft, Numeric.neg_isExactly a⟩
  · exact ⟨_, eval_abs hleft, Numeric.abs_isExactly a⟩
  · obtain ⟨number, hnumber, hexact⟩ := Numeric.divide?_isExactly hb hdvd
    exact ⟨number, gives rfl (fun _ => hb) hnumber, hexact⟩
  · obtain ⟨quotient, hquotient, hnearest⟩ := Numeric.divide?_isNearest hb hdvd
    exact ⟨quotient, gives rfl (fun _ => hb) hquotient, hnearest⟩
  · obtain ⟨rest, hrest, hvalue⟩ := Numeric.remainder?_value a hb
    rw [Int.tmod_def] at hvalue
    exact ⟨rest, gives rfl (fun _ => hb) hrest, hvalue⟩
  · exact eval_zero_divisor hleft hright rfl hb
  · exact eval_zero_divisor hleft hright rfl hb

/-- The least integer and minus one, whose product and quotient have more than 64 bits. -/
theorem integer_arithmetic_is_exact_of_least_integer :
    let inputs : Inputs := ⟨.placeholder, .placeholder, .placeholder⟩
    let left : Expression := .literal (.integer Int64.minValue)
    let right : Expression := .unary .negate (.literal (.integer 1))
    let outcome (op : BinaryOperator) := (Expression.binary op left right).evaluate inputs []
    left.evaluate inputs [] = (.ok (.scalar (.integer Int64.minValue)), []) ∧
      right.evaluate inputs [] = (.ok (.scalar (.integer (-1))), []) ∧
      GivesExactly (outcome .multiply) [] (2 ^ 63) ∧ GivesExactly (outcome .divide) [] (2 ^ 63) ∧
      ∃ rest : Numeric, outcome .modulo = (.ok (ofNumeric rest), []) ∧ rest.value = 0 := by
  intro inputs left right outcome
  have hleft : left.evaluate inputs [] = (.ok (.scalar (.integer Int64.minValue)), []) := rfl
  have hright : right.evaluate inputs [] = (.ok (.scalar (.integer (-1))), []) := rfl
  obtain ⟨-, -, hproduct, -, -, -, hquotient, -⟩ := integer_arithmetic_is_exact hleft hright
  obtain ⟨hexact, -, rest, hrest, hvalue⟩ := hquotient (by decide)
  have hzero : Int64.minValue.toInt -
      (-1 : Int64).toInt * Int64.minValue.toInt.tdiv (-1 : Int64).toInt = 0 := by decide
  rw [hzero, Int.cast_zero] at hvalue
  exact ⟨hleft, hright, hproduct (by decide), hexact (by decide), rest, hrest, hvalue⟩

end DocumentMapping
