import DocumentMapping.Number.Double

/-!
# Decimal numbers

A decimal is a mantissa below `2 ^ 96` with a sign and up to twenty-eight places after the point.
The number of places is part of the value: `1.5` and `1.50` are equal as numbers and written
differently. Operations work on the exact rational result and drop as few digits as needed.
-/

namespace DocumentMapping

/-- A decimal number `mantissa / 10 ^ scale`, negated when `negative` holds. -/
structure Decimal where
  negative : Bool
  mantissa : Nat
  scale : Nat
  mantissa_lt : mantissa < 2 ^ 96
  scale_le : scale ≤ 28
deriving DecidableEq, Repr

namespace Decimal

/-- The decimal with the given parts, when they are within bounds. -/
def ofParts? (negative : Bool) (mantissa scale : Nat) : Option Decimal :=
  if h : mantissa < 2 ^ 96 ∧ scale ≤ 28 then some ⟨negative, mantissa, scale, h.1, h.2⟩ else none

/-- The decimal zero without places. -/
def zero : Decimal := ⟨false, 0, 0, by decide, by decide⟩

/-- The decimal one without places. -/
def one : Decimal := ⟨false, 1, 0, by decide, by decide⟩

/-- The decimal one hundred without places. -/
def hundred : Decimal := ⟨false, 100, 0, by decide, by decide⟩

instance : Inhabited Decimal := ⟨zero⟩

/-- The decimal of a 64-bit integer. -/
def ofInt64 (i : Int64) : Decimal :=
  ⟨i.toInt < 0, i.toInt.natAbs, 0, by
    have := i.le_toInt
    have := i.toInt_lt
    omega, by decide⟩

/-- Whether a decimal is zero, of either sign and with any number of places. -/
def isZero (x : Decimal) : Bool :=
  x.mantissa == 0

/-- The mantissa with its sign. -/
def signed (x : Decimal) : Int :=
  if x.negative then -(x.mantissa : Int) else x.mantissa

/-- The order of two decimals as numbers. -/
def compare (x y : Decimal) : Ordering :=
  Ord.compare (x.signed * 10 ^ y.scale) (y.signed * 10 ^ x.scale)

/-- Two decimals are equal as numbers, whatever their places. -/
def sameValue (x y : Decimal) : Bool :=
  x.signed * 10 ^ y.scale == y.signed * 10 ^ x.scale

/-- The decimal of the opposite sign; a zero changes its sign too. -/
def neg (x : Decimal) : Decimal :=
  { x with negative := !x.negative }

/-- The magnitude of a decimal. -/
def abs (x : Decimal) : Decimal :=
  { x with negative := false }

/-- Whether nothing but zeros follows the point. -/
def isIntegral (x : Decimal) : Bool :=
  x.mantissa % 10 ^ x.scale == 0

/-- A quotient rounded to the nearest integer, a half going up, is no larger than the dividend when
the divisor is at least two. -/
theorem roundHalfUp_le (m k : Nat) (hk : 0 < k) : (2 * m + 10 ^ k) / (2 * 10 ^ k) ≤ m := by
  have hpow : 10 ≤ 10 ^ k := Nat.le_self_pow (Nat.pos_iff_ne_zero.mp hk) 10
  have hmul : 10 * m ≤ 10 ^ k * m := Nat.mul_le_mul_right m hpow
  apply Nat.le_of_lt_succ
  rw [Nat.div_lt_iff_lt_mul (by omega), Nat.succ_eq_add_one, Nat.add_mul, Nat.one_mul,
    Nat.mul_left_comm, Nat.mul_comm m]
  omega

/-- The decimal with at most `places` places, a half going away from zero, and with its own sign. -/
def reduceScale (x : Decimal) (places : Nat) : Decimal :=
  if h : places < x.scale then
    let k := x.scale - places
    ⟨x.negative, (2 * x.mantissa + 10 ^ k) / (2 * 10 ^ k), places,
      Nat.lt_of_le_of_lt (roundHalfUp_le _ _ (by omega)) x.mantissa_lt,
      Nat.le_trans (Nat.le_of_lt h) x.scale_le⟩
  else
    x

/-- The same decimal, a zero without its sign. -/
def unsignedZero (x : Decimal) : Decimal :=
  if x.isZero then x.abs else x

/-- The decimal rounded to at most `places` places, a half going away from zero. A decimal with no
more places stays as it is. What is rounded to zero loses its sign, and a zero keeps it. -/
def roundHalfAway (x : Decimal) (places : Nat) : Decimal :=
  if x.isZero then x.reduceScale places else (x.reduceScale places).unsignedZero

/-- The integral part of the magnitude. -/
def wholePart (x : Decimal) : Nat :=
  x.mantissa / 10 ^ x.scale

/-- The decimal cut off after the point; the sign is kept even when zero remains. -/
def truncate (x : Decimal) : Decimal :=
  ⟨x.negative, x.wholePart, 0, Nat.lt_of_le_of_lt (Nat.div_le_self _ _) x.mantissa_lt, by decide⟩

/-- The integer of the integral part, when it has 64 bits. -/
def toInt64? (x : Decimal) : Option Int64 :=
  let whole : Int := if x.negative then -(x.wholePart : Int) else x.wholePart
  if -2 ^ 63 ≤ whole ∧ whole < 2 ^ 63 then some (Int64.ofInt whole) else none

/-- Removes zeros at the end of the places, one after the other. -/
def stripZeros (mantissa : Nat) : Nat → Nat × Nat
  | 0 => (mantissa, 0)
  | scale + 1 =>
    if mantissa % 10 = 0 then stripZeros (mantissa / 10) scale else (mantissa, scale + 1)

theorem stripZeros_le (mantissa scale : Nat) :
    (stripZeros mantissa scale).1 ≤ mantissa ∧ (stripZeros mantissa scale).2 ≤ scale := by
  induction scale generalizing mantissa with
  | zero => simp [stripZeros]
  | succ scale ih =>
    rw [stripZeros]
    split
    · have := ih (mantissa / 10)
      omega
    · simp

/-- The decimal without zeros at the end of its places; every zero becomes plain `0`. -/
def normalize (x : Decimal) : Decimal :=
  if x.isZero then
    zero
  else
    ⟨x.negative, (stripZeros x.mantissa x.scale).1, (stripZeros x.mantissa x.scale).2,
      Nat.lt_of_le_of_lt (stripZeros_le _ _).1 x.mantissa_lt,
      Nat.le_trans (stripZeros_le _ _).2 x.scale_le⟩

/-- The decimal nearest to `mantissa / 10 ^ scale` that is within bounds: the fewest digits are
dropped, and a half goes to the even neighbour. Absent when dropping all places is not enough. -/
def fit? (negative : Bool) (mantissa scale : Nat) : Option Decimal :=
  (List.range (scale + 1)).findSome? fun dropped =>
    ofParts? negative (Double.roundQuotient mantissa (10 ^ dropped)) (scale - dropped)

end Decimal

end DocumentMapping
