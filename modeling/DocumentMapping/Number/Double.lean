import DocumentMapping.Number.Power

/-!
# Binary floating-point numbers

A finite double is a sign, a mantissa and a power of two. Every operation computes the exact
rational result and rounds it once to the nearest double, ties to an even mantissa. A result too
large for a finite double is absent.
-/

namespace DocumentMapping

/-- A finite binary64 number: `mantissa * 2 ^ exponent`, negated when `negative` holds. The mantissa
has 53 bits, or fewer at the least exponent. -/
structure Double where
  negative : Bool
  mantissa : Nat
  exponent : Int
deriving DecidableEq, Repr, Inhabited

namespace Double

/-- The least exponent of a double. -/
def leastExponent : Int := -1074

/-- The greatest exponent of a finite double. -/
def greatestExponent : Int := 971

/-- The nearest integer to a quotient, a tie going to the even neighbour. -/
def roundQuotient (num den : Nat) : Nat :=
  let quotient := num / den
  let twice := 2 * (num % den)
  if twice < den then quotient
  else if twice > den then quotient + 1
  else quotient + quotient % 2

/-- `num / den` divided by a power of two, as a quotient of naturals. -/
def scaleRatio (num den : Nat) (exponent : Int) : Nat × Nat :=
  if 0 ≤ exponent then (num, den * 2 ^ exponent.toNat) else (num * 2 ^ (-exponent).toNat, den)

/-- The exponent under which a positive quotient has a mantissa of 53 bits. -/
def normalExponent (num den : Nat) : Int :=
  let estimate : Int := (num.log2 : Int) - den.log2 - 52
  let (n, d) := scaleRatio num den estimate
  if n < d * 2 ^ 52 then estimate - 1 else estimate

/-- The double nearest to a quotient; absent when it lies beyond the finite range. -/
def ofRatio (negative : Bool) (num den : Nat) : Option Double :=
  if num = 0 then
    some ⟨negative, 0, leastExponent⟩
  else
    let exponent := max (normalExponent num den) leastExponent
    let (n, d) := scaleRatio num den exponent
    let mantissa := roundQuotient n d
    let (mantissa, exponent) :=
      if mantissa = 2 ^ 53 then (2 ^ 52, exponent + 1) else (mantissa, exponent)
    if exponent ≤ greatestExponent then some ⟨negative, mantissa, exponent⟩ else none

/-- The magnitude of a double as a quotient of naturals. -/
def ratio (x : Double) : Nat × Nat :=
  if 0 ≤ x.exponent then (x.mantissa * 2 ^ x.exponent.toNat, 1)
  else (x.mantissa, 2 ^ (-x.exponent).toNat)

/-- The double nearest to a natural number. -/
def ofNat? (n : Nat) : Option Double :=
  ofRatio false n 1

/-- The product of two doubles, rounded once. -/
def mul (x y : Double) : Option Double :=
  let (a, b) := x.ratio
  let (c, d) := y.ratio
  ofRatio (x.negative != y.negative) (a * c) (b * d)

/-- The quotient of two doubles, rounded once; absent when the divisor is zero. -/
def div (x y : Double) : Option Double :=
  let (a, b) := x.ratio
  let (c, d) := y.ratio
  if c = 0 then none else ofRatio (x.negative != y.negative) (a * d) (b * c)

/-- The sum of the magnitudes of two doubles, rounded once. -/
def addMagnitudes (x y : Double) : Option Double :=
  let (a, b) := x.ratio
  let (c, d) := y.ratio
  ofRatio false (a * d + c * b) (b * d)

/-- The magnitude of a double rounded to an integer, a half going up. -/
def roundMagnitude (x : Double) : Option Double :=
  let (a, b) := x.ratio
  ofRatio false ((2 * a + b) / (2 * b)) 1

/-- Whether a double is zero, of either sign. -/
def isZero (x : Double) : Bool :=
  x.mantissa == 0

/-- The double of the opposite sign. -/
def neg (x : Double) : Double :=
  { x with negative := !x.negative }

/-- Two doubles are equal as numbers: the two zeros are equal, all others only to themselves. -/
def sameValue (x y : Double) : Bool :=
  x == y || (x.isZero && y.isZero)

/-- The double nearest to a power of ten. -/
def powerOfTen? (exponent : Nat) : Option Double :=
  ofNat? (10 ^ exponent)

/-- The greatest power of ten that is used as one factor or divisor. -/
def greatestPower : Nat := 308

/-- A double divided by a power of ten, in one division or, beyond the greatest power, in
several. -/
def overPowerOfTen? (x : Double) (exponent : Nat) : Option Double := do
  if exponent ≤ greatestPower then x.div (← powerOfTen? exponent)
  else if x.isZero then some x
  else
    (← x.div (← powerOfTen? greatestPower)).overPowerOfTen? (exponent - greatestPower)
termination_by exponent
decreasing_by
  simp only [greatestPower] at *
  omega

/-- A double multiplied by a power of ten in one multiplication. -/
def timesPowerOfTen? (x : Double) (exponent : Nat) : Option Double := do
  if exponent ≤ greatestPower then x.mul (← powerOfTen? exponent)
  else if x.isZero then some x
  else none

/-- The double for a significand and a power of ten: the doubles of both are multiplied or divided,
so the last bit may differ from that of the nearest double. Absent when it is too large. -/
def ofSignificand? (negative : Bool) (significand : Nat) (exponent : Int) : Option Double := do
  let magnitude ← ofNat? significand
  let scaled ←
    if 0 ≤ exponent then magnitude.timesPowerOfTen? exponent.toNat
    else magnitude.overPowerOfTen? (-exponent).toNat
  some { scaled with negative }

end Double

end DocumentMapping
