import DocumentMapping.Number.Double

/-!
# The shortest decimal that reads back

A double stands for every real number that rounds to it. Among the decimals in that interval the
shortest one is written, and among several of that length the one nearest to the double. The search
goes through the decimal grids of one, two, up to seventeen digits; on each grid only the two
neighbours of the double matter.
-/

namespace DocumentMapping

/-- A positive decimal number `digits * 10 ^ exponent`. -/
structure DecimalDigits where
  digits : Nat
  exponent : Int
deriving DecidableEq, Repr, Inhabited

/-- Which of two equally near decimals is taken. -/
inductive TieRule where
  /-- The one with an even last digit. -/
  | even
  /-- The greater one. -/
  | up
deriving DecidableEq, Repr

namespace Double

/-- Whether `digits * 10 ^ exponent` rounds to the positive double: it lies between the midpoints
to the two neighbours, a midpoint itself counting when the mantissa is even. -/
def roundsBack (x : Double) (digits : Nat) (exponent : Int) : Bool :=
  let (num, den) :=
    if 0 ≤ exponent then (digits * 10 ^ exponent.toNat, 1) else (digits, 10 ^ (-exponent).toNat)
  let above : Double := ⟨false, 2 * x.mantissa + 1, x.exponent - 1⟩
  let below : Double :=
    if x.mantissa = 2 ^ 52 ∧ leastExponent < x.exponent then
      ⟨false, 4 * x.mantissa - 1, x.exponent - 2⟩
    else
      ⟨false, 2 * x.mantissa - 1, x.exponent - 1⟩
  let (a, b) := above.ratio
  let (c, d) := below.ratio
  if x.mantissa % 2 = 0 then num * b ≤ a * den && c * den ≤ num * d
  else num * b < a * den && c * den < num * d

/-- The exponent of the first digit of a positive quotient: the greatest `k` with
`10 ^ k ≤ num / den`. -/
def leadingExponent (num den : Nat) : Int :=
  if den ≤ num then ((Nat.toDigits 10 (num / den)).length : Int) - 1
  else -((Nat.toDigits 10 ((den - 1) / num)).length : Int)

/-- The nearest integer to a quotient under a rule for ties. -/
def nearest (tie : TieRule) (num den : Nat) : Nat :=
  match tie with
  | .even => roundQuotient num den
  | .up => (2 * num + den) / (2 * den)

/-- On the grid of the multiples of `10 ^ exponent`, the neighbour of the double that reads back;
of two such neighbours the nearer one. -/
def onGrid? (tie : TieRule) (x : Double) (exponent : Int) : Option Nat :=
  let (a, b) := x.ratio
  let (num, den) :=
    if 0 ≤ exponent then (a, b * 10 ^ exponent.toNat) else (a * 10 ^ (-exponent).toNat, b)
  let low := num / den
  let nearer := nearest tie num den
  let farther := if nearer = low then low + 1 else low
  if nearer ≠ 0 && x.roundsBack nearer exponent then some nearer
  else if farther ≠ 0 && x.roundsBack farther exponent then some farther
  else none

/-- The first grid that holds a decimal reading back, from the given number of digits on. -/
def searchGrids (tie : TieRule) (x : Double) (leading : Int) (digits : Nat) : Nat → DecimalDigits
  | 0 => ⟨x.mantissa, x.exponent⟩
  | attempts + 1 =>
    let exponent := leading + 1 - digits
    match onGrid? tie x exponent with
    | some found => ⟨found, exponent⟩
    | none => searchGrids tie x leading (digits + 1) attempts

/-- The same decimal without zeros at the end of its digits. -/
def stripZeros (exponent : Int) (digits : Nat) : DecimalDigits :=
  if digits = 0 then ⟨0, exponent⟩
  else if digits % 10 = 0 then stripZeros (exponent + 1) (digits / 10)
  else ⟨digits, exponent⟩
termination_by digits
decreasing_by omega

/-- The shortest decimal that reads back as the magnitude of a double. -/
def shortest (tie : TieRule) (x : Double) : DecimalDigits :=
  if x.isZero then ⟨0, 0⟩
  else
    let (num, den) := x.ratio
    let found := searchGrids tie x (leadingExponent num den) 1 17
    stripZeros found.exponent found.digits

end Double

end DocumentMapping
