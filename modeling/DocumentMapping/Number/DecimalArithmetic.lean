import DocumentMapping.Number.DecimalText

/-!
# Decimal arithmetic

Sum, difference and product are exact when the result fits, and otherwise drop the fewest digits.
A quotient is extended place by place while a remainder is left. An absent result is an overflow.
-/

namespace DocumentMapping.Decimal

/-- The decimal of a signed mantissa. -/
def ofSigned? (mantissa : Int) (scale : Nat) : Option Decimal :=
  fit? (mantissa < 0) mantissa.natAbs scale

/-- The sum. A zero gives the other operand unchanged; otherwise the result has the larger number
of places when it fits. -/
def add? (x y : Decimal) : Option Decimal :=
  if x.isZero then some y
  else if y.isZero then some x
  else
    let scale := max x.scale y.scale
    ofSigned? (x.signed * 10 ^ (scale - x.scale) + y.signed * 10 ^ (scale - y.scale)) scale

/-- The difference, under the rules of the sum. -/
def sub? (x y : Decimal) : Option Decimal :=
  if x.isZero then some (if y.isZero then y else y.neg)
  else if y.isZero then some x
  else
    let scale := max x.scale y.scale
    ofSigned? (x.signed * 10 ^ (scale - x.scale) - y.signed * 10 ^ (scale - y.scale)) scale

/-- The product, with the places of both operands when it fits. A zero gives plain zero, and so does
a product of mantissas of 32 bits that has more than forty-seven places. Of the products that are
rounded to zero only those of such mantissas lose their sign. -/
def mul? (x y : Decimal) : Option Decimal :=
  let product := fit? (x.negative != y.negative) (x.mantissa * y.mantissa) (x.scale + y.scale)
  if x.isZero || y.isZero then some zero
  else if x.mantissa < 2 ^ 32 ∧ y.mantissa < 2 ^ 32 then
    if 47 < x.scale + y.scale then some zero else product.map unsignedZero
  else product

/-- Rounds a mantissa to one digit less, a half going to the even neighbour; `more` says that
something was cut off below it. -/
def dropDigit (mantissa : Nat) (more : Bool) : Nat :=
  let low := mantissa % 10
  let high := mantissa / 10
  if low > 5 || (low == 5 && (more || high % 2 == 1)) then high + 1 else high

/-- The largest number of further digits, at most nine, that mantissa and places leave room for. -/
def roomFor (mantissa : Nat) (scale : Int) : Nat :=
  ((List.range 10).filter fun (p : Nat) =>
    scale + (p : Int) ≤ 28 && mantissa * 10 ^ p < 2 ^ 96).foldl max 0

/-- Extends a quotient with its remainder until nothing remains or there is no more room. Gives the
mantissa, the places and whether a remainder was ever left. -/
def extendQuotient (divisor : Nat) (mantissa remainder : Nat) (scale : Int) (inexact : Bool) :
    Nat → Option (Nat × Int × Bool)
  | 0 => none
  | steps + 1 =>
    if remainder = 0 ∧ 0 ≤ scale then
      some (mantissa, scale, inexact)
    else
      let inexact := inexact || remainder != 0
      let room := if remainder = 0 then min 9 (-scale).toNat else roomFor mantissa scale
      if room = 0 then
        if scale < 0 then none
        else
          let rounded :=
            if 2 * remainder > divisor || (2 * remainder == divisor && mantissa % 2 == 1) then
              mantissa + 1
            else mantissa
          if rounded < 2 ^ 96 then some (rounded, scale, inexact)
          else if scale = 0 then none
          else some (dropDigit rounded true, scale - 1, inexact)
      else
        let grown := mantissa * 10 ^ room
        let scaled := remainder * 10 ^ room
        let next := grown + scaled / divisor
        let left := scaled % divisor
        let scale := scale + room
        if 2 ^ 96 ≤ grown then none
        else if 2 ^ 96 ≤ next then
          if scale ≤ 0 then none else some (dropDigit next (left != 0), scale - 1, inexact)
        else extendQuotient divisor next left scale inexact steps

/-- Takes zeros off the end of a quotient: eight at a time while the low 32 bits are zero, then
four, two and one. -/
def stripQuotient (mantissa scale : Nat) : Nat × Nat :=
  let (m, s) := dropEights mantissa scale 4
  let (m, s) := drop 4 m s
  let (m, s) := drop 2 m s
  drop 1 m s
where
  /-- Takes off exactly `count` zeros, if they are there. -/
  drop (count mantissa scale : Nat) : Nat × Nat :=
    if count ≤ scale ∧ mantissa % 10 ^ count = 0 then (mantissa / 10 ^ count, scale - count)
    else (mantissa, scale)
  /-- Takes off eight zeros as long as the low 32 bits are zero. -/
  dropEights (mantissa scale : Nat) : Nat → Nat × Nat
    | 0 => (mantissa, scale)
    | steps + 1 =>
      if mantissa % 2 ^ 32 = 0 ∧ 8 ≤ scale ∧ mantissa % 10 ^ 8 = 0 then
        dropEights (mantissa / 10 ^ 8) (scale - 8) steps
      else (mantissa, scale)

/-- The quotient of a decimal by one that is not zero. A zero gives plain zero. -/
def div? (x y : Decimal) : Option Decimal :=
  if y.isZero then none
  else if x.isZero then some zero
  else do
    let (mantissa, scale, inexact) ←
      extendQuotient y.mantissa (x.mantissa / y.mantissa) (x.mantissa % y.mantissa)
        ((x.scale : Int) - y.scale) false 64
    let (mantissa, scale) :=
      if inexact then stripQuotient mantissa scale.toNat else (mantissa, scale.toNat)
    ofParts? ((x.negative != y.negative) && mantissa != 0) mantissa scale

/-- Adds the divisor to a difference until it is not negative any more. -/
def addBack (divisor : Nat) (difference : Int) : Nat → Nat
  | 0 => difference.toNat
  | steps + 1 =>
    if difference < 0 then addBack divisor (difference + divisor) steps else difference.toNat

/-- A step of a long division by a divisor of 96 bits whose first bit is set: the next word of the
dividend is appended to the remainder, and a multiple of the divisor taken away. The multiple is
estimated from the leading words and kept to 32 bits. When the remainder begins with the leading
word of the divisor, the estimate has one bit more, and what is taken away is too little. -/
def divisionStep (divisor remainder word : Nat) : Nat :=
  let window := remainder * 2 ^ 32 + word
  let leading := divisor / 2 ^ 64
  let estimate := window / 2 ^ 64 / leading % 2 ^ 32
  let rest := window / 2 ^ 64 % leading * 2 ^ 64 + window % 2 ^ 64
  let taken := estimate * (divisor % 2 ^ 64)
  addBack divisor (Int.subNatNat rest taken) 3

/-- The words of 32 bits of a number below `2 ^ (32 * count)`, the most significant one first. -/
def words (number : Nat) (count : Nat) : List Nat :=
  (List.range count).reverse.map fun place => number / 2 ^ (32 * place) % 2 ^ 32

/-- What a division by a divisor of more than 64 bits leaves, word by word. -/
def wideRemainder (dividend divisor : Nat) : Nat :=
  let shift := 95 - divisor.log2
  (words (dividend * 2 ^ shift) 7).foldl (divisionStep (divisor * 2 ^ shift)) 0 / 2 ^ shift

/-- The remainder of a decimal by one that is not zero. It has the sign of the dividend; a smaller
dividend is its own remainder. -/
def rem? (x y : Decimal) : Option Decimal :=
  if y.isZero then none
  else if x.isZero then some zero
  else
    let scale := max x.scale y.scale
    let a := x.mantissa * 10 ^ (scale - x.scale)
    let b := y.mantissa * 10 ^ (scale - y.scale)
    if a = b then some zero
    else if a < b then some x
    else
      let rest := if b < 2 ^ 64 then a % b else wideRemainder a b
      (ofParts? x.negative rest scale).map unsignedZero

/-- One more than the integral part is within bounds when something follows the point. -/
theorem wholePart_succ_lt (x : Decimal) (h : ¬x.isIntegral) : x.wholePart + 1 < 2 ^ 96 := by
  have hscale : x.scale ≠ 0 := by
    intro hzero
    simp [isIntegral, hzero, Nat.mod_one] at h
  have hpow : 10 ≤ 10 ^ x.scale := Nat.le_self_pow hscale 10
  have hdiv : x.mantissa / 10 ^ x.scale ≤ x.mantissa / 10 := Nat.div_le_div_left hpow (by decide)
  have hbound := x.mantissa_lt
  simp only [wholePart]
  omega

/-- The greatest integer that is not above a decimal. -/
def floor (x : Decimal) : Decimal :=
  if h : x.isIntegral then x.truncate
  else if x.negative then ⟨true, x.wholePart + 1, 0, wholePart_succ_lt x h, zero.scale_le⟩
  else x.truncate

/-- The least integer that is not below a decimal; one between -1 and 0 gives a negative zero. -/
def ceiling (x : Decimal) : Decimal :=
  if h : x.isIntegral then x.truncate
  else if x.negative then x.truncate
  else ⟨false, x.wholePart + 1, 0, wholePart_succ_lt x h, zero.scale_le⟩

/-- The double of a decimal. A decimal without places gives the nearest double. Otherwise the
doubles of the integral part and of the places are added, and the sum is rounded to the places in
double arithmetic. Only a decimal with places gives a negative zero. -/
def toDouble? (x : Decimal) : Option Double := do
  let magnitude ←
    if x.scale = 0 then Double.ofNat? x.mantissa
    else do
      let whole ← Double.ofNat? x.wholePart
      let power ← Double.ofNat? (10 ^ x.scale)
      let places ← (← Double.ofNat? (x.mantissa % 10 ^ x.scale)).div power
      if places.isZero then some whole
      else do
        let sum ← whole.addMagnitudes places
        (← (← sum.mul power).roundMagnitude).div power
  some { magnitude with negative := x.negative && !(x.scale == 0 && x.isZero) }

/-- The double of a decimal, when its plain text reads back as the same number. -/
def exactDouble? (x : Decimal) : Option Double := do
  let double ← x.toDouble?
  let back ← ofPositional? double.plainChars
  if back.sameValue x then some double else none

end DocumentMapping.Decimal
