import DocumentMapping.Number.Digits
import DocumentMapping.Number.Shortest

/-!
# Written doubles

A double has two written forms. The JSON form is positional between `10 ^ -5` and `10 ^ 16` and has
an exponent outside; it always shows that it is not an integer. The plain form is positional
throughout. Where two shortest decimals are equally near, the JSON form takes the even one and the
plain form the greater one.
-/

namespace DocumentMapping

namespace DecimalDigits

/-- The number of digits before the decimal point in positional notation; negative when zeros follow
the point. -/
def point (d : DecimalDigits) : Int :=
  (digitChars d.digits).length + d.exponent

/-- Positional notation; `wholeTail` follows a number without a fraction. -/
def positional (d : DecimalDigits) (wholeTail : List Char) : List Char :=
  let digits := digitChars d.digits
  if 0 ≤ d.exponent then
    digits ++ List.replicate d.exponent.toNat '0' ++ wholeTail
  else if 0 < d.point then
    digits.take d.point.toNat ++ '.' :: digits.drop d.point.toNat
  else
    '0' :: '.' :: List.replicate (-d.point).toNat '0' ++ digits

/-- Notation with an exponent that always has its sign. -/
def scientific (d : DecimalDigits) : List Char :=
  let digits := digitChars d.digits
  let power := d.point - 1
  let sign := if power < 0 then '-' else '+'
  digits.take 1 ++ (if digits.length ≤ 1 then [] else '.' :: digits.drop 1) ++
    'e' :: sign :: digitChars power.natAbs

end DecimalDigits

namespace Double

/-- The sign of a number that is written in front of its digits. -/
def signChars (negative : Bool) : List Char :=
  if negative then ['-'] else []

/-- The JSON form of a double: positional when the decimal point lies within sixteen digits after
the first digit or at most four zeros before it. -/
def jsonChars (x : Double) : List Char :=
  let d := shortest .even x
  signChars x.negative ++
    (if x.isZero || (-5 < d.point && d.point ≤ 16) then d.positional ['.', '0'] else d.scientific)

/-- The plain form of a double, positional throughout. -/
def plainChars (x : Double) : List Char :=
  signChars x.negative ++ (shortest .up x).positional []

end Double

end DocumentMapping
