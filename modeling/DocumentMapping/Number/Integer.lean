import DocumentMapping.Number.DecimalText

/-!
# Reading integers

An integer text has an optional sign and at least one digit, and its value has 64 bits.
-/

namespace DocumentMapping

/-- Reads an integer of 64 bits. -/
def readInt64? (text : List Char) : Option Int64 :=
  let (negative, digits) := match text with
    | '-' :: rest => (true, rest)
    | '+' :: rest => (false, rest)
    | _ => (false, text)
  if !isDigits digits then none
  else
    let magnitude : Int := digitsValue digits
    let value := if negative then -magnitude else magnitude
    if -2 ^ 63 ≤ value ∧ value < 2 ^ 63 then some (Int64.ofInt value) else none

end DocumentMapping
