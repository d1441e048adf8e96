/-!
# Sets of characters

A property of characters is written as the code points at which membership changes. The form is
compact and its test is one count: a character belongs to the set when an odd number of changes
lie at or below it.
-/

namespace DocumentMapping.Text

/-- A set of characters, given by the code points at which membership changes, in increasing
order. The set begins at the first change, ends just before the second, and so on. -/
structure CharSet where
  flips : Array Nat

namespace CharSet

/-- The number of changes of membership at or below a code point. -/
def changesUpTo (s : CharSet) (codePoint : Nat) : Nat :=
  s.flips.foldl (fun count flip => if flip ≤ codePoint then count + 1 else count) 0

/-- A character is a member when an odd number of changes lie at or below it. -/
def contains (s : CharSet) (c : Char) : Bool :=
  s.changesUpTo c.toNat % 2 == 1

end CharSet

end DocumentMapping.Text
