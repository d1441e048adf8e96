/-!
# Lengths in bytes

Places in a text are counted in the bytes of its UTF-8 form.
-/

namespace DocumentMapping.Text

-- the zero of sums is that of the core library, whatever else is imported
attribute [local instance (2000)] Zero.ofOfNat0

/-- The bytes a text takes up. -/
def byteLength (text : List Char) : Nat :=
  (text.map Char.utf8Size).sum

end DocumentMapping.Text
