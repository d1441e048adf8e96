import DocumentMapping.Text.CharSet

/-!
# White space

The characters that are trimmed from both ends of names, hints and texts to be converted.
-/

namespace DocumentMapping.Text

/-- The characters with the property White_Space. -/
def blankSet : CharSet where
  flips := #[
    0x9, 0xE, 0x20, 0x21, 0x85, 0x86, 0xA0, 0xA1, 0x1680, 0x1681, 0x2000, 0x200B, 0x2028,
    0x202A, 0x202F, 0x2030, 0x205F, 0x2060, 0x3000, 0x3001]

/-- Whether a character is white space. -/
def isBlank (c : Char) : Bool :=
  blankSet.contains c

/-- The characters of a text without the white space at its two ends. -/
def trimChars (text : List Char) : List Char :=
  ((text.dropWhile isBlank).reverse.dropWhile isBlank).reverse

/-- A text without the white space at its two ends. -/
def trim (text : String) : String :=
  String.ofList (trimChars text.toList)

/-- Whether a text holds nothing but white space. -/
def allBlank (text : String) : Bool :=
  text.toList.all isBlank

end DocumentMapping.Text
