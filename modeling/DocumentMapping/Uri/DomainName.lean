import DocumentMapping.Uri.Direction
import DocumentMapping.Uri.Joining
import DocumentMapping.Uri.NameForm
import DocumentMapping.Uri.Punycode
import DocumentMapping.Text.Mark
import DocumentMapping.Text.Split

/-!
# Domain names

A domain name is a list of labels with dots between them. It is brought to its usual form, and
labels with characters beyond ASCII are written in ASCII after a mark. A label that comes with the
mark has to stand for a label in usual form.
-/

namespace DocumentMapping.Uri

/-- Whether a character of ASCII cannot be part of a domain name. -/
def isForbiddenInDomain (c : Char) : Bool :=
  c.toNat ≤ 0x20 || c.toNat = 0x7f ||
    ['#', '/', ':', '<', '>', '?', '@', '[', '\\', ']', '^', '|', '%'].contains c

/-- The mark of labels that are written in ASCII for others. -/
def encodedMark : List Char := ['x', 'n', '-', '-']

/-- The number of characters that a written label may hold after its mark. -/
def maxEncodedLength : Nat := 2000

/-- The number of characters that a label may hold when one of them is beyond ASCII. -/
def maxLabelLength : Nat := 1000

/-- Whether a label in usual form can be part of a name. -/
def isLabel (label : List Char) : Bool :=
  !label.any isForbiddenInDomain && !label.head?.any Text.isMark && joinersFit [] label &&
    (label.all (·.toNat < 128) || label.length ≤ maxLabelLength)

/-- The label that stands for a written one. -/
def decodeLabel? (text : List Char) : Option (List Char) := do
  let label ← Punycode.decode? text
  if label.all isUsual && Text.composed label = label then some label else none

/-- The label of a text between dots. -/
def label? (text : List Char) : Option (List Char) := do
  let label ←
    if text.take 4 = encodedMark then
      if text.getLast? = some '-' || maxEncodedLength < text.length - 4 then none
      else decodeLabel? (text.drop 4)
    else some text
  if isLabel label then some label else none

/-- A label in ASCII. -/
def asciiLabel (label : List Char) : List Char :=
  if label.all (·.toNat < 128) then label else encodedMark ++ Punycode.encode label

/-- A domain name in lower-case ASCII. -/
def domain? (name : List Char) : Option (List Char) := do
  let labels ← (Text.splitOn '.' (← usualName? name)).mapM label?
  let ascii := ['.'].intercalate (labels.map asciiLabel)
  if directionsAgree labels && !ascii.isEmpty then some ascii else none

end DocumentMapping.Uri
