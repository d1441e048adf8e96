import DocumentMapping.Text.Printable

/-!
# Quoted texts in messages

A message shows a text in double quotes. Quotes, backslashes and the usual controls have short
escapes; every other character that a reader could not see or that would attach to its neighbour is
given by its code point.
-/

namespace DocumentMapping.Text

/-- Whether a character would not be visible on its own. -/
def needsCodePoint (c : Char) : Bool :=
  combiningSet.contains c || (hiddenSet.contains c && c != ' ')

/-- A character of a quoted text. -/
def quotedChar (c : Char) : List Char :=
  if c = '\x00' then ['\\', '0']
  else if c = '\t' then ['\\', 't']
  else if c = '\r' then ['\\', 'r']
  else if c = '\n' then ['\\', 'n']
  else if c = '"' then ['\\', '"']
  else if c = '\\' then ['\\', '\\']
  else if needsCodePoint c then '\\' :: 'u' :: '\x7b' :: Nat.toDigits 16 c.toNat ++ ['\x7d']
  else [c]

/-- A text in double quotes. -/
def quotedChars (text : List Char) : List Char :=
  '"' :: text.flatMap quotedChar ++ ['"']

/-- A text in double quotes. -/
def quoted (text : String) : String :=
  String.ofList (quotedChars text.toList)

end DocumentMapping.Text
