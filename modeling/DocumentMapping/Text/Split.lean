/-!
# Texts with separators

A text with separators is cut into the parts between them. There is one part more than separators.
-/

namespace DocumentMapping.Text

/-- Cuts a text at every occurrence of a separator. -/
def splitOn (separator : Char) : List Char → List (List Char)
  | [] => [[]]
  | c :: rest =>
    if c = separator then [] :: splitOn separator rest
    else
      match splitOn separator rest with
      | [] => [[c]]
      | part :: parts => (c :: part) :: parts

end DocumentMapping.Text
