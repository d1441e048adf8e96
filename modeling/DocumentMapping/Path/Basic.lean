import DocumentMapping.Text.Alphanumeric
import DocumentMapping.Number.DoubleText

/-!
# Paths

A path is a list of elements. Each element names a property of an object and may index into the
array that the property holds: at a fixed position, or at a position that is decided while mapping
and marked by a wildcard run or a named tag. The canonical text of a path is defined here too.
-/

namespace DocumentMapping

/-- How an element addresses the value of its property. -/
inductive PathIndex where
  /-- The value itself. -/
  | none
  /-- The item at a fixed position of an array. -/
  | static (position : UInt32)
  /-- An item of an array, marked by a run of asterisks of the given length. -/
  | wildcard (run : Nat)
  /-- An item of an array, marked by a name. -/
  | named (tag : String)
deriving DecidableEq, Repr, Inhabited

namespace PathIndex

/-- Whether the index selects an item of an array. -/
def isIndexed : PathIndex → Bool
  | .none => false
  | _ => true

/-- Whether the position is decided while mapping. -/
def isDynamic : PathIndex → Bool
  | .wildcard _ => true
  | .named _ => true
  | _ => false

/-- The run of asterisks that marks a wildcard. -/
def marker (run : Nat) : String :=
  String.ofList (List.replicate run '*')

/-- The tag under which an index is correlated and hinted: the digits of a fixed position, the run
of a wildcard, or the name. -/
def tag? : PathIndex → Option String
  | .none => Option.none
  | .static position => some (String.ofList (digitChars position.toNat))
  | .wildcard run => some (marker run)
  | .named tag => some tag

/-- The fixed position, if there is one. -/
def static? : PathIndex → Option UInt32
  | .static position => some position
  | _ => Option.none

/-- The written index: its tag in brackets, or nothing. -/
def chars (index : PathIndex) : List Char :=
  match index.tag? with
  | Option.none => []
  | some tag => '[' :: tag.toList ++ [']']

/-- The text of the written index. -/
def text (index : PathIndex) : String :=
  String.ofList index.chars

end PathIndex

/-- Whether a text is a wildcard marker: one or more asterisks and nothing else. -/
def isWildcardMarker (text : List Char) : Bool :=
  !text.isEmpty && text.all (· = '*')

/-- One step of a path: the name of a property and how its value is addressed. -/
structure PathElement where
  name : String
  index : PathIndex
deriving DecidableEq, Repr, Inhabited

/-- Whether a character may stand in a name without quotes. -/
def isBareNameChar (c : Char) : Bool :=
  Text.isAlphanumeric c || c = '_' || c = '-' || c = '@'

namespace PathElement

/-- An element that addresses the value of a property itself. -/
def property (name : String) : PathElement := ⟨name, .none⟩

/-- An element that addresses the item at a fixed position. -/
def item (name : String) (position : UInt32) : PathElement := ⟨name, .static position⟩

/-- The tag of the element's index. -/
def tag? (element : PathElement) : Option String :=
  element.index.tag?

/-- A name is written without quotes when it is not empty and has only the characters for it. -/
def isBareName (name : List Char) : Bool :=
  !name.isEmpty && name.all isBareNameChar

/-- A character of a quoted name: quotes and backslashes follow a backslash. -/
def quotedChar (c : Char) : List Char :=
  if c = '\'' ∨ c = '\\' then ['\\', c] else [c]

/-- A written name: after a dot, or quoted in brackets. -/
def nameChars (name : List Char) : List Char :=
  if isBareName name then '.' :: name
  else '[' :: '\'' :: name.flatMap quotedChar ++ ['\'', ']']

/-- The written element. -/
def chars (element : PathElement) : List Char :=
  nameChars element.name.toList ++ element.index.chars

/-- The text of the written element. -/
def text (element : PathElement) : String :=
  String.ofList element.chars

end PathElement

/-- A path: its elements in order. -/
structure Path where
  elements : List PathElement
deriving DecidableEq, Repr, Inhabited

namespace Path

/-- The path of a table's column: the items of the row array, and in each the property named by the
column's title. -/
def tabularColumn (row title : String) : Path :=
  ⟨[⟨row, .wildcard 1⟩, .property title]⟩

/-- The elements that select items, with their places in the path. -/
def indexed (path : Path) : List (Nat × PathElement) :=
  (path.elements.zipIdx.filter (·.1.index.isIndexed)).map fun (element, place) => (place, element)

/-- Whether any element selects an item. -/
def hasIndexers (path : Path) : Bool :=
  path.elements.any (·.index.isIndexed)

/-- Whether the path can address more than one location. -/
def isMultiple (path : Path) : Bool :=
  path.elements.any (·.index.isDynamic)

/-- The tags of the indexed elements in order. -/
def tags (path : Path) : List String :=
  path.elements.filterMap PathElement.tag?

/-- The tags of the elements whose position is decided while mapping. -/
def dynamicTags (path : Path) : List String :=
  (path.elements.filter (·.index.isDynamic)).filterMap PathElement.tag?

/-- The written path: a dollar sign and the elements. -/
def chars (path : Path) : List Char :=
  '$' :: path.elements.flatMap PathElement.chars

/-- The canonical text of a path. -/
def text (path : Path) : String :=
  String.ofList path.chars

end Path

end DocumentMapping
