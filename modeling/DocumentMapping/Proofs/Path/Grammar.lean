import DocumentMapping.Number.Digits
import DocumentMapping.Path.Parser

/-!
# The grammar of path texts

A path text is a dollar sign and then one element or more:

    element := "." bareName index? | "."? "['" literal "']" index?
    index   := "[" ( "*"+ | digits | tag ) "]"
    tag     := word ( "-" digits )?

A derivation is the tree of such a text, independent of how texts are read: it can be written, and
it denotes the elements of a path. The conditions of the grammar are part of the trees. What
consists of digits is a position and no tag.
-/

namespace DocumentMapping.PathText

/-! ## Names -/

/-- A written character of a literal: itself, or after a backslash when it is a quote or a
backslash. -/
inductive LiteralChar where
  | plain (c : Char) (isPlain : c ≠ '\'' ∧ c ≠ '\\')
  | escaped (c : Char) (needsEscape : c = '\'' ∨ c = '\\')

namespace LiteralChar

/-- The written character. -/
def chars : LiteralChar → List Char
  | plain c _ => [c]
  | escaped c _ => ['\\', c]

/-- The character that is meant. -/
def value : LiteralChar → Char
  | plain c _ => c
  | escaped c _ => c

/-- The written form of a character. -/
def ofChar (c : Char) : LiteralChar :=
  if h : c = '\'' ∨ c = '\\' then escaped c h else plain c (not_or.mp h)

@[simp] theorem value_ofChar (c : Char) : (ofChar c).value = c := by
  unfold ofChar
  split <;> rfl

theorem chars_ofChar (c : Char) : (ofChar c).chars = PathElement.quotedChar c := by
  unfold ofChar PathElement.quotedChar
  split <;> rfl

/-- Each character has one written form. -/
theorem ofChar_value (item : LiteralChar) : ofChar item.value = item := by
  cases item with
  | plain c isPlain => exact dif_neg (not_or.mpr isPlain)
  | escaped c needsEscape => exact dif_pos needsEscape

theorem value_injective : Function.Injective value := by
  intro first second h
  rw [← ofChar_value first, ← ofChar_value second, h]

end LiteralChar

/-- A written name: after a dot, or quoted in brackets with or without a dot. -/
inductive WrittenName where
  | bare (name : List Char) (isBare : PathElement.isBareName name = true)
  | quoted (isDotted : Bool) (literal : List LiteralChar)

namespace WrittenName

/-- The text of a name. -/
def chars : WrittenName → List Char
  | bare name _ => '.' :: name
  | quoted isDotted literal =>
    (if isDotted then ['.'] else []) ++ '[' :: '\'' :: literal.flatMap LiteralChar.chars ++
      ['\'', ']']

/-- The name that is meant. -/
def value : WrittenName → List Char
  | bare name _ => name
  | quoted _ literal => literal.map LiteralChar.value

/-- The canonical form of a name: without quotes where that is possible. -/
def ofName (name : List Char) : WrittenName :=
  if h : PathElement.isBareName name = true then bare name h
  else quoted false (name.map .ofChar)

@[simp] theorem value_ofName (name : List Char) : (ofName name).value = name := by
  unfold ofName
  split
  · rfl
  · simp [value, Function.comp_def]

theorem chars_ofName (name : List Char) : (ofName name).chars = PathElement.nameChars name := by
  unfold ofName PathElement.nameChars
  split
  · rfl
  · simp [chars, List.flatMap_map, LiteralChar.chars_ofChar]

end WrittenName

/-! ## Indexes -/

/-- A written tag: a word, which a hyphen and digits may follow. Digits alone are no tag. -/
structure WrittenTag where
  word : List Char
  number : Option (List Char)
  word_ne_nil : word ≠ []
  isWord : ∀ c ∈ word, isTagChar c = true
  isNumber : ∀ digits ∈ number, isDigits digits = true
  notDigits : number = none → isDigits word = false

namespace WrittenTag

/-- The text of a hyphen and digits after a tag. -/
def ending : Option (List Char) → List Char
  | none => []
  | some digits => '-' :: digits

/-- The text of a tag. -/
def chars (tag : WrittenTag) : List Char :=
  tag.word ++ ending tag.number

end WrittenTag

/-- What can be written between the brackets of an index: a run of asterisks, a position or a
tag. -/
inductive WrittenIndex where
  | run (length : Nat) (length_pos : 0 < length)
  | position (digits : List Char) (isDigits : isDigits digits = true)
  | tag (written : WrittenTag)

namespace WrittenIndex

/-- The text between the brackets. -/
def content : WrittenIndex → List Char
  | run length _ => List.replicate length '*'
  | position digits _ => digits
  | tag written => written.chars

/-- The text of an index. -/
def chars (index : WrittenIndex) : List Char :=
  '[' :: index.content ++ [']']

/-- The index that is meant. -/
def value : WrittenIndex → PathIndex
  | run length _ => .wildcard length
  | position digits _ => .static (UInt32.ofNat (digitsValue digits))
  | tag written => .named (String.ofList written.chars)

/-- A position must be below 2³². -/
def InRange : WrittenIndex → Prop
  | position digits _ => digitsValue digits < 2 ^ 32
  | _ => True

end WrittenIndex

/-! ## Elements and paths -/

/-- A written element: a name and, if there is one, an index. -/
structure WrittenElement where
  name : WrittenName
  index : Option WrittenIndex

namespace WrittenElement

/-- The text of an index that may be missing. -/
def indexChars : Option WrittenIndex → List Char
  | none => []
  | some index => index.chars

/-- The index that is meant. -/
def indexValue : Option WrittenIndex → PathIndex
  | none => .none
  | some index => index.value

/-- The text of an element. -/
def chars (element : WrittenElement) : List Char :=
  element.name.chars ++ indexChars element.index

/-- The element that is meant. -/
def value (element : WrittenElement) : PathElement :=
  ⟨String.ofList element.name.value, indexValue element.index⟩

/-- Whether the position of an element, if it has one, is below 2³². -/
def InRange (element : WrittenElement) : Prop :=
  ∀ index ∈ element.index, index.InRange

end WrittenElement

/-- A derivation of a text whose positions are below 2³² and whose elements form a path. -/
structure Derives (tree : List WrittenElement) (text : List Char) : Prop where
  text_eq : text = '$' :: tree.flatMap WrittenElement.chars
  nonempty : tree ≠ []
  inRange : ∀ element ∈ tree, element.InRange
  consistent : ∃ path, Path.ofElements (tree.map WrittenElement.value) = .ok path

end DocumentMapping.PathText
