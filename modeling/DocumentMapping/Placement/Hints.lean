import DocumentMapping.OrderedMap
import DocumentMapping.Path.Basic
import DocumentMapping.Text.Blank
import DocumentMapping.Text.Quoted

/-!
# Placement hints

A hint text is a list of pairs `tag=value`, separated by semicolons or commas. A number pins a tag
of the destination to an item, nothing or `null` makes every write under the tag append, and a run
of asterisks renames that run of the source to the tag.
-/

namespace DocumentMapping

/-- Where in an array a write goes. -/
inductive ItemHint where
  /-- After the last item. -/
  | append
  /-- To the item at a position. -/
  | position (index : Nat)
deriving DecidableEq, Repr, Inhabited

/-- A hint as listings show it. -/
def ItemHint.text : ItemHint → String
  | .append => "None"
  | .position index => "Some(" ++ toString index ++ ")"

/-- The hints by destination tag. -/
abbrev Placement := OrderedMap ItemHint

/-- The destination tags that replace wildcard runs of the source. -/
abbrev Renames := OrderedMap String

namespace Placement

/-- The entries in the order of their tags. -/
def sorted (placement : Placement) : List (String × ItemHint) :=
  placement.mergeSort fun x y => x.1 ≤ y.1

/-- A listing of keys with texts, in braces. -/
def listing (entries : List (String × String)) : String :=
  "\x7b" ++ ", ".intercalate (entries.map fun (key, text) => Text.quoted key ++ ": " ++ text) ++
    "\x7d"

/-- The listing of the hints in the order of their tags. -/
def text (placement : Placement) : String :=
  listing (placement.sorted.map fun (tag, hint) => (tag, hint.text))

/-- The position that an index of a path takes in an array of the given length. A fixed position is
taken as it is; without a hint a single asterisk appends and any other tag takes the last item. -/
def resolve (placement : Placement) (index : PathIndex) (length : Nat) : Nat :=
  match index with
  | .static position => position.toNat
  | _ =>
    match index.tag?.bind placement.get? with
    | some (.position position) => position
    | some .append => length
    | none => if index = .wildcard 1 then length else length - 1

end Placement

/-- The tag under which an index of the source steers the destination. -/
def Renames.resolve (renames : Renames) (tag : String) : String :=
  (renames.get? tag).getD tag

/-- What a hint text says. -/
structure Hints where
  placement : Placement
  renames : Renames
deriving DecidableEq, Repr, Inhabited

/-- What is wrong with a pair of a hint text. -/
inductive HintProblem where
  | noPair (text : String)
  | invalidTag (tag : String)
  | positionOutOfRange (digits : String)
  | invalidValue (value : String)
deriving DecidableEq, Repr

/-- The wording of a problem. -/
def HintProblem.message : HintProblem → String
  | .noPair text => "'" ++ text ++ "' is not a tag=value pair"
  | .invalidTag tag => "'" ++ tag ++ "' is not a valid index tag"
  | .positionOutOfRange digits => "index '" ++ digits ++ "' is out of range"
  | .invalidValue value =>
    "'" ++ value ++ "' is neither an index, null, nor a wildcard marker"

namespace Hints

/-- No hints. -/
def none : Hints := ⟨[], []⟩

/-- Whether a character separates pairs. -/
def isSeparator (c : Char) : Bool :=
  c = ';' || c = ','

/-- Puts a character in front of the first of some texts. -/
def consFirst (c : Char) : List (List Char) → List (List Char)
  | [] => [[c]]
  | first :: rest => (c :: first) :: rest

/-- The texts between the separators. -/
def split : List Char → List (List Char)
  | [] => [[]]
  | c :: rest => if isSeparator c then [] :: split rest else consFirst c (split rest)

/-- The pairs of a hint text: what stands between separators, without blanks around it, unless it is
empty. -/
def pairs (text : List Char) : List (List Char) :=
  ((split text).map Text.trimChars).filter (!·.isEmpty)

/-- The two sides of the first equals sign. -/
def sides? (pair : List Char) : Option (List Char × List Char) :=
  match pair.dropWhile (· ≠ '=') with
  | [] => Option.none
  | _ :: value => some (pair.takeWhile (· ≠ '='), value)

/-- Whether a character may stand in a tag. -/
def isTagChar (c : Char) : Bool :=
  c.isAlphanum || c = '_' || c = '-'

/-- Whether a text can be a tag: a run of asterisks, or letters, digits, underscores and hyphens. -/
def isTag (text : List Char) : Bool :=
  isWildcardMarker text || (!text.isEmpty && text.all isTagChar)

/-- Whether a value asks for appending: it is empty, or the word null in any case. -/
def isAppend (value : List Char) : Bool :=
  value.isEmpty || value.map Char.toLower == ['n', 'u', 'l', 'l']

/-- Adds what a tag and its value say. -/
def add (hints : Hints) (tag value : List Char) : Except HintProblem Hints :=
  if !isTag tag then .error (.invalidTag (String.ofList tag))
  else if isAppend value then
    .ok { hints with placement := hints.placement.insert (String.ofList tag) .append }
  else if value.all Char.isDigit then
    if digitsValue value < 2 ^ 64 then
      .ok { hints with
        placement := hints.placement.insert (String.ofList tag) (.position (digitsValue value)) }
    else .error (.positionOutOfRange (String.ofList value))
  else if isWildcardMarker value then
    .ok { hints with renames := hints.renames.insert (String.ofList value) (String.ofList tag) }
  else .error (.invalidValue (String.ofList value))

/-- Adds what a pair says. -/
def addPair (hints : Hints) (pair : List Char) : Except HintProblem Hints :=
  match sides? pair with
  | Option.none => .error (.noPair (String.ofList pair))
  | some (tag, value) => hints.add (Text.trimChars tag) (Text.trimChars value)

/-- Reads a hint text. Of two pairs for one tag or run the later one holds. -/
def read (text : String) : Except HintProblem Hints :=
  (pairs text.toList).foldlM addPair none

/-- Reads an optional hint text. -/
def readOptional : Option String → Except HintProblem Hints
  | Option.none => .ok none
  | some text => read text

end Hints

end DocumentMapping
