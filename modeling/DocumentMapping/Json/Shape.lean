import DocumentMapping.Json.Skipping

/-!
# Reading values of a known shape

Readers for texts, truth values, counts, options, lists, choices of names, and records. A record is
written as an object of its fields or as a list of them in order. Fields that are left out keep
their default unless they are required, unknown ones are passed over, and none may be given twice. A
fault of a whole container is placed behind it.
-/

namespace DocumentMapping.Json

/-- A reader of a value of a known shape, given how deep containers may still be nested. -/
abbrev Shape (α : Type) := Nat → Reader α

/-- What is found at the start of a text. A container stays unread. -/
def found (text : List Char) : Except Fault (Found × List Char) :=
  match text with
  | [] => stopBefore .expectedValue []
  | c :: rest =>
    if c = 'n' then (word ['u', 'l', 'l'] rest).map (.null, ·)
    else if c = 't' then (word ['r', 'u', 'e'] rest).map (.boolean true, ·)
    else if c = 'f' then (word ['a', 'l', 's', 'e'] rest).map (.boolean false, ·)
    else if c = '-' then (numberAfterSign true rest).map fun (n, rest) => (.number n, rest)
    else if c.isDigit then (numberAfterSign false text).map fun (n, rest) => (.number n, rest)
    else if c = '"' then (stringAfterQuote rest).map fun (s, rest) => (.string s, rest)
    else if c = '[' then .ok (.array, text)
    else if c = '\x7b' then .ok (.object, text)
    else stopBefore .expectedValue text

/-- Refuses a value because of its type. -/
def wrongType {α : Type} (expected : String) (text : List Char) : Except Fault α :=
  match found text with
  | .error fault => .error fault
  | .ok (content, rest) => stopAt (.shape (.invalidType content expected)) rest

/-- Reads on at the first character that is no blank. -/
def atValue {α : Type} (read : Char → List Char → Except Fault (α × List Char))
    (text : List Char) : Except Fault (α × List Char) :=
  match skipSpaces text with
  | [] => stopBefore .endInValue []
  | c :: rest => read c rest

/-- Reads a text. -/
def textShape : Shape String := fun _ =>
  atValue fun c rest =>
    if c = '"' then stringAfterQuote rest else wrongType "a string" (c :: rest)

/-- Reads a truth value. -/
def booleanShape : Shape Bool := fun _ =>
  atValue fun c rest =>
    if c = 't' then (word ['r', 'u', 'e'] rest).map (true, ·)
    else if c = 'f' then (word ['a', 'l', 's', 'e'] rest).map (false, ·)
    else wrongType "a boolean" (c :: rest)

/-- Takes a number as a count of 64 bits. -/
def asCount (number : JsonNumber) (rest : List Char) : Except Fault (Nat × List Char) :=
  match number with
  | .integer value =>
    if 0 ≤ value then .ok (value.toNat, rest)
    else stopAt (.shape (.invalidValue (.number number) "usize")) rest
  | .double _ => stopAt (.shape (.invalidType (.number number) "usize")) rest

/-- Reads a count of 64 bits. -/
def countShape : Shape Nat := fun _ =>
  atValue fun c rest =>
    if c = '-' then (numberAfterSign true rest).bind fun (n, rest) => asCount n rest
    else if c.isDigit then (numberAfterSign false (c :: rest)).bind fun (n, rest) => asCount n rest
    else wrongType "usize" (c :: rest)

/-- Reads null as nothing, and anything else as a value. -/
def optionShape {α : Type} (shape : Shape α) : Shape (Option α) := fun depth text =>
  match skipSpaces text with
  | 'n' :: rest => (word ['u', 'l', 'l'] rest).map (none, ·)
  | _ => (shape depth text).map fun (value, rest) => (some value, rest)

/-- Reads a value of any shape. -/
def anyShape : Shape Json := value

/-- Reads a container one level down, if the depth allows. -/
def deeper {α : Type} (depth : Nat) (text : List Char) (read : Nat → Except Fault α) :
    Except Fault α :=
  match depth with
  | 0 => stopBefore .nestedTooDeeply text
  | depth + 1 => read depth

/-- Reads a list. -/
def listShape {α : Type} (shape : Shape α) : Shape (List α) := fun depth =>
  atValue fun c rest =>
    if c = '[' then
      deeper depth (c :: rest) fun depth => listItems (shape depth) true (rest.length + 1) rest
    else wrongType "a sequence" (c :: rest)

/-! ## Names -/

/-- Looks up a name among the admitted ones. -/
def named {α : Type} (values : List (String × α)) (name : String) (rest : List Char) :
    Except Fault (α × List Char) :=
  match OrderedMap.get? values name with
  | some value => .ok (value, rest)
  | none => stopAt (.shape (.unknownVariant name (values.map Prod.fst))) rest

/-- Reads a null that stands for the content of a name. -/
def nothing : List Char → Except Fault (List Char)
  | text =>
    (atValue (fun c rest =>
      if c = 'n' then (word ['u', 'l', 'l'] rest).map ((), ·)
      else wrongType "unit" (c :: rest)) text).map Prod.snd

/-- Reads a name as the key of an object. -/
def onlyKey {α : Type} (values : List (String × α)) : List Char → Except Fault (α × List Char)
  | [] => stopBefore .endInObject []
  | '"' :: rest => (stringAfterQuote rest).bind fun (name, rest) => named values name rest
  | rest => stopBefore .keyNotString rest

/-- Reads one of some names: as a string, or as the only key of an object whose value is null. -/
def choiceShape {α : Type} (values : List (String × α)) : Shape α := fun depth text =>
  match skipSpaces text with
  | [] => stopBefore .endInValue []
  | '"' :: rest => (stringAfterQuote rest).bind fun (name, rest) => named values name rest
  | '\x7b' :: rest =>
    deeper depth ('\x7b' :: rest) fun _ => do
      let (value, rest) ← onlyKey values (skipSpaces rest)
      let rest ← (colon rest).bind nothing
      match skipSpaces rest with
      | [] => stopAt .endInObject []
      | '\x7d' :: rest => .ok (value, rest)
      | rest => stopAt .expectedValue rest
  | rest => stopBefore .expectedValue rest

/-! ## Records -/

/-- A field of a record: its name, whether it must be given, and how its content changes the
record. -/
structure Field (ρ : Type) where
  name : String
  isRequired : Bool
  read : Shape (ρ → ρ)

/-- A field that may be left out. -/
def optionalField {ρ α : Type} (name : String) (shape : Shape α) (put : ρ → α → ρ) : Field ρ :=
  ⟨name, false, fun depth text =>
    (shape depth text).map fun (value, rest) => ((put · value), rest)⟩

/-- A field that must be given. -/
def requiredField {ρ α : Type} (name : String) (shape : Shape α) (put : ρ → α → ρ) : Field ρ :=
  { optionalField name shape put with isRequired := true }

/-- A kind of record: its name in messages, its fields in order, and the record without any. -/
structure RecordKind (ρ : Type) where
  name : String
  fields : List (Field ρ)
  start : ρ

namespace RecordKind

variable {ρ : Type}

/-- The words for a record that is expected. -/
def description (kind : RecordKind ρ) : String :=
  "struct " ++ kind.name

/-- The words for a record written as a list. -/
def listDescription (kind : RecordKind ρ) : String :=
  kind.description ++ " with " ++ toString kind.fields.length ++
    (if kind.fields.length = 1 then " element" else " elements")

/-- Reads the end of an object of which no further member is expected. -/
def endObject (text : List Char) : Except Fault (List Char) :=
  match skipSpaces text with
  | [] => stopBefore .endInObject []
  | '\x7d' :: rest => .ok rest
  | ',' :: rest => stopBefore .trailingComma (',' :: rest)
  | rest => stopBefore .trailingCharacters rest

/-- A fault of a whole container, placed where reading its end leads. -/
def behind {α : Type} (finish : List Char → Except Fault (List Char)) (problem : ShapeProblem)
    (text : List Char) : Except Fault α :=
  match finish text with
  | .ok rest => stopAt (.shape problem) rest
  | .error fault => stopAt (.shape problem) fault.rest

/-- Reads the fields of a record from the items of a list. `place` counts the items before. -/
def readItems (kind : RecordKind ρ) (depth : Nat) :
    List (Field ρ) → Nat → ρ → List Char → Except Fault (ρ × List Char)
  | [], _, record, text => (endList text).map (record, ·)
  | field :: fields, place, record, text => do
    let (more, rest) ← nextItem (place = 0) text
    if more then
      let (change, rest) ← field.read depth rest
      readItems kind depth fields (place + 1) (change record) rest
    else if (field :: fields).any (·.isRequired) then
      behind endList (.invalidLength
        (place + ((field :: fields).takeWhile (!·.isRequired)).length) kind.listDescription) rest
    else .ok (record, rest.drop 1)

/-- The first required field that has not been given. -/
def missing? (kind : RecordKind ρ) (seen : List String) : Option String :=
  (kind.fields.find? fun field => field.isRequired && !seen.contains field.name).map (·.name)

/-- Reads the fields of a record from the members of an object. The number bounds the members, and
`seen` lists the fields that have been given. -/
def readMembers (kind : RecordKind ρ) (depth : Nat) :
    Nat → List String → Bool → ρ → List Char → Except Fault (ρ × List Char)
  | 0, _, _, _, text => stopBefore .endInObject text
  | fuel + 1, seen, first, record, text => do
    let (more, rest) ← nextKey first text
    if more then
      let (name, rest) ← stringAfterQuote (rest.drop 1)
      match kind.fields.find? (·.name = name) with
      | none =>
        let rest ← (colon rest).bind skip
        readMembers kind depth fuel seen false record rest
      | some field =>
        if seen.contains name then behind endObject (.duplicateField name) rest
        else
          let rest ← colon rest
          let (change, rest) ← field.read depth rest
          readMembers kind depth fuel (name :: seen) false (change record) rest
    else
      match kind.missing? seen with
      | some name => behind endObject (.missingField name) rest
      | none => .ok (record, rest.drop 1)

/-- Reads a record. -/
def shape (kind : RecordKind ρ) : Shape ρ := fun depth =>
  atValue fun c rest =>
    if c = '[' then
      deeper depth (c :: rest) fun depth => kind.readItems depth kind.fields 0 kind.start rest
    else if c = '\x7b' then
      deeper depth (c :: rest) fun depth =>
        kind.readMembers depth (rest.length + 1) [] true kind.start rest
    else wrongType kind.description (c :: rest)

end RecordKind

/-- Reads a whole text as one value of a shape. -/
def readShape {α : Type} (shape : Shape α) (text : List Char) : Except Fault α := do
  let (result, rest) ← shape nestingLimit text
  finish rest
  .ok result

end DocumentMapping.Json
