import DocumentMapping.Path.Validity
import DocumentMapping.Text.Bytes

/-!
# Reading paths

A path text is a dollar sign followed by elements. An element is a name after a dot, or a quoted
name in brackets with or without a dot, and may be followed by an index in brackets. An element or
index that does not match leaves the text untouched, and text that is left over is refused. Faults
are located by the text that remains.
-/

namespace DocumentMapping.PathText

/-- A fault inside an element, located by the text that remains. -/
structure ElementFault where
  rest : List Char
  error : Nat → PathError

/-- Reads a quoted name after its opening quote, which stands at the text `opening`. -/
def literal (opening : List Char) :
    List Char → Except ElementFault (List Char × List Char)
  | [] => .error ⟨opening, .unterminatedLiteral⟩
  | '\'' :: ']' :: rest => .ok ([], rest)
  | '\'' :: rest => .error ⟨'\'' :: rest, fun position => .malformed position .bareQuote⟩
  | ['\\'] => .error ⟨opening, .unterminatedLiteral⟩
  | '\\' :: c :: rest =>
    if c = '\'' ∨ c = '\\' then
      match literal opening rest with
      | .error fault => .error fault
      | .ok (name, rest) => .ok (c :: name, rest)
    else .error ⟨c :: rest, fun position => .malformed position (.invalidEscape c)⟩
  | c :: rest =>
    match literal opening rest with
    | .error fault => .error fault
    | .ok (name, rest) => .ok (c :: name, rest)

/-- Whether a character may stand in a tag. -/
def isTagChar (c : Char) : Bool :=
  c.isAlphanum || c = '_'

/-- The end of a tag: a hyphen with digits, if both are there. -/
def tagEnding : List Char → List Char × List Char
  | '-' :: rest =>
    if (rest.takeWhile Char.isDigit).isEmpty then ([], '-' :: rest)
    else ('-' :: rest.takeWhile Char.isDigit, rest.dropWhile Char.isDigit)
  | rest => ([], rest)

/-- The text of a fixed position or a tag at the start of the remaining text. -/
def tagText (text : List Char) : List Char × List Char :=
  (text.takeWhile isTagChar ++ (tagEnding (text.dropWhile isTagChar)).1,
    (tagEnding (text.dropWhile isTagChar)).2)

/-- Reads a fixed position or a tag; absent when the text starts with neither. -/
def staticOrNamed (text : List Char) :
    Except ElementFault (Option (PathIndex × List Char)) :=
  if (text.takeWhile isTagChar).isEmpty then .ok none
  else if (tagText text).1.all Char.isDigit then
    if digitsValue (tagText text).1 < 2 ^ 32 then
      .ok (some (.static (UInt32.ofNat (digitsValue (tagText text).1)), (tagText text).2))
    else
      .error ⟨text, fun position => .indexOverflow position (String.ofList (tagText text).1)⟩
  else .ok (some (.named (String.ofList (tagText text).1), (tagText text).2))

/-- Reads what stands between the brackets of an index: a run of asterisks, a position or a tag. -/
def indexContent (text : List Char) :
    Except ElementFault (Option (PathIndex × List Char)) :=
  if (text.takeWhile (· = '*')).isEmpty then staticOrNamed text
  else .ok (some (.wildcard (text.takeWhile (· = '*')).length, text.dropWhile (· = '*')))

/-- Reads an index in brackets. A text that does not start with one gives no index and stays. -/
def indexer : List Char → Except ElementFault (PathIndex × List Char)
  | '[' :: inner =>
    match indexContent inner with
    | .error fault => .error fault
    | .ok (some (index, ']' :: rest)) => .ok (index, rest)
    | .ok _ => .ok (.none, '[' :: inner)
  | text => .ok (.none, text)

/-- Reads a name without quotes; absent when the text starts with none. -/
def bareName (text : List Char) : Option (List Char × List Char) :=
  if (text.takeWhile isBareNameChar).isEmpty then none
  else some (text.takeWhile isBareNameChar, text.dropWhile isBareNameChar)

/-- Reads the name of an element; absent when the text starts no element. -/
def elementName : List Char → Except ElementFault (Option (List Char × List Char))
  | '.' :: '[' :: '\'' :: rest => (literal ('[' :: '\'' :: rest) rest).map some
  | '[' :: '\'' :: rest => (literal ('[' :: '\'' :: rest) rest).map some
  | '.' :: rest => .ok (bareName rest)
  | _ => .ok none

/-- Adds the index that follows a name. -/
def withIndexer (name rest : List Char) : Except ElementFault (PathElement × List Char) :=
  match indexer rest with
  | .error fault => .error fault
  | .ok (index, rest) => .ok (⟨String.ofList name, index⟩, rest)

/-- Reads an element; absent when the text starts none. -/
def element (text : List Char) :
    Except ElementFault (Option (PathElement × List Char)) :=
  match elementName text with
  | .error fault => .error fault
  | .ok none => .ok none
  | .ok (some (name, rest)) => (withIndexer name rest).map some

/-! ## What is read is taken off the text -/

theorem literal_length {opening text name rest : List Char}
    (h : literal opening text = .ok (name, rest)) : rest.length < text.length := by
  fun_induction literal opening text generalizing name rest with
  | case1 => simp at h
  | case2 _ => grind
  | case3 => simp at h
  | case4 => simp at h
  | case5 => simp at h
  | case6 _ _ _ _ _ hread ih =>
    have := ih hread
    grind
  | case7 => simp at h
  | case8 => simp at h
  | case9 _ _ _ _ _ _ _ _ hread ih =>
    have := ih hread
    grind

theorem length_dropWhile_lt {p : Char → Bool} {text : List Char}
    (h : (text.takeWhile p).isEmpty = false) : (text.dropWhile p).length < text.length := by
  have happend := congrArg List.length (List.takeWhile_append_dropWhile (p := p) (l := text))
  rw [List.length_append] at happend
  have hpos : 0 < (text.takeWhile p).length := by
    simpa [List.length_pos_iff] using h
  omega

theorem bareName_length {text name rest : List Char} (h : bareName text = some (name, rest)) :
    rest.length < text.length := by
  unfold bareName at h
  split at h
  · simp at h
  · rename_i hname
    obtain ⟨-, rfl⟩ := Prod.mk.inj (Option.some.inj h)
    exact length_dropWhile_lt (by simpa using hname)

theorem tagEnding_length (text : List Char) : (tagEnding text).2.length ≤ text.length := by
  unfold tagEnding
  split
  · rename_i rest
    have := (List.dropWhile_sublist (l := rest) Char.isDigit).length_le
    split
    · simp
    · simp only [List.length_cons]
      omega
  · simp

theorem staticOrNamed_length {text rest : List Char} {index : PathIndex}
    (h : staticOrNamed text = .ok (some (index, rest))) : rest.length ≤ text.length := by
  have hending := tagEnding_length (text.dropWhile isTagChar)
  have hdrop := (List.dropWhile_sublist (l := text) isTagChar).length_le
  unfold staticOrNamed tagText at h
  grind

theorem indexContent_length {text rest : List Char} {index : PathIndex}
    (h : indexContent text = .ok (some (index, rest))) : rest.length ≤ text.length := by
  unfold indexContent at h
  split at h
  · exact staticOrNamed_length h
  · have hdrop := (List.dropWhile_sublist (l := text) (fun c => decide (c = '*'))).length_le
    grind

theorem indexer_length {text rest : List Char} {index : PathIndex}
    (h : indexer text = .ok (index, rest)) : rest.length ≤ text.length := by
  unfold indexer at h
  split at h
  · split at h
    · simp at h
    · rename_i hread
      have := indexContent_length hread
      grind
    · grind
  · grind

theorem elementName_length {text name rest : List Char}
    (h : elementName text = .ok (some (name, rest))) : rest.length < text.length := by
  unfold elementName at h
  split at h
  · rename_i inner
    cases hread : literal ('[' :: '\'' :: inner) inner with
    | error fault => simp [hread, Except.map] at h
    | ok found =>
      obtain ⟨first, last⟩ := found
      have := literal_length hread
      simp [hread, Except.map] at h
      simp [← h.2]
      omega
  · rename_i inner
    cases hread : literal ('[' :: '\'' :: inner) inner with
    | error fault => simp [hread, Except.map] at h
    | ok found =>
      obtain ⟨first, last⟩ := found
      have := literal_length hread
      simp [hread, Except.map] at h
      simp [← h.2]
      omega
  · have := bareName_length (Except.ok.inj h)
    simp
    omega
  · simp at h

theorem element_length {text rest : List Char} {found : PathElement}
    (h : element text = .ok (some (found, rest))) : rest.length < text.length := by
  unfold element at h
  split at h
  · simp at h
  · simp at h
  · rename_i name after hname
    have hbefore := elementName_length hname
    unfold withIndexer at h
    split at h
    · simp [Except.map] at h
    · rename_i index last hindex
      have hafter := indexer_length hindex
      simp [Except.map] at h
      rw [← h.2]
      omega

/-- Reads elements as long as one follows. -/
def elements (text : List Char) : Except ElementFault (List PathElement × List Char) :=
  match hread : element text with
  | .error fault => .error fault
  | .ok none => .ok ([], text)
  | .ok (some (first, rest)) =>
    have : rest.length < text.length := element_length hread
    match elements rest with
    | .error fault => .error fault
    | .ok (more, rest) => .ok (first :: more, rest)
termination_by text.length

end DocumentMapping.PathText

namespace DocumentMapping

/-- The byte offset at which the remaining text starts. -/
def offsetOf (text rest : List Char) : Nat :=
  Text.byteLength text - Text.byteLength rest

/-- The refusal of a text whose remaining part does not match. -/
def unexpectedAt (text rest : List Char) (expected : PathExpectation) : PathError :=
  .malformed (offsetOf text rest) (.unexpected expected rest)

/-- Gives a fault its byte offset in the whole text. -/
def PathText.ElementFault.locate (text : List Char) (fault : PathText.ElementFault) : PathError :=
  fault.error (offsetOf text fault.rest)

/-- Reads a path: a dollar sign, at least one element and nothing else. The elements must be
consistent. -/
def Path.ofChars (text : List Char) : Except PathError Path :=
  match text with
  | '$' :: rest =>
    match PathText.elements rest with
    | .error fault => .error (fault.locate text)
    | .ok ([], left) => .error (unexpectedAt text left .element)
    | .ok (first :: more, []) => Path.ofElements (first :: more)
    | .ok (_ :: _, left) => .error (unexpectedAt text left .finished)
  | _ => .error (unexpectedAt text text .dollar)

/-- Reads a path. -/
def Path.ofString (text : String) : Except PathError Path :=
  Path.ofChars text.toList

/-- Reads an element that starts with a name without quotes and without a dot. -/
def PathText.undottedElement (text : List Char) :
    Except PathText.ElementFault (Option (PathElement × List Char)) :=
  match PathText.bareName text with
  | none => .ok none
  | some (name, rest) => (PathText.withIndexer name rest).map some

/-- Reads a single element, with or without the dot before its name. -/
def PathElement.ofChars (text : List Char) : Except PathError PathElement :=
  let whole (found : PathElement × List Char) : Except PathError PathElement :=
    match found with
    | (element, []) => .ok element
    | (_, left) => .error (unexpectedAt text left .finished)
  match PathText.element text with
  | .error fault => .error (fault.locate text)
  | .ok (some found) => whole found
  | .ok none =>
    match PathText.undottedElement text with
    | .error fault => .error (fault.locate text)
    | .ok (some found) => whole found
    | .ok none => .error (unexpectedAt text text .bareName)

/-- Reads a single element. -/
def PathElement.ofString (text : String) : Except PathError PathElement :=
  PathElement.ofChars text.toList

end DocumentMapping
