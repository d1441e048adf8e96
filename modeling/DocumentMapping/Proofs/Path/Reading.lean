import Mathlib.Data.List.Basic
import Mathlib.Data.List.TakeWhile
import DocumentMapping.Proofs.Number.Digits
import DocumentMapping.Proofs.Path.Grammar
import DocumentMapping.Proofs.Sequencing
import DocumentMapping.Proofs.Text.CharSets

/-!
# Reading follows the grammar

Each part of a path text is read by taking as much as matches. For each reading function, what it
takes is shown to be a part of the grammar, and a part of the grammar is shown to be taken whole
when the text goes on as the grammar allows. Together they say that a text is read as a path exactly
when it has a derivation, which is then the only one.
-/

namespace DocumentMapping.PathText

/-! ## Names -/

theorem literal_sound {opening text name rest : List Char}
    (h : literal opening text = .ok (name, rest)) :
    ∃ items : List LiteralChar,
      text = items.flatMap LiteralChar.chars ++ '\'' :: ']' :: rest ∧
        items.map LiteralChar.value = name := by
  fun_induction literal opening text generalizing name rest with
  | case1 => cases h
  | case2 more =>
    cases h
    exact ⟨[], rfl, rfl⟩
  | case3 => cases h
  | case4 => cases h
  | case5 => cases h
  | case6 c more hc inner left hread ih =>
    cases h
    obtain ⟨items, rfl, rfl⟩ := ih hread
    exact ⟨.escaped c hc :: items, rfl, rfl⟩
  | case7 => cases h
  | case8 => cases h
  | case9 c more _ hquote hlast hescape inner left hread ih =>
    cases h
    have hbackslash : c ≠ '\\' := by
      rintro rfl
      cases more with
      | nil => exact hlast rfl rfl
      | cons d after => exact hescape d after rfl rfl
    obtain ⟨items, rfl, rfl⟩ := ih hread
    exact ⟨.plain c ⟨hquote, hbackslash⟩ :: items, rfl, rfl⟩

theorem literal_complete (opening : List Char) (items : List LiteralChar) (rest : List Char) :
    literal opening (items.flatMap LiteralChar.chars ++ '\'' :: ']' :: rest) =
      .ok (items.map LiteralChar.value, rest) := by
  induction items with
  | nil => simp [literal]
  | cons item items ih =>
    cases item with
    | plain c isPlain =>
      show literal opening (c :: (items.flatMap LiteralChar.chars ++ '\'' :: ']' :: rest)) = _
      rw [literal, ih]
      · rfl
      · exact fun _ hquote => absurd hquote isPlain.1
      · exact isPlain.1
      · exact fun hbackslash => absurd hbackslash isPlain.2
      · exact fun _ _ hbackslash => absurd hbackslash isPlain.2
    | escaped c needsEscape =>
      show literal opening ('\\' :: c :: (items.flatMap LiteralChar.chars ++ _)) = _
      rw [literal, if_pos needsEscape, ih]
      rfl

/-- The text after an element: its end, or the start of another element. -/
inductive StartsElement : List Char → Prop where
  | finished : StartsElement []
  | dot (rest : List Char) : StartsElement ('.' :: rest)
  | quote (rest : List Char) : StartsElement ('[' :: '\'' :: rest)

/-- A name without quotes ends where the text goes on with another element or an index. -/
def EndsName (rest : List Char) : Prop :=
  ∀ c ∈ rest.head?, isBareNameChar c = false

theorem EndsName.cons {c : Char} (hc : isBareNameChar c = false) (rest : List Char) :
    EndsName (c :: rest) := by
  intro d hd
  cases hd
  exact hc

theorem isBareNameChar_dot : isBareNameChar '.' = false := by decide

theorem isBareNameChar_bracket : isBareNameChar '[' = false := by decide

theorem StartsElement.endsName {rest : List Char} (h : StartsElement rest) : EndsName rest := by
  cases h with
  | finished =>
    intro c hc
    cases hc
  | dot rest => exact .cons isBareNameChar_dot rest
  | quote rest => exact .cons isBareNameChar_bracket _

theorem isBareName_iff {name : List Char} :
    PathElement.isBareName name = true ↔ name ≠ [] ∧ ∀ c ∈ name, isBareNameChar c = true := by
  simp [PathElement.isBareName]

theorem bareName_sound {text name rest : List Char} (h : bareName text = some (name, rest)) :
    text = name ++ rest ∧ PathElement.isBareName name = true := by
  unfold bareName at h
  split at h
  · cases h
  · rename_i hname
    cases h
    refine ⟨List.takeWhile_append_dropWhile.symm, isBareName_iff.mpr ⟨by simpa using hname, ?_⟩⟩
    exact fun c hc => List.mem_takeWhile_imp hc

theorem bareName_complete {name rest : List Char} (hname : PathElement.isBareName name = true)
    (hrest : EndsName rest) : bareName (name ++ rest) = some (name, rest) := by
  obtain ⟨hne, hall⟩ := isBareName_iff.mp hname
  unfold bareName
  rw [takeWhile_append_of_stop hall hrest, dropWhile_append_of_stop hall hrest, if_neg]
  simpa using hne

/-- What follows the opening quote of a literal. -/
theorem quoted_chars_append (isDotted : Bool) (items : List LiteralChar) (rest : List Char) :
    (WrittenName.quoted isDotted items).chars ++ rest =
      (if isDotted then ['.'] else []) ++
        '[' :: '\'' :: (items.flatMap LiteralChar.chars ++ '\'' :: ']' :: rest) := by
  simp [WrittenName.chars]

theorem elementName_sound {text name rest : List Char}
    (h : elementName text = .ok (some (name, rest))) :
    ∃ written : WrittenName, text = written.chars ++ rest ∧ written.value = name := by
  unfold elementName at h
  split at h
  · obtain ⟨⟨_, _⟩, hread, hsome⟩ := Except.map_eq_ok_iff.mp h
    cases hsome
    obtain ⟨items, rfl, rfl⟩ := literal_sound hread
    exact ⟨.quoted true items, (quoted_chars_append true items rest).symm, rfl⟩
  · obtain ⟨⟨_, _⟩, hread, hsome⟩ := Except.map_eq_ok_iff.mp h
    cases hsome
    obtain ⟨items, rfl, rfl⟩ := literal_sound hread
    exact ⟨.quoted false items, (quoted_chars_append false items rest).symm, rfl⟩
  · obtain ⟨rfl, hname⟩ := bareName_sound (Except.ok.inj h)
    exact ⟨.bare name hname, rfl, rfl⟩
  · cases h

theorem elementName_complete (written : WrittenName) {rest : List Char} (hrest : EndsName rest) :
    elementName (written.chars ++ rest) = .ok (some (written.value, rest)) := by
  cases written with
  | bare name isBare =>
    have hread := bareName_complete isBare hrest
    obtain ⟨hne, hall⟩ := isBareName_iff.mp isBare
    obtain ⟨c, more, rfl⟩ := List.exists_cons_of_ne_nil hne
    -- the name does not open a literal
    have hbracket : c ≠ '[' := by
      intro h
      have hc := hall c List.mem_cons_self
      rw [h, isBareNameChar_bracket] at hc
      cases hc
    show elementName ('.' :: (c :: more ++ rest)) = _
    rw [elementName, hread]
    · rfl
    · intro inner h
      exact hbracket (List.cons.inj h).1
  | quoted isDotted items =>
    rw [quoted_chars_append]
    cases isDotted with
    | false =>
      show (literal _ _).map some = _
      rw [literal_complete]
      rfl
    | true =>
      show (literal _ _).map some = _
      rw [literal_complete]
      rfl

/-! ## Indexes -/

theorem isTagChar_of_isDigit {c : Char} (h : c.isDigit = true) : isTagChar c = true := by
  simp [isTagChar, Char.isAlphanum, h]

/-- The end of a tag is a number after a hyphen, if there is one. -/
theorem tagEnding_sound (text : List Char) :
    ∃ number : Option (List Char), (∀ digits ∈ number, isDigits digits = true) ∧
      (tagEnding text).1 = WrittenTag.ending number := by
  unfold tagEnding
  split
  · rename_i rest
    split
    · exact ⟨none, by simp, rfl⟩
    · rename_i hdigits
      refine ⟨some (rest.takeWhile Char.isDigit), ?_, rfl⟩
      intro digits hmem
      cases hmem
      exact isDigits_iff.mpr ⟨by simpa using hdigits, fun c hc => List.mem_takeWhile_imp hc⟩
  · exact ⟨none, by simp, rfl⟩

theorem tagEnding_append (text : List Char) :
    (tagEnding text).1 ++ (tagEnding text).2 = text := by
  unfold tagEnding
  split
  · split
    · rfl
    · exact congrArg ('-' :: ·) List.takeWhile_append_dropWhile
  · rfl

theorem tagText_append (text : List Char) : (tagText text).1 ++ (tagText text).2 = text := by
  rw [tagText, List.append_assoc, tagEnding_append, List.takeWhile_append_dropWhile]

/-- A word and a number are read up to the closing bracket. -/
theorem tagText_complete {word : List Char} (hword : ∀ c ∈ word, isTagChar c = true)
    {number : Option (List Char)} (hnumber : ∀ digits ∈ number, isDigits digits = true)
    (rest : List Char) :
    tagText (word ++ WrittenTag.ending number ++ ']' :: rest) =
      (word ++ WrittenTag.ending number, ']' :: rest) := by
  have hstop : ∀ c ∈ (WrittenTag.ending number ++ ']' :: rest).head?, isTagChar c = false := by
    cases number with
    | none => intro c hc; cases hc; rfl
    | some digits => intro c hc; cases hc; rfl
  have hending : tagEnding (WrittenTag.ending number ++ ']' :: rest) =
      (WrittenTag.ending number, ']' :: rest) := by
    cases number with
    | none => rfl
    | some digits =>
      obtain ⟨hne, hall⟩ := isDigits_iff.mp (hnumber digits rfl)
      have hbracket : ∀ c ∈ (']' :: rest).head?, c.isDigit = false := by
        intro c hc
        cases hc
        rfl
      show tagEnding ('-' :: (digits ++ ']' :: rest)) = _
      rw [tagEnding, takeWhile_append_of_stop hall hbracket, dropWhile_append_of_stop hall hbracket,
        if_neg (by simpa using hne)]
      rfl
  rw [tagText, List.append_assoc, takeWhile_append_of_stop hword hstop,
    dropWhile_append_of_stop hword hstop, hending]

/-- A number after a hyphen does not consist of digits. -/
theorem all_isDigit_ending {word : List Char} {number : Option (List Char)}
    (h : (word ++ WrittenTag.ending number).all Char.isDigit = true) :
    number = none ∧ ∀ c ∈ word, c.isDigit = true := by
  rw [List.all_append, Bool.and_eq_true, List.all_eq_true] at h
  cases number with
  | none => exact ⟨rfl, h.1⟩
  | some digits => simp [WrittenTag.ending] at h

theorem staticOrNamed_sound {text rest : List Char} {index : PathIndex}
    (h : staticOrNamed text = .ok (some (index, rest))) :
    ∃ written : WrittenIndex, text = written.content ++ rest ∧ written.value = index ∧
      written.InRange := by
  unfold staticOrNamed at h
  split at h
  · cases h
  rename_i hempty
  have hne : text.takeWhile isTagChar ≠ [] := by simpa using hempty
  have hword : ∀ c ∈ text.takeWhile isTagChar, isTagChar c = true :=
    fun c hc => List.mem_takeWhile_imp hc
  obtain ⟨number, hnumber, hending⟩ := tagEnding_sound (text.dropWhile isTagChar)
  have hchars : (tagText text).1 = text.takeWhile isTagChar ++ WrittenTag.ending number := by
    rw [tagText, hending]
  split at h
  · rename_i hall
    split at h
    · rename_i hsmall
      cases h
      have hdigits : isDigits (tagText text).1 = true := by
        refine isDigits_iff.mpr ⟨?_, List.all_eq_true.mp hall⟩
        rw [hchars]
        exact List.append_ne_nil_of_left_ne_nil hne _
      exact ⟨.position _ hdigits, (tagText_append text).symm, rfl, hsmall⟩
    · cases h
  · rename_i hall
    cases h
    have hnotDigits : number = none → isDigits (text.takeWhile isTagChar) = false := by
      rintro rfl
      rw [hchars, WrittenTag.ending, List.append_nil] at hall
      rw [isDigits, Bool.not_eq_true _ |>.mp hall, Bool.and_false]
    let tag : WrittenTag := ⟨_, number, hne, hword, hnumber, hnotDigits⟩
    refine ⟨.tag tag, ?_, congrArg (PathIndex.named ∘ String.ofList) hchars.symm, trivial⟩
    show text = text.takeWhile isTagChar ++ WrittenTag.ending number ++ (tagText text).2
    rw [← hchars, tagText_append]

/-- Where a word starts, the text is read as a position or as a tag. -/
theorem takeWhile_isTagChar_isEmpty {word : List Char} (hne : word ≠ [])
    (hword : ∀ c ∈ word, isTagChar c = true) (rest : List Char) :
    ((word ++ rest).takeWhile isTagChar).isEmpty = false := by
  rw [List.takeWhile_append_of_pos hword, List.isEmpty_eq_false_iff]
  exact List.append_ne_nil_of_left_ne_nil hne _

theorem staticOrNamed_position {digits : List Char} (hdigits : isDigits digits = true)
    (hsmall : digitsValue digits < 2 ^ 32) (rest : List Char) :
    staticOrNamed (digits ++ ']' :: rest) =
      .ok (some (.static (UInt32.ofNat (digitsValue digits)), ']' :: rest)) := by
  obtain ⟨hne, hall⟩ := isDigits_iff.mp hdigits
  have hword : ∀ c ∈ digits, isTagChar c = true := fun c hc => isTagChar_of_isDigit (hall c hc)
  have hnumber : ∀ digits ∈ (none : Option (List Char)), isDigits digits = true := by simp
  have htext := tagText_complete hword hnumber rest
  rw [WrittenTag.ending, List.append_nil] at htext
  rw [staticOrNamed, takeWhile_isTagChar_isEmpty hne hword, htext, if_neg Bool.false_ne_true,
    if_pos (List.all_eq_true.mpr hall), if_pos hsmall]

theorem staticOrNamed_tag (tag : WrittenTag) (rest : List Char) :
    staticOrNamed (tag.chars ++ ']' :: rest) =
      .ok (some (.named (String.ofList tag.chars), ']' :: rest)) := by
  have hall : ¬tag.chars.all Char.isDigit = true := by
    intro h
    obtain ⟨hnone, hdigits⟩ := all_isDigit_ending h
    have hword := tag.notDigits hnone
    rw [isDigits_iff.mpr ⟨tag.word_ne_nil, hdigits⟩] at hword
    cases hword
  have htext : tagText (tag.chars ++ ']' :: rest) = (tag.chars, ']' :: rest) :=
    tagText_complete tag.isWord tag.isNumber rest
  have hword : ((tag.chars ++ ']' :: rest).takeWhile isTagChar).isEmpty = false := by
    rw [WrittenTag.chars, List.append_assoc]
    exact takeWhile_isTagChar_isEmpty tag.word_ne_nil tag.isWord _
  rw [staticOrNamed, hword, htext, if_neg Bool.false_ne_true, if_neg hall]

theorem indexContent_sound {text rest : List Char} {index : PathIndex}
    (h : indexContent text = .ok (some (index, rest))) :
    ∃ written : WrittenIndex, text = written.content ++ rest ∧ written.value = index ∧
      written.InRange := by
  unfold indexContent at h
  split at h
  · exact staticOrNamed_sound h
  · rename_i hrun
    cases h
    refine ⟨.run _ (by simpa [List.length_pos_iff] using hrun), ?_, rfl, trivial⟩
    have hstars : ∀ c ∈ text.takeWhile (· = '*'), c = '*' := by
      intro c hc
      simpa using List.mem_takeWhile_imp hc
    rw [WrittenIndex.content, ← List.eq_replicate_of_mem hstars, List.takeWhile_append_dropWhile]

/-- A text that starts with a word starts with no asterisk. -/
theorem indexContent_word {word : List Char} (hne : word ≠ [])
    (hword : ∀ c ∈ word, isTagChar c = true) (rest : List Char) :
    indexContent (word ++ rest) = staticOrNamed (word ++ rest) := by
  obtain ⟨c, more, rfl⟩ := List.exists_cons_of_ne_nil hne
  have hstar : c ≠ '*' := by
    rintro rfl
    exact absurd (hword '*' List.mem_cons_self) (by decide)
  rw [indexContent, if_pos]
  simp [hstar]

theorem indexContent_complete {written : WrittenIndex} (hrange : written.InRange)
    (rest : List Char) :
    indexContent (written.content ++ ']' :: rest) = .ok (some (written.value, ']' :: rest)) := by
  cases written with
  | run length length_pos =>
    have hstars : ∀ c ∈ List.replicate length '*', decide (c = '*') = true :=
      fun c hc => decide_eq_true (List.eq_of_mem_replicate hc)
    have hstop : ∀ c ∈ (']' :: rest).head?, decide (c = '*') = false := by
      intro c hc
      cases hc
      rfl
    rw [WrittenIndex.content, indexContent, takeWhile_append_of_stop hstars hstop,
      dropWhile_append_of_stop hstars hstop, List.length_replicate, if_neg]
    · rfl
    · simpa using Nat.ne_of_gt length_pos
  | position digits hdigits =>
    obtain ⟨hne, hall⟩ := isDigits_iff.mp hdigits
    rw [WrittenIndex.content,
      indexContent_word hne fun c hc => isTagChar_of_isDigit (hall c hc)]
    exact staticOrNamed_position hdigits hrange rest
  | tag tag =>
    rw [WrittenIndex.content, WrittenTag.chars, List.append_assoc,
      indexContent_word tag.word_ne_nil tag.isWord, ← List.append_assoc]
    exact staticOrNamed_tag tag rest

theorem indexer_sound {text rest : List Char} {index : PathIndex}
    (h : indexer text = .ok (index, rest)) :
    ∃ written : Option WrittenIndex, text = WrittenElement.indexChars written ++ rest ∧
      WrittenElement.indexValue written = index ∧ ∀ found ∈ written, found.InRange := by
  unfold indexer at h
  split at h
  · split at h
    · cases h
    · rename_i hread
      cases h
      obtain ⟨written, rfl, rfl, hrange⟩ := indexContent_sound hread
      refine ⟨some written, ?_, rfl, ?_⟩
      · simp [WrittenElement.indexChars, WrittenIndex.chars]
      · intro found hfound
        cases hfound
        exact hrange
    · cases h
      exact ⟨none, rfl, rfl, by simp⟩
  · cases h
    exact ⟨none, rfl, rfl, by simp⟩

theorem indexer_complete {written : WrittenIndex} (hrange : written.InRange) (rest : List Char) :
    indexer (written.chars ++ rest) = .ok (written.value, rest) := by
  have hread := indexContent_complete hrange rest
  have htext : written.chars ++ rest = '[' :: (written.content ++ ']' :: rest) := by
    simp [WrittenIndex.chars]
  rw [htext, indexer, hread]
  rfl

theorem indexer_of_startsElement {rest : List Char} (h : StartsElement rest) :
    indexer rest = .ok (.none, rest) := by
  cases h with
  | finished => rfl
  | dot rest => rfl
  | quote rest => rfl

/-! ## Elements -/

theorem element_sound {text rest : List Char} {found : PathElement}
    (h : element text = .ok (some (found, rest))) :
    ∃ written : WrittenElement, text = written.chars ++ rest ∧ written.value = found ∧
      written.InRange := by
  unfold element at h
  split at h
  · cases h
  · cases h
  · rename_i name between hname
    obtain ⟨written, rfl, rfl⟩ := elementName_sound hname
    unfold withIndexer at h
    split at h
    · cases h
    · rename_i index left hindex
      cases h
      obtain ⟨found, rfl, rfl, hrange⟩ := indexer_sound hindex
      exact ⟨⟨written, found⟩, (List.append_assoc ..).symm, rfl, hrange⟩

theorem element_complete {written : WrittenElement} (hrange : written.InRange) {rest : List Char}
    (hrest : StartsElement rest) :
    element (written.chars ++ rest) = .ok (some (written.value, rest)) := by
  obtain ⟨name, index⟩ := written
  have hends : EndsName (WrittenElement.indexChars index ++ rest) := by
    cases index with
    | none => exact hrest.endsName
    | some index => exact .cons isBareNameChar_bracket _
  have hindex : indexer (WrittenElement.indexChars index ++ rest) =
      .ok (WrittenElement.indexValue index, rest) := by
    cases index with
    | none => exact indexer_of_startsElement hrest
    | some index => exact indexer_complete (hrange index rfl) rest
  rw [WrittenElement.chars, List.append_assoc, element, elementName_complete name hends]
  simp only [withIndexer, hindex]
  rfl

theorem startsElement_chars (written : WrittenElement) (rest : List Char) :
    StartsElement (written.chars ++ rest) := by
  obtain ⟨name, index⟩ := written
  rw [WrittenElement.chars, List.append_assoc]
  cases name with
  | bare name isBare => exact .dot _
  | quoted isDotted items =>
    rw [quoted_chars_append]
    cases isDotted with
    | false => exact .quote _
    | true => exact .dot _

theorem startsElement_flatMap (tree : List WrittenElement) :
    StartsElement (tree.flatMap WrittenElement.chars) := by
  cases tree with
  | nil => exact .finished
  | cons written rest => exact startsElement_chars written _

theorem elements_sound {text rest : List Char} {found : List PathElement}
    (h : elements text = .ok (found, rest)) :
    ∃ tree : List WrittenElement, text = tree.flatMap WrittenElement.chars ++ rest ∧
      tree.map WrittenElement.value = found ∧ ∀ written ∈ tree, written.InRange := by
  fun_induction elements text generalizing found rest with
  | case1 => cases h
  | case2 text hread =>
    cases h
    exact ⟨[], rfl, rfl, by simp⟩
  | case3 => cases h
  | case4 text first between hread hlength more left hmore ih =>
    cases h
    obtain ⟨written, rfl, rfl, hrange⟩ := element_sound hread
    obtain ⟨tree, rfl, rfl, hranges⟩ := ih hmore
    exact ⟨written :: tree, (List.append_assoc ..).symm, rfl, List.forall_mem_cons.mpr
      ⟨hrange, hranges⟩⟩

theorem elements_complete {tree : List WrittenElement}
    (hrange : ∀ written ∈ tree, written.InRange) :
    elements (tree.flatMap WrittenElement.chars) = .ok (tree.map WrittenElement.value, []) := by
  induction tree with
  | nil => rw [elements]; rfl
  | cons written rest ih =>
    obtain ⟨hfirst, hmore⟩ := List.forall_mem_cons.mp hrange
    have hread := element_complete hfirst (startsElement_flatMap rest)
    rw [List.flatMap_cons, elements]
    split
    · rename_i hfault
      cases hread.symm.trans hfault
    · rename_i hnone
      cases hread.symm.trans hnone
    · rename_i found left hfound
      cases hread.symm.trans hfound
      simp only [ih hmore]
      rfl

/-! ## Derivations are unique -/

/-- A name without quotes does not start like a literal. -/
theorem bare_ne_quoted {name : List Char} (isBare : PathElement.isBareName name = true)
    {isDotted : Bool} {items : List LiteralChar} {rest last : List Char} :
    (WrittenName.bare name isBare).chars ++ rest ≠
      (WrittenName.quoted isDotted items).chars ++ last := by
  intro h
  obtain ⟨hne, hall⟩ := isBareName_iff.mp isBare
  obtain ⟨c, more, rfl⟩ := List.exists_cons_of_ne_nil hne
  rw [quoted_chars_append] at h
  cases isDotted with
  | false => cases h
  | true =>
    have hbracket : c = '[' := (List.cons.inj (List.cons.inj h).2).1
    have hc := hall c List.mem_cons_self
    rw [hbracket, isBareNameChar_bracket] at hc
    cases hc

/-- A name is determined by its text and what it means. -/
theorem WrittenName.eq_of_chars {first second : WrittenName} {rest last : List Char}
    (hchars : first.chars ++ rest = second.chars ++ last) (hvalue : first.value = second.value) :
    first = second := by
  cases first with
  | bare name isBare =>
    cases second with
    | bare other _ =>
      obtain rfl : name = other := hvalue
      rfl
    | quoted isDotted items => exact absurd hchars (bare_ne_quoted isBare)
  | quoted isDotted items =>
    cases second with
    | bare name isBare => exact absurd hchars.symm (bare_ne_quoted isBare)
    | quoted otherDotted others =>
      obtain rfl : items = others := LiteralChar.value_injective.list_map hvalue
      cases isDotted with
      | false =>
        cases otherDotted with
        | false => rfl
        | true => cases hchars
      | true =>
        cases otherDotted with
        | false => cases hchars
        | true => rfl

theorem WrittenTag.head_ending (number : Option (List Char)) :
    ∀ c ∈ (ending number).head?, isTagChar c = false := by
  cases number with
  | none => intro c hc; cases hc
  | some digits => intro c hc; cases hc; rfl

/-- A tag is determined by its text: the word ends at the first hyphen. -/
theorem WrittenTag.eq_of_chars {first second : WrittenTag} (h : first.chars = second.chars) :
    first = second := by
  have hword := takeWhile_append_of_stop first.isWord (head_ending first.number)
  have hending := dropWhile_append_of_stop first.isWord (head_ending first.number)
  change first.chars.takeWhile isTagChar = _ at hword
  change first.chars.dropWhile isTagChar = _ at hending
  rw [h, chars, takeWhile_append_of_stop second.isWord (head_ending second.number)] at hword
  rw [h, chars, dropWhile_append_of_stop second.isWord (head_ending second.number)] at hending
  obtain ⟨word, number, _, _, _, _⟩ := first
  obtain ⟨other, otherNumber, _, _, _, _⟩ := second
  obtain rfl : other = word := hword
  obtain rfl : number = otherNumber := by
    cases number <;> cases otherNumber <;> cases hending <;> rfl
  rfl

theorem WrittenIndex.eq_of_chars {first second : WrittenIndex}
    (hchars : first.chars = second.chars) (hvalue : first.value = second.value) :
    first = second := by
  have hcontent : first.content = second.content :=
    List.append_cancel_right (List.cons.inj hchars).2
  cases first with
  | run length length_pos =>
    cases second with
    | run other _ =>
      cases hvalue
      rfl
    | position => cases hvalue
    | tag => cases hvalue
  | position digits hdigits =>
    cases second with
    | run => cases hvalue
    | position other _ =>
      obtain rfl : digits = other := hcontent
      rfl
    | tag => cases hvalue
  | tag written =>
    cases second with
    | run => cases hvalue
    | position => cases hvalue
    | tag other => rw [WrittenTag.eq_of_chars hcontent]

/-- An element is determined by its text and what it means. -/
theorem WrittenElement.eq_of_chars {first second : WrittenElement}
    (hchars : first.chars = second.chars) (hvalue : first.value = second.value) :
    first = second := by
  obtain ⟨name, index⟩ := first
  obtain ⟨other, otherIndex⟩ := second
  obtain ⟨hname, hindex⟩ := PathElement.mk.inj hvalue
  obtain rfl : name = other := WrittenName.eq_of_chars hchars (String.ofList_injective hname)
  have hchars : indexChars index = indexChars otherIndex := List.append_cancel_left hchars
  cases index with
  | none =>
    cases otherIndex with
    | none => rfl
    | some found => cases hchars
  | some found =>
    cases otherIndex with
    | none => cases hchars
    | some another => rw [WrittenIndex.eq_of_chars hchars hindex]

/-- A text has at most one derivation. -/
theorem eq_of_flatMap_chars {first second : List WrittenElement}
    (hfirst : ∀ written ∈ first, written.InRange) (hsecond : ∀ written ∈ second, written.InRange)
    (h : first.flatMap WrittenElement.chars = second.flatMap WrittenElement.chars) :
    first = second := by
  have hcons : ∀ {written : WrittenElement} {rest : List WrittenElement}, written.InRange →
      (written :: rest).flatMap WrittenElement.chars ≠ [] := by
    intro written rest hrange hnil
    have hread := element_complete hrange (startsElement_flatMap rest)
    rw [← List.flatMap_cons, hnil] at hread
    cases hread
  induction first generalizing second with
  | nil =>
    cases second with
    | nil => rfl
    | cons other more => exact absurd h.symm (hcons (List.forall_mem_cons.mp hsecond).1)
  | cons written rest ih =>
    obtain ⟨hwritten, hrest⟩ := List.forall_mem_cons.mp hfirst
    cases second with
    | nil => exact absurd h (hcons hwritten)
    | cons other more =>
      obtain ⟨hother, hmore⟩ := List.forall_mem_cons.mp hsecond
      rw [List.flatMap_cons, List.flatMap_cons] at h
      -- both first elements are what is read at the start of the text
      have hread := element_complete hwritten (startsElement_flatMap rest)
      rw [h, element_complete hother (startsElement_flatMap more)] at hread
      obtain ⟨hvalue, htext⟩ := Prod.mk.inj (Option.some.inj (Except.ok.inj hread))
      rw [htext] at h
      rw [WrittenElement.eq_of_chars (List.append_cancel_right h) hvalue.symm,
        ih hrest hmore htext.symm]

end DocumentMapping.PathText

namespace DocumentMapping

open PathText

/-- The path of some elements has these elements. -/
theorem Path.elements_of_ofElements {elements : List PathElement} {path : Path}
    (h : Path.ofElements elements = .ok path) : path = ⟨elements⟩ := by
  unfold Path.ofElements at h
  split at h
  · cases h
  · split at h
    · cases h
    · exact (Except.ok.inj h).symm

/-- A text that is read as a path has a derivation. -/
theorem Path.exists_derives {text : List Char} {path : Path} (h : Path.ofChars text = .ok path) :
    ∃ tree, Derives tree text := by
  unfold Path.ofChars at h
  split at h
  · split at h
    · cases h
    · cases h
    · rename_i rest _ first more hread
      obtain ⟨tree, rfl, hvalue, hrange⟩ := elements_sound hread
      rw [← hvalue] at h
      refine ⟨tree, by rw [List.append_nil], ?_, hrange, path, h⟩
      rintro rfl
      cases hvalue
    · cases h
  · cases h

/-- A text with a derivation is read as the path of its elements. -/
theorem Path.ofChars_of_derives {tree : List WrittenElement} {text : List Char}
    (h : Derives tree text) : Path.ofChars text = .ok ⟨tree.map WrittenElement.value⟩ := by
  obtain ⟨rfl, hne, hrange, path, hpath⟩ := h
  obtain ⟨written, rest, rfl⟩ := List.exists_cons_of_ne_nil hne
  rw [Path.ofChars, elements_complete hrange]
  rw [elements_of_ofElements hpath] at hpath
  exact hpath

/-- Texts are read as paths exactly when they follow the grammar: a text is read as a path if and
only if it has a derivation, it has no other one, and the path has the elements that the derivation
denotes. -/
theorem Path.ofString_follows_grammar (text : String) :
    ((∃ path, Path.ofString text = .ok path) ↔ ∃ tree, Derives tree text.toList) ∧
      ∀ tree, Derives tree text.toList →
        Path.ofString text = .ok ⟨tree.map WrittenElement.value⟩ ∧
          ∀ other, Derives other text.toList → other = tree := by
  have hderived : ∀ tree, Derives tree text.toList →
      Path.ofString text = .ok ⟨tree.map WrittenElement.value⟩ :=
    fun tree htree => Path.ofChars_of_derives htree
  refine ⟨⟨?_, ?_⟩, ?_⟩
  · rintro ⟨path, hpath⟩
    exact Path.exists_derives hpath
  · rintro ⟨tree, htree⟩
    exact ⟨_, hderived tree htree⟩
  · intro tree htree
    refine ⟨hderived tree htree, ?_⟩
    intro other hother
    have htext := hother.text_eq.symm.trans htree.text_eq
    exact eq_of_flatMap_chars hother.inRange htree.inRange (List.cons.inj htext).2

/-- Two quoted names, one with an escape and one empty, with their indexes. -/
def quotedNames : List WrittenElement :=
  [⟨.quoted false [.plain 'i' (by decide), .escaped '\'' (.inl rfl)], some (.run 1 Nat.one_pos)⟩,
    ⟨.quoted true [], some (.position ['7'] rfl)⟩]

/-- Quoted names are read by the only derivation of their text. -/
theorem Path.ofString_follows_grammar_of_quoted_names :
    Derives quotedNames "$['i\\''][*].[''][7]".toList ∧
      Path.ofString "$['i\\''][*].[''][7]" = .ok ⟨[⟨"i'", .wildcard 1⟩, ⟨"", .static 7⟩]⟩ ∧
      ∀ other, Derives other "$['i\\''][*].[''][7]".toList → other = quotedNames := by
  have hderives : Derives quotedNames "$['i\\''][*].[''][7]".toList := by
    refine ⟨rfl, List.cons_ne_nil _ _, ?_, ⟨[⟨"i'", .wildcard 1⟩, ⟨"", .static 7⟩]⟩, rfl⟩
    intro element hmem index hindex
    simp only [quotedNames, List.mem_cons, List.not_mem_nil, or_false] at hmem
    rcases hmem with rfl | rfl
    · cases hindex
      trivial
    · cases hindex
      show digitsValue ['7'] < 2 ^ 32
      decide
  obtain ⟨hread, hunique⟩ := (Path.ofString_follows_grammar _).2 quotedNames hderives
  exact ⟨hderives, hread, hunique⟩

end DocumentMapping
