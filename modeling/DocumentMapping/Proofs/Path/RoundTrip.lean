import DocumentMapping.Proofs.Path.Reading

/-!
# Written paths are read again

The canonical text of a path follows the grammar: names are written without quotes where that is
possible and with escapes otherwise. So every path whose indexes can be written at all is read back
from its text, which covers all paths that come from texts and the columns of tables.
-/

namespace DocumentMapping

open PathText

/-! ## Canonical derivations -/

/-- Whether an index can be written: a run has an asterisk, and a name has the form of a tag. -/
def PathIndex.IsWritable : PathIndex → Prop
  | .none => True
  | .static _ => True
  | .wildcard run => 0 < run
  | .named tag => ∃ written : WrittenTag, written.chars = tag.toList

theorem PathIndex.exists_written {index : PathIndex} (h : index.IsWritable) :
    ∃ written : Option WrittenIndex, WrittenElement.indexChars written = index.chars ∧
      WrittenElement.indexValue written = index ∧ ∀ found ∈ written, found.InRange := by
  cases index with
  | none => exact ⟨Option.none, rfl, rfl, by simp⟩
  | static position =>
    have hvalue := digitsValue_digitChars position.toNat
    refine ⟨some (.position _ (isDigits_digitChars position.toNat)), ?_, ?_, ?_⟩
    · simp [WrittenElement.indexChars, WrittenIndex.chars, WrittenIndex.content, PathIndex.chars,
        PathIndex.tag?]
    · show PathIndex.static (UInt32.ofNat _) = _
      rw [hvalue, UInt32.ofNat_toNat]
    · intro found hfound
      cases hfound
      show digitsValue _ < _
      rw [hvalue]
      exact position.toNat_lt
  | wildcard run =>
    refine ⟨some (.run run h), ?_, rfl, ?_⟩
    · simp [WrittenElement.indexChars, WrittenIndex.chars, WrittenIndex.content, PathIndex.chars,
        PathIndex.tag?, PathIndex.marker]
    · intro found hfound
      cases hfound
      trivial
  | named tag =>
    obtain ⟨written, hchars⟩ := h
    refine ⟨some (.tag written), ?_, ?_, ?_⟩
    · simp [WrittenElement.indexChars, WrittenIndex.chars, WrittenIndex.content, PathIndex.chars,
        PathIndex.tag?, hchars]
    · show PathIndex.named (String.ofList written.chars) = _
      rw [hchars, String.ofList_toList]
    · intro found hfound
      cases hfound
      trivial

theorem PathElement.exists_written {element : PathElement} (h : element.index.IsWritable) :
    ∃ written : WrittenElement, written.chars = element.chars ∧ written.value = element ∧
      written.InRange := by
  obtain ⟨index, hchars, hvalue, hrange⟩ := PathIndex.exists_written h
  refine ⟨⟨.ofName element.name.toList, index⟩, ?_, ?_, hrange⟩
  · rw [WrittenElement.chars, WrittenName.chars_ofName, hchars, PathElement.chars]
  · rw [WrittenElement.value, WrittenName.value_ofName, hvalue, String.ofList_toList]

/-- Elements whose indexes can be written have a derivation of their canonical texts. -/
theorem exists_writtenElements {elements : List PathElement}
    (h : ∀ element ∈ elements, element.index.IsWritable) :
    ∃ tree : List WrittenElement,
      tree.flatMap WrittenElement.chars = elements.flatMap PathElement.chars ∧
      tree.map WrittenElement.value = elements ∧ ∀ written ∈ tree, written.InRange := by
  induction elements with
  | nil => exact ⟨[], rfl, rfl, by simp⟩
  | cons element rest ih =>
    obtain ⟨hfirst, hrest⟩ := List.forall_mem_cons.mp h
    obtain ⟨written, hchars, hvalue, hrange⟩ := PathElement.exists_written hfirst
    obtain ⟨tree, hchars', hvalue', hranges⟩ := ih hrest
    refine ⟨written :: tree, ?_, ?_, List.forall_mem_cons.mpr ⟨hrange, hranges⟩⟩
    · rw [List.flatMap_cons, List.flatMap_cons, hchars, hchars']
    · rw [List.map_cons, hvalue, hvalue']

/-- What follows the grammar denotes elements whose indexes can be written. -/
theorem PathText.WrittenElement.isWritable_value (written : WrittenElement) :
    written.value.index.IsWritable := by
  obtain ⟨name, index⟩ := written
  cases index with
  | none => trivial
  | some index =>
    cases index with
    | run length length_pos => exact length_pos
    | position digits hdigits => trivial
    | tag tag => exact ⟨tag, String.toList_ofList.symm⟩

/-! ## Round trips -/

namespace Path

/-- A path whose indexes can be written is read back from its text. -/
theorem ofString_text_of_isWritable {path : Path} (hne : path.elements ≠ [])
    (hwritable : ∀ element ∈ path.elements, element.index.IsWritable)
    (hpath : Path.ofElements path.elements = .ok path) : Path.ofString path.text = .ok path := by
  obtain ⟨tree, hchars, hvalue, hrange⟩ := exists_writtenElements hwritable
  have hderives : Derives tree path.text.toList := by
    refine ⟨?_, ?_, hrange, path, by rw [hvalue, hpath]⟩
    · rw [Path.text, String.toList_ofList, Path.chars, hchars]
    · rintro rfl
      exact hne hvalue.symm
  rw [Path.ofString, ofChars_of_derives hderives, hvalue]

/-- The indexes of a path that comes from a text can be written. -/
theorem isWritable_of_ofString {text : String} {path : Path} (h : Path.ofString text = .ok path) :
    ∀ element ∈ path.elements, element.index.IsWritable := by
  obtain ⟨tree, htree⟩ := exists_derives h
  obtain rfl : path = ⟨tree.map WrittenElement.value⟩ :=
    Except.ok.inj (h.symm.trans (ofChars_of_derives htree))
  intro element hmem
  obtain ⟨written, _, rfl⟩ := List.mem_map.mp hmem
  exact written.isWritable_value

/-- The canonical text of a path is read as that path: for all elements that form a path and whose
indexes can be written, for all paths that come from a text, and for all columns of tables. -/
theorem text_round_trip :
    (∀ elements path, elements ≠ [] → (∀ element ∈ elements, element.index.IsWritable) →
      Path.ofElements elements = .ok path → Path.ofString path.text = .ok path) ∧
    (∀ text path, Path.ofString text = .ok path → Path.ofString path.text = .ok path) ∧
    ∀ row title, Path.ofString (Path.tabularColumn row title).text =
      .ok (Path.tabularColumn row title) := by
  refine ⟨?_, ?_, ?_⟩
  · intro elements path hne hwritable hpath
    obtain rfl := elements_of_ofElements hpath
    exact ofString_text_of_isWritable hne hwritable hpath
  · intro text path hread
    obtain ⟨tree, htree⟩ := exists_derives hread
    obtain rfl : path = ⟨tree.map WrittenElement.value⟩ :=
      Except.ok.inj (hread.symm.trans (ofChars_of_derives htree))
    obtain ⟨path, hpath⟩ := htree.consistent
    rw [elements_of_ofElements hpath] at hpath
    exact ofString_text_of_isWritable
      (fun hnil => htree.nonempty (List.map_eq_nil_iff.mp hnil)) (isWritable_of_ofString hread)
      hpath
  · intro row title
    refine ofString_text_of_isWritable (by simp [tabularColumn]) ?_ rfl
    intro element hmem
    simp only [tabularColumn, List.mem_cons, List.not_mem_nil, or_false] at hmem
    rcases hmem with rfl | rfl
    · exact Nat.one_pos
    · trivial

/-- Elements whose names need escapes, or are empty, and a tag with a number. -/
def escapedElements : List PathElement :=
  [⟨"a]'\\", .named "t_1-2"⟩, ⟨"", .static 7⟩, .property "plain"]

/-- A path whose names need escapes is read back from its text. -/
theorem text_round_trip_of_escapes :
    escapedElements ≠ [] ∧ (∀ element ∈ escapedElements, element.index.IsWritable) ∧
      Path.ofElements escapedElements = .ok ⟨escapedElements⟩ ∧
      Path.ofString (Path.text ⟨escapedElements⟩) = .ok ⟨escapedElements⟩ := by
  have hne : escapedElements ≠ [] := List.cons_ne_nil _ _
  have hwritable : ∀ element ∈ escapedElements, element.index.IsWritable := by
    intro element hmem
    simp only [escapedElements, List.mem_cons, List.not_mem_nil, or_false] at hmem
    rcases hmem with rfl | rfl | rfl
    · refine ⟨⟨['t', '_', '1'], some ['2'], List.cons_ne_nil _ _, ?_, ?_, nofun⟩, rfl⟩
      · exact List.all_eq_true.mp rfl
      · rintro digits ⟨⟩
        rfl
    · trivial
    · trivial
  have hpath : Path.ofElements escapedElements = .ok ⟨escapedElements⟩ := rfl
  exact ⟨hne, hwritable, hpath, text_round_trip.1 _ _ hne hwritable hpath⟩

end Path

end DocumentMapping
