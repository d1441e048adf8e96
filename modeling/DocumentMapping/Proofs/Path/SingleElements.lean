import DocumentMapping.Proofs.Path.RoundTrip
import DocumentMapping.Proofs.Sequencing
import Mathlib

/-!
# Single elements

An element can be read alone, and then it may also start with a name without a dot. The element that
is read alone is the one that a path of a single element has, and the text of every element of a
path is read alone as that element.
-/

namespace DocumentMapping

namespace PathText

variable {text : List Char} {found : PathElement}

/-! ## Paths of one element -/

/-- One element and nothing else is read as elements exactly when it is read as an element. -/
theorem elements_eq_singleton_iff :
    elements text = .ok ([found], []) ↔ element text = .ok (some (found, [])) := by
  have hnone : elements [] = .ok ([], []) := by
    rw [elements]
    rfl
  rw [elements]
  constructor
  · intro h
    split at h
    · cases h
    · cases h
    · rename_i first rest hread
      split at h
      · cases h
      · rename_i more left hmore
        cases h
        -- no further element is read, so nothing is taken off the rest
        rw [elements] at hmore
        split at hmore
        · cases hmore
        · cases hmore
          exact hread
        · split at hmore <;> cases hmore
  · intro h
    split
    · rename_i hfault
      cases h.symm.trans hfault
    · rename_i habsent
      cases h.symm.trans habsent
    · rename_i first rest hread
      cases h.symm.trans hread
      rw [hnone]

/-- A path of one element follows the dollar sign exactly when the element does. -/
theorem ofChars_eq_singleton_iff :
    Path.ofChars ('$' :: text) = .ok ⟨[found]⟩ ↔ element text = .ok (some (found, [])) := by
  have hsingle : Path.ofElements [found] = .ok ⟨[found]⟩ := by
    obtain ⟨name, index⟩ := found
    cases index <;> rfl
  rw [← elements_eq_singleton_iff, Path.ofChars]
  constructor
  · intro h
    split at h
    · cases h
    · cases h
    · rename_i first more hread
      cases Path.elements_of_ofElements h
      exact hread
    · cases h
  · intro h
    simp only [h, hsingle]

/-! ## Elements without a dot -/

/-- A character of a name without quotes starts no element of a path. -/
theorem element_of_isBareNameChar {c : Char} (hc : isBareNameChar c = true) (rest : List Char) :
    element (c :: rest) = .ok none := by
  have hdot : c ≠ '.' := by
    rintro rfl
    exact absurd hc (by simp [isBareNameChar_dot])
  have hbracket : c ≠ '[' := by
    rintro rfl
    exact absurd hc (by simp [isBareNameChar_bracket])
  have hname : elementName (c :: rest) = .ok none := by
    unfold elementName
    split <;> simp_all
  rw [element, hname]

/-- What starts with a name without a dot is read as if the dot stood in front of it. -/
theorem undottedElement_eq {c : Char} (hc : isBareNameChar c = true) (rest : List Char) :
    undottedElement (c :: rest) = element ('.' :: c :: rest) := by
  have hbracket : c ≠ '[' := by
    rintro rfl
    exact absurd hc (by simp [isBareNameChar_bracket])
  have hname : elementName ('.' :: c :: rest) = .ok (bareName (c :: rest)) := by
    unfold elementName
    split <;> simp_all
  rw [undottedElement, element, hname]
  cases bareName (c :: rest) <;> rfl

/-- Without a dot an element starts with a character of its name. -/
theorem exists_head_of_undottedElement {rest : List Char}
    (h : undottedElement text = .ok (some (found, rest))) :
    ∃ c ∈ text.head?, isBareNameChar c = true := by
  unfold undottedElement at h
  split at h
  · cases h
  · rename_i name left hname
    obtain ⟨rfl, hbare⟩ := bareName_sound hname
    obtain ⟨hne, hall⟩ := isBareName_iff.mp hbare
    obtain ⟨c, more, rfl⟩ := List.exists_cons_of_ne_nil hne
    exact ⟨c, rfl, hall c List.mem_cons_self⟩

end PathText

open PathText

/-! ## Elements that are read alone -/

namespace PathElement

variable {text : List Char} {found : PathElement}

/-- An element is read alone in the form that it has in a path, or else without a dot. -/
theorem ofChars_eq_ok_iff :
    PathElement.ofChars text = .ok found ↔
      element text = .ok (some (found, [])) ∨
        element text = .ok none ∧ undottedElement text = .ok (some (found, [])) := by
  unfold PathElement.ofChars
  cases hread : element text with
  | error fault => simp
  | ok whole =>
    cases whole with
    | some whole =>
      obtain ⟨first, left⟩ := whole
      cases left <;> simp
    | none =>
      cases hundotted : undottedElement text with
      | error fault => simp
      | ok whole =>
        cases whole with
        | none => simp
        | some whole =>
          obtain ⟨first, left⟩ := whole
          cases left <;> simp

/-- An element that is read alone without a dot is the one of the path with a dot. -/
theorem undotted_iff :
    (element text = .ok none ∧ undottedElement text = .ok (some (found, []))) ↔
      element ('.' :: text) = .ok (some (found, [])) ∧
        ∃ c ∈ text.head?, isBareNameChar c = true := by
  constructor
  · rintro ⟨-, hundotted⟩
    obtain ⟨c, hhead, hc⟩ := exists_head_of_undottedElement hundotted
    obtain ⟨rest, rfl⟩ : ∃ rest, text = c :: rest := List.head?_eq_some_iff.mp hhead
    exact ⟨(undottedElement_eq hc rest).symm.trans hundotted, c, rfl, hc⟩
  · rintro ⟨hdotted, c, hhead, hc⟩
    obtain ⟨rest, rfl⟩ : ∃ rest, text = c :: rest := List.head?_eq_some_iff.mp hhead
    exact ⟨element_of_isBareNameChar hc rest, (undottedElement_eq hc rest).trans hdotted⟩

/-- Elements are read alone as they are in paths: an element is read from a text exactly when it is
the only element of the path with that text after its dollar sign, or after its dollar sign and a
dot when the text starts with a name. The text of every element of a path is read as that
element. -/
theorem single_elements_are_read :
    (∀ text element, PathElement.ofString text = .ok element ↔
      Path.ofString ("$" ++ text) = .ok ⟨[element]⟩ ∨
        Path.ofString ("$." ++ text) = .ok ⟨[element]⟩ ∧
          ∃ c ∈ text.toList.head?, isBareNameChar c = true) ∧
    ∀ text path, Path.ofString text = .ok path →
      ∀ element ∈ path.elements, PathElement.ofString element.text = .ok element := by
  refine ⟨?_, ?_⟩
  · intro text found
    have hplain : Path.ofString ("$" ++ text) = Path.ofChars ('$' :: text.toList) := by
      rw [Path.ofString, String.toList_append]
      rfl
    have hdotted : Path.ofString ("$." ++ text) = Path.ofChars ('$' :: '.' :: text.toList) := by
      rw [Path.ofString, String.toList_append]
      rfl
    rw [PathElement.ofString, ofChars_eq_ok_iff, undotted_iff, hplain, hdotted,
      ofChars_eq_singleton_iff, ofChars_eq_singleton_iff]
  · intro text path hread found hmem
    have hwritable := Path.isWritable_of_ofString hread found hmem
    obtain ⟨written, hchars, hvalue, hrange⟩ := exists_written hwritable
    have hwhole := element_complete hrange .finished
    rw [List.append_nil, hchars, hvalue] at hwhole
    rw [PathElement.ofString, PathElement.text, String.toList_ofList, ofChars_eq_ok_iff]
    exact .inl hwhole

/-- The elements of a path with quoted names are read alone. -/
theorem single_elements_are_read_of_quoted_names :
    Path.ofString "$['i\\''][*].[''][7]" = .ok ⟨[⟨"i'", .wildcard 1⟩, ⟨"", .static 7⟩]⟩ ∧
      PathElement.ofString "['i\\''][*]" = .ok ⟨"i'", .wildcard 1⟩ := by
  have hread : Path.ofString "$['i\\''][*].[''][7]" =
      .ok ⟨[⟨"i'", .wildcard 1⟩, ⟨"", .static 7⟩]⟩ := by cbv
  exact ⟨hread, single_elements_are_read.2 _ _ hread ⟨"i'", .wildcard 1⟩ List.mem_cons_self⟩

end PathElement

end DocumentMapping
