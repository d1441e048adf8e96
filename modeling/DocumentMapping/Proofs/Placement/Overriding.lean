import DocumentMapping.Placement.Hints
import DocumentMapping.Proofs.Sequencing

/-!
# Hints that override hints

What a pair adds does not depend on the hints before it: reading further pairs is reading them on
their own and overriding the hints before by what they say. Hence a text of two parts says what its
first part says, overridden by its second part.
-/

namespace DocumentMapping.Hints

/-- The hints of two texts of which the later one counts. -/
def overriddenBy (hints later : Hints) : Hints :=
  ⟨hints.placement.merge later.placement, hints.renames.merge later.renames⟩

/-- Whether no tag and no run has two entries. -/
structure Unrepeated (hints : Hints) : Prop where
  placement : hints.placement.keys.Nodup
  renames : hints.renames.keys.Nodup

theorem unrepeated_none : none.Unrepeated :=
  ⟨List.nodup_nil, List.nodup_nil⟩

/-! ## Overriding -/

section

variable {hints earlier later : Hints}

theorem Unrepeated.overriddenBy (h : hints.Unrepeated) (later : Hints) :
    (hints.overriddenBy later).Unrepeated :=
  ⟨OrderedMap.nodup_keys_merge h.placement _, OrderedMap.nodup_keys_merge h.renames _⟩

theorem overriddenBy_overriddenBy (h : earlier.Unrepeated) (hints later : Hints) :
    hints.overriddenBy (earlier.overriddenBy later) =
      (hints.overriddenBy earlier).overriddenBy later := by
  simp only [Hints.overriddenBy, OrderedMap.merge_merge _ h.placement,
    OrderedMap.merge_merge _ h.renames]

/-- A tag has the later hint, or else the one before. -/
theorem get?_placement_overriddenBy (h : later.Unrepeated) (hints : Hints) (tag : String) :
    (hints.overriddenBy later).placement.get? tag =
      (later.placement.get? tag).or (hints.placement.get? tag) := by
  rw [Hints.overriddenBy, OrderedMap.get?_merge, OrderedMap.last?_of_nodup h.placement]

/-- A run has the later name, or else the one before. -/
theorem get?_renames_overriddenBy (h : later.Unrepeated) (hints : Hints) (marker : String) :
    (hints.overriddenBy later).renames.get? marker =
      (later.renames.get? marker).or (hints.renames.get? marker) := by
  rw [Hints.overriddenBy, OrderedMap.get?_merge, OrderedMap.last?_of_nodup h.renames]

end

/-! ## What a pair adds -/

/-- A tag and its value say the same after any hints. -/
theorem add_eq (hints : Hints) (tag value : List Char) :
    hints.add tag value = (none.add tag value).map hints.overriddenBy := by
  unfold add
  split
  · rfl
  · split
    · rfl
    · split
      · split <;> rfl
      · split <;> rfl

theorem addPair_eq (hints : Hints) (pair : List Char) :
    hints.addPair pair = (none.addPair pair).map hints.overriddenBy := by
  unfold addPair
  split
  · rfl
  · exact add_eq hints _ _

theorem Unrepeated.add {hints after : Hints} {tag value : List Char} (h : hints.Unrepeated)
    (hadd : hints.add tag value = .ok after) : after.Unrepeated := by
  rw [add_eq] at hadd
  obtain ⟨said, -, rfl⟩ := Except.map_eq_ok_iff.mp hadd
  exact h.overriddenBy said

theorem Unrepeated.addPair {hints after : Hints} {pair : List Char} (h : hints.Unrepeated)
    (hadd : hints.addPair pair = .ok after) : after.Unrepeated := by
  rw [addPair_eq] at hadd
  obtain ⟨said, -, rfl⟩ := Except.map_eq_ok_iff.mp hadd
  exact h.overriddenBy said

/-! ## What pairs add -/

/-- Pairs say the same after any hints. -/
theorem foldlM_addPair_eq (hints : Hints) (pairs : List (List Char)) :
    pairs.foldlM addPair hints = (pairs.foldlM addPair none).map hints.overriddenBy := by
  induction pairs generalizing hints with
  | nil => rfl
  | cons pair rest ih =>
    rw [List.foldlM_cons, List.foldlM_cons, addPair_eq]
    cases hsaid : none.addPair pair with
    | error problem => rfl
    | ok said =>
      have hunrepeated : said.Unrepeated := unrepeated_none.addPair hsaid
      show rest.foldlM addPair (hints.overriddenBy said) =
        (rest.foldlM addPair said).map hints.overriddenBy
      rw [ih, ih said]
      cases rest.foldlM addPair none with
      | error problem => rfl
      | ok later => exact congrArg _ (overriddenBy_overriddenBy hunrepeated hints later).symm

theorem Unrepeated.foldlM_addPair {hints after : Hints} {pairs : List (List Char)}
    (h : hints.Unrepeated) (hread : pairs.foldlM Hints.addPair hints = .ok after) :
    after.Unrepeated := by
  rw [foldlM_addPair_eq] at hread
  obtain ⟨said, -, rfl⟩ := Except.map_eq_ok_iff.mp hread
  exact h.overriddenBy said

/-- A hint text gives one hint for a tag and one name for a run. -/
theorem unrepeated_of_read {text : String} {hints : Hints} (h : read text = .ok hints) :
    hints.Unrepeated :=
  unrepeated_none.foldlM_addPair h

/-- Pairs in a row say what the first ones say, overridden by what the others say. -/
theorem foldlM_addPair_append (first second : List (List Char)) :
    (first ++ second).foldlM addPair none =
      (first.foldlM addPair none).bind fun earlier =>
        (second.foldlM addPair none).map earlier.overriddenBy := by
  rw [List.foldlM_append]
  cases first.foldlM addPair none with
  | error problem => rfl
  | ok earlier => exact foldlM_addPair_eq earlier second

end DocumentMapping.Hints
