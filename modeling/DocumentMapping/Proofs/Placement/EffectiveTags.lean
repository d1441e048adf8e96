import DocumentMapping.Proofs.Mapping.Steering

/-!
# Correlation is matching of effective tags

The correlation of two paths has a second description that knows nothing of the order in which its
entries are made. A tag of the source whose effective tag the destination has leads to the first
element of the destination with the effective tag. Every other key is listed when it is a tag of the
destination that is not correlated, and leads to the first element that it is the tag of.
-/

namespace DocumentMapping

/-- The first element of a path that has a tag. -/
def Path.FirstTagged (path : Path) (tag : String) (element : PathElement) : Prop :=
  ∃ before after, path.elements = before ++ element :: after ∧ element.tag? = some tag ∧
    ∀ earlier ∈ before, earlier.tag? ≠ some tag

theorem Path.find?_eq_some_iff_firstTagged {path : Path} {tag : String} {element : PathElement} :
    path.elements.find? (·.tag? = some tag) = some element ↔ path.FirstTagged tag element := by
  rw [List.find?_eq_some_iff_append]
  constructor
  · rintro ⟨htag, before, after, hsplit, hearlier⟩
    exact ⟨before, after, hsplit, of_decide_eq_true htag, by simpa using hearlier⟩
  · rintro ⟨before, after, hsplit, htag, hearlier⟩
    exact ⟨decide_eq_true htag, before, after, hsplit, by simpa using hearlier⟩

/-- The tags of the indexed elements of an optional source. -/
def sourceTags (source : Option Path) : List String :=
  (source.map Path.tags).getD []

/-- A tag under which an indexed element of the source can steer the destination. -/
def IsEffective (source : Option Path) (renames : Renames) (tag : String) : Prop :=
  ∃ sourceTag ∈ sourceTags source, renames.resolve sourceTag = tag

/-- A key steers when it is a tag of the source whose effective tag the destination has. -/
def Steers (destination : Path) (source : Option Path) (renames : Renames) (key : String) : Prop :=
  key ∈ sourceTags source ∧ renames.resolve key ∈ destination.tags

namespace Correlation

variable {destination : Path} {source : Option Path} {renames : Renames}

/-- What is found under a tag is the first element with the tag. -/
theorem elementTagged?_eq_some_iff {path : Path} {tag : String} {target : CorrelationTarget} :
    elementTagged? path tag = some target ↔
      ∃ element, path.FirstTagged tag element ∧ target = ⟨element.name, tag⟩ := by
  rw [elementTagged?, Option.map_eq_some_iff]
  exact exists_congr fun element => and_congr Path.find?_eq_some_iff_firstTagged eq_comm

/-- Nothing is found under a tag that the path lacks. -/
theorem elementTagged?_eq_none_iff {path : Path} {tag : String} :
    elementTagged? path tag = none ↔ tag ∉ path.tags := by
  constructor
  · intro hnone hmem
    obtain ⟨_, hsome⟩ := exists_elementTagged? hmem
    rw [hnone] at hsome
    cases hsome
  · intro hforeign
    cases hfound : elementTagged? path tag with
    | none => rfl
    | some target => exact absurd (elementTagged?_eq_some hfound).2 hforeign

/-- Under a tag of the source stands the element that has its effective tag. -/
theorem last?_matchedOptional (destination : Path) (source : Option Path) (renames : Renames)
    (key : String) :
    OrderedMap.last? (matchedOptional destination source renames) key =
      if key ∈ sourceTags source then elementTagged? destination (renames.resolve key)
      else none := by
  cases source with
  | none => rfl
  | some source => exact last?_matched destination source renames key

/-- With a source or without one, the correlated tags are those of the destination that are
effective tags. -/
theorem isCorrelated_iff_isEffective {tag : String} :
    (ofPaths destination source renames).isCorrelated tag = true ↔
      tag ∈ destination.tags ∧ IsEffective source renames tag := by
  cases source with
  | none => simp [isCorrelated_ofPaths_none, IsEffective, sourceTags]
  | some source => exact isCorrelated_ofPaths_iff

/-- A key that steers leads to the first element with its effective tag. -/
theorem get?_of_steers {key : String} (h : Steers destination source renames key) :
    (ofPaths destination source renames).get? key =
      elementTagged? destination (renames.resolve key) := by
  obtain ⟨hsource, hdestination⟩ := h
  obtain ⟨target, htarget⟩ := exists_elementTagged? hdestination
  rw [ofPaths, get?_ofMatched, last?_matchedOptional, if_pos hsource, htarget, Option.some_or]

/-- A key that does not steer leads to the first element that it is the tag of, unless the tag is
correlated. -/
theorem get?_of_not_steers {key : String} (h : ¬Steers destination source renames key) :
    (ofPaths destination source renames).get? key =
      if (ofPaths destination source renames).isCorrelated key then none
      else elementTagged? destination key := by
  have hnone : OrderedMap.last? (matchedOptional destination source renames) key = none := by
    rw [last?_matchedOptional]
    split
    · rename_i hsource
      exact elementTagged?_eq_none_iff.mpr fun hdestination => h ⟨hsource, hdestination⟩
    · rfl
  rw [ofPaths, get?_ofMatched, hnone, Option.none_or]

end Correlation

/-- The correlation of a destination with an optional source is the matching of effective tags. A
tag is correlated when it is a tag of the destination and the effective tag of an indexed element of
the source. A tag of the source whose effective tag is one of the destination leads to the first
element of the destination with this effective tag. Every other key leads somewhere exactly when it
is a tag of the destination that is not correlated, and then to the first element with the key
itself. -/
theorem correlation_matches_effective_tags (destination : Path) (source : Option Path)
    (renames : Renames) :
    let correlation := Correlation.ofPaths destination source renames
    (∀ tag, correlation.isCorrelated tag = true ↔
      tag ∈ destination.tags ∧ IsEffective source renames tag) ∧
    (∀ key, Steers destination source renames key →
      ∃ element, destination.FirstTagged (renames.resolve key) element ∧
        correlation.get? key = some ⟨element.name, renames.resolve key⟩) ∧
    (∀ key, ¬Steers destination source renames key →
      ((correlation.get? key).isSome = true ↔
        key ∈ destination.tags ∧ correlation.isCorrelated key = false) ∧
      ∀ target, correlation.get? key = some target →
        ∃ element, destination.FirstTagged key element ∧ target = ⟨element.name, key⟩) := by
  intro correlation
  refine ⟨fun tag => Correlation.isCorrelated_iff_isEffective, fun key hsteers => ?_,
    fun key hsteers => ?_⟩
  · obtain ⟨target, htarget⟩ := Correlation.exists_elementTagged? hsteers.2
    obtain ⟨element, hfirst, rfl⟩ := Correlation.elementTagged?_eq_some_iff.mp htarget
    exact ⟨element, hfirst, (Correlation.get?_of_steers hsteers).trans htarget⟩
  · have hget : correlation.get? key = _ := Correlation.get?_of_not_steers hsteers
    cases hcorrelated : correlation.isCorrelated key with
    | true =>
      rw [if_pos hcorrelated] at hget
      simp [hget]
    | false =>
      rw [if_neg (Bool.eq_false_iff.mp hcorrelated)] at hget
      rw [hget]
      refine ⟨?_, fun target htarget => Correlation.elementTagged?_eq_some_iff.mp htarget⟩
      rw [and_iff_left rfl, Option.isSome_iff_ne_none, ne_eq,
        Correlation.elementTagged?_eq_none_iff, not_not]

/-- Two runs that are renamed to each other, a fixed position that both paths use twice, and a tag
that only the destination has. -/
theorem correlation_matches_effective_tags_of_swapped_runs :
    let source : Path := ⟨[⟨"a", .wildcard 1⟩, ⟨"b", .wildcard 2⟩, ⟨"c", .static 0⟩,
      ⟨"d", .static 0⟩]⟩
    let destination : Path := ⟨[⟨"p", .wildcard 2⟩, ⟨"q", .static 0⟩, ⟨"r", .wildcard 1⟩,
      ⟨"s", .static 0⟩, ⟨"t", .static 7⟩]⟩
    let renames : Renames := [("*", "**"), ("**", "*")]
    let correlation := Correlation.ofPaths destination (some source) renames
    (Steers destination (some source) renames "*" ∧ correlation.get? "*" = some ⟨"p", "**"⟩) ∧
    (Steers destination (some source) renames "0" ∧ correlation.get? "0" = some ⟨"q", "0"⟩) ∧
    (¬Steers destination (some source) renames "7" ∧ correlation.isCorrelated "7" = false ∧
      (correlation.get? "7").isSome = true) := by
  intro source destination renames correlation
  obtain ⟨-, hsteered, hother⟩ :=
    correlation_matches_effective_tags destination (some source) renames
  have hrun : Steers destination (some source) renames "*" := ⟨by decide, by decide⟩
  have hposition : Steers destination (some source) renames "0" := ⟨by decide, by decide⟩
  have hlisted : ¬Steers destination (some source) renames "7" :=
    fun hsteers => absurd hsteers.1 (by decide)
  have huncorrelated : correlation.isCorrelated "7" = false := rfl
  refine ⟨⟨hrun, ?_⟩, ⟨hposition, ?_⟩, hlisted, huncorrelated,
    (hother "7" hlisted).1.mpr ⟨by decide, huncorrelated⟩⟩
  · obtain ⟨element, hfirst, hget⟩ := hsteered "*" hrun
    have hfound : some ⟨"p", .wildcard 2⟩ = some element :=
      Path.find?_eq_some_iff_firstTagged.mpr hfirst
    cases hfound
    exact hget
  · obtain ⟨element, hfirst, hget⟩ := hsteered "0" hposition
    have hfound : some ⟨"q", .static 0⟩ = some element :=
      Path.find?_eq_some_iff_firstTagged.mpr hfirst
    cases hfound
    exact hget

end DocumentMapping
