import DocumentMapping.Proofs.Mapping.Landing

/-!
# Renamed runs that stray

An index of the source gives its position to the tag of the destination that is its effective tag.
There is one exception: when a run is renamed to a tag that the destination lacks, the run is looked
up by its own text, and a tag of the destination that is spelled like it gets the position although
it is not correlated. What the place of a value adds to the hints of a rule is described here for
every tag without a hint.
-/

namespace DocumentMapping

/-- A tag of the source strays when the destination lacks its effective tag. -/
def Strays (source destination : Path) (renames : Renames) (tag : String) : Prop :=
  tag ∈ source.tags ∧ renames.resolve tag ∉ destination.tags

/-- Only a tag that is renamed can stray to a tag of the destination with its spelling. -/
theorem Strays.ne_resolve {source destination : Path} {renames : Renames} {tag : String}
    (h : Strays source destination renames tag) (hdestination : tag ∈ destination.tags) :
    renames.resolve tag ≠ tag := by
  intro hkept
  rw [Strays, hkept] at h
  exact h.2 hdestination

/-- Under a tag of the destination without a hint, the place of a value adds a hint exactly when the
tag is correlated, which means that it is the effective tag of an indexed element of the source, or
when a tag of the source with its spelling strays. A correlated tag gets the position of the last
element with this effective tag in the concrete path of the value. A tag that is not correlated gets
that of the last element with the tag itself, if it strays. -/
theorem positions_go_to_effective_tags {rule : Rule} {lookups : Lookups}
    {options : MappingOptions} {settings : EngineSettings} {plan : RulePlan} {source : Path}
    {hints : Hints} (hplan : RulePlan.ofRule rule lookups options settings = .ok plan)
    (hsource : plan.source = some source) (hhints : RulePlan.hintsOf rule = .ok hints)
    {tree : Node} {value : SelectedValue} (hvalue : value ∈ (Reader.start tree source).toList)
    {tag : String} (hdestination : tag ∈ plan.destination.tags)
    (hunpinned : hints.placement.get? tag = none) :
    let added := (plan.steer value).get? tag
    (plan.correlation.isCorrelated tag = true ↔
      ∃ sourceTag ∈ source.tags, hints.renames.resolve sourceTag = tag) ∧
    (plan.correlation.isCorrelated tag = true →
      ∃ position, steeredPosition? source hints.renames value tag = some position ∧
        added = some (.position position)) ∧
    (plan.correlation.isCorrelated tag = false →
      (¬ Strays source plan.destination hints.renames tag → added = none) ∧
      (Strays source plan.destination hints.renames tag → hints.renames.resolve tag ≠ tag ∧
        ∃ position, steeredPosition? source [] value tag = some position ∧
          added = some (.position position))) := by
  intro added
  rw [Reader.toList_start] at hvalue
  have hcovers := (Path.mem_select_iff.mp hvalue).1
  obtain ⟨hplacement, hcorrelation⟩ := RulePlan.hints_of_ofRule hplan hhints
  rw [hsource] at hcorrelation
  have hcontains : plan.placement.contains tag = false := by
    rw [hplacement]
    exact OrderedMap.contains_eq_false_iff.mpr hunpinned
  have hiff : plan.correlation.isCorrelated tag = true ↔
      ∃ sourceTag ∈ source.tags, hints.renames.resolve sourceTag = tag := by
    rw [hcorrelation, Correlation.isCorrelated_ofPaths_iff, and_iff_right hdestination]
  refine ⟨hiff, fun hcorrelated => ?_, fun huncorrelated => ⟨fun hkept => ?_, fun hstrays => ?_⟩⟩
  · obtain ⟨sourceTag, hsourceTag, rfl⟩ := hiff.mp hcorrelated
    obtain ⟨position, hposition⟩ := exists_steeredPosition? hcovers hsourceTag
    refine ⟨position, hposition, ?_⟩
    have hadded := RulePlan.get?_steer_of_isCorrelated hsource hcorrelation hcontains hcorrelated
      value
    rwa [hposition] at hadded
  · have hadded := RulePlan.get?_steer_of_not_isCorrelated hsource hcorrelation hcontains
      hdestination huncorrelated value
    by_cases hmem : tag ∈ source.tags
    · rwa [if_pos (not_not.mp fun hlacks => hkept ⟨hmem, hlacks⟩)] at hadded
    · -- no element of the source has the tag itself
      rwa [steeredPosition?_eq_none hmem, Option.map_none, ite_self] at hadded
  · obtain ⟨position, hposition⟩ := @exists_steeredPosition? source [] value tag hcovers hstrays.1
    have hown : Renames.resolve [] tag = tag := rfl
    rw [hown] at hposition
    refine ⟨hstrays.ne_resolve hdestination, position, hposition, ?_⟩
    have hadded := RulePlan.get?_steer_of_not_isCorrelated hsource hcorrelation hcontains
      hdestination huncorrelated value
    rwa [if_neg hstrays.2, hposition] at hadded

/-- The third line gives its position to the rows, whose tag is that of the lines after renames. -/
theorem positions_go_to_effective_tags_of_lines :
    (lineRule "a=*").Carries (lineLookups "$.rows[a].y") lineNumbers
      ⟨[⟨"rows", .named "a"⟩, .property "y"]⟩ ⟨[], [("*", "a")]⟩ ∧
    (RulePlan.steer ((lineRule "a=*").carryingPlan lineNumbers
      ⟨[⟨"rows", .named "a"⟩, .property "y"]⟩ ⟨[], [("*", "a")]⟩)
      ⟨⟨[.item "lines" 2, .property "x"]⟩, .integer 5⟩).get? "a" = some (.position 2) := by
  have hcarries : (lineRule "a=*").Carries (lineLookups "$.rows[a].y") lineNumbers
      ⟨[⟨"rows", .named "a"⟩, .property "y"]⟩ ⟨[], [("*", "a")]⟩ :=
    ⟨rfl, rfl, rfl, ⟨"lines", _, rfl, rfl, by cbv⟩, ⟨"rows", _, rfl, rfl, by cbv⟩, by cbv⟩
  have hvalue : ⟨⟨[.item "lines" 2, .property "x"]⟩, .integer 5⟩ ∈
      (Reader.start raggedLines lineNumbers).toList := by
    rw [Reader.toList_start]
    decide
  have hrows : "a" ∈ Path.tags ⟨[⟨"rows", .named "a"⟩, .property "y"]⟩ := by decide
  obtain ⟨hcorrelated, hadded, _⟩ := positions_go_to_effective_tags
    (hcarries.ofRule_eq .default .default) rfl hcarries.hintsOf_eq hvalue hrows rfl
  obtain ⟨position, hposition, hadded⟩ := hadded (hcorrelated.mpr ⟨"*", by decide, rfl⟩)
  have hlast : steeredPosition? lineNumbers [("*", "a")]
      ⟨⟨[.item "lines" 2, .property "x"]⟩, .integer 5⟩ "a" = some 2 := rfl
  rw [hlast] at hposition
  cases hposition
  exact ⟨hcarries, hadded⟩

/-- A run that is renamed to a tag that the rows lack drives the tag of the rows with its spelling:
the tag is not correlated, but the number of the second line is put into the second row. -/
theorem strayed_run_drives_tag :
    (lineRule "z=*").Carries (lineLookups "$.rows[*].y") lineNumbers
      ⟨[⟨"rows", .wildcard 1⟩, .property "y"]⟩ ⟨[], [("*", "z")]⟩ ∧
    Strays lineNumbers ⟨[⟨"rows", .wildcard 1⟩, .property "y"]⟩ [("*", "z")] "*" ∧
    let plan := (lineRule "z=*").carryingPlan lineNumbers
      ⟨[⟨"rows", .wildcard 1⟩, .property "y"]⟩ ⟨[], [("*", "z")]⟩
    let lines := Node.object [("lines", .array [.object [],
      .object [("x", .scalar (.integer 5))]])]
    plan.placement.get? "*" = none ∧ plan.correlation.isCorrelated "*" = false ∧
    plan.openTags = ["*"] ∧
    (∃ value ∈ (Reader.start lines lineNumbers).toList,
      (plan.steer value).get? "*" = some (.position 1)) ∧
    (mapSource .default ⟨[], 0⟩ lines [lineRule "z=*"] (lineLookups "$.rows[*].y")
      .default).1.result = .ok (.object [("rows", .array [.scalar .null,
        .object [("y", .scalar (.integer 5))]])]) := by
  have hcarries : (lineRule "z=*").Carries (lineLookups "$.rows[*].y") lineNumbers
      ⟨[⟨"rows", .wildcard 1⟩, .property "y"]⟩ ⟨[], [("*", "z")]⟩ :=
    ⟨rfl, rfl, rfl, ⟨"lines", _, rfl, rfl, by cbv⟩, ⟨"rows", _, rfl, rfl, by cbv⟩, by cbv⟩
  refine ⟨hcarries, ⟨by decide, by decide⟩, rfl, rfl, rfl, ?_, ?_⟩
  · refine ⟨⟨⟨[.item "lines" 1, .property "x"]⟩, .integer 5⟩, ?_, rfl⟩
    rw [Reader.toList_start]
    decide
  · rw [mapSource_eq_ok_iff]
    exact ⟨_, none, [], planRules_eq_ok_iff.mpr (.cons (hcarries.ofRule_eq _ _) .nil),
      prepare_of_isEmpty (hcarries.expressionSources_isEmpty rfl), rfl⟩

end DocumentMapping
