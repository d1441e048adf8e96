import DocumentMapping.Proofs.Mapping.Steering

/-!
# Where the values of a rule land

A rule that takes the values of one path over to another stores each of them at a single location
when every index of the destination is fixed, pinned by a hint, or correlated with an index of the
source. The location is described here from the two paths, the hints and the concrete path of the
value alone. The target of the mapping then holds the last value at each of these locations and
otherwise nothing but padding.
-/

namespace DocumentMapping

/-! ## Rules that take values over -/

/-- An enabled rule without a format that takes the values of one path over to another path under
some hints. -/
structure Rule.Carries (rule : Rule) (lookups : Lookups) (source destination : Path)
    (hints : Hints) : Prop where
  isEnabled : rule.isDisabled = false
  mode_eq : rule.mode = .ok .passthrough
  format_eq : rule.format = none
  source_eq : ∃ id field, rule.sourceField = some id ∧
    lookups.sourceFields.get? id = some field ∧ Path.ofString field.path = .ok source
  destination_eq : ∃ id field, rule.destinationField = some id ∧
    lookups.destinationFields.get? id = some field ∧ Path.ofString field.path = .ok destination
  hints_eq : Hints.readOptional rule.placementHint = .ok hints

/-- The plan of such a rule. -/
def Rule.carryingPlan (rule : Rule) (source destination : Path) (hints : Hints) : RulePlan where
  rule := rule
  destination := destination
  source := some source
  placement := hints.placement
  matched := Correlation.matchedOptional destination (some source) hints.renames
  correlation := Correlation.ofPaths destination (some source) hints.renames
  mode := .passthrough
  format := none

/-- The text of a path is not blank. -/
theorem Path.allBlank_eq_false {text : String} {path : Path} (h : Path.ofString text = .ok path) :
    Text.allBlank text = false := by
  unfold Path.ofString Path.ofChars at h
  unfold Text.allBlank
  split at h
  · rename_i rest htext
    rw [htext, List.all_cons, Bool.and_eq_false_iff]
    exact .inl rfl
  · cases h

/-- A rule that passes values on has no expression. -/
theorem Rule.expression?_of_passthrough {rule : Rule} (h : rule.mode = .ok .passthrough) :
    rule.expression? = none := by
  unfold Rule.mode Rule.modeFor at h
  obtain ⟨constant, _, hmode⟩ := Except.bind_eq_ok_iff.mp h
  cases hexpression : rule.expression? with
  | none => rfl
  | some text => cases constant <;> cases hformat : rule.format <;> simp_all

namespace Rule.Carries

variable {rule : Rule} {lookups : Lookups} {source destination : Path} {hints : Hints}

theorem hintsOf_eq (h : rule.Carries lookups source destination hints) :
    RulePlan.hintsOf rule = .ok hints :=
  RulePlan.hintsOf_eq_ok_iff.mpr h.hints_eq

theorem ofRule_eq (h : rule.Carries lookups source destination hints) (options : MappingOptions)
    (settings : EngineSettings) :
    RulePlan.ofRule rule lookups options settings =
      .ok (rule.carryingPlan source destination hints) := by
  obtain ⟨sourceId, sourceField, hsourceId, hsourceField, hsource⟩ := h.source_eq
  obtain ⟨id, field, hid, hfield, hdestination⟩ := h.destination_eq
  rw [RulePlan.ofRule_eq_ok_iff]
  refine ⟨destination, some source, .passthrough, none, hints, ?_, ?_, h.mode_eq, ?_, h.hintsOf_eq,
    rfl⟩
  · simp [RulePlan.destinationOf, hid, hfield, Path.allBlank_eq_false hdestination, Path.read,
      hdestination, Except.mapError]
  · simp [RulePlan.sourceOf, hsourceId, hsourceField, Path.read, hsource, Except.mapError,
      Except.map]
  · simp [RulePlan.formatOf, h.format_eq]

/-- The only expression of such a mapping is the preprocessor. -/
theorem expressionSources_isEmpty (h : rule.Carries lookups source destination hints)
    {options : MappingOptions} (hpreprocessor : options.preprocessor? = none) :
    (expressionSources [rule] options).isEmpty = true := by
  simp [expressionSources, h.isEnabled, Rule.expression?_of_passthrough h.mode_eq, hpreprocessor,
    OrderedMap.ofList]

end Rule.Carries

/-! ## Landing places -/

/-- The position that a value of the source has under a tag of the destination: the pinned one, or
that of the last source element with this effective tag. -/
def landingPosition? (source : Path) (hints : Hints) (value : SelectedValue) (tag : String) :
    Option Nat :=
  match hints.placement.get? tag with
  | some (.position position) => some position
  | some .append => none
  | none => steeredPosition? source hints.renames value tag

/-- The location where a value of the source lands: the destination with its fixed positions and the
positions of the value under its other tags. -/
def landing? (source destination : Path) (hints : Hints) (value : SelectedValue) :
    Option Location :=
  locationBy? (landingPosition? source hints value) destination.elements

/-- Every tag of the destination whose position is decided while mapping is pinned to a position, or
has no hint and is the effective tag of an indexed element of the source. -/
def Settles (source destination : Path) (hints : Hints) : Prop :=
  ∀ tag ∈ destination.dynamicTags,
    (∃ position, hints.placement.get? tag = some (.position position)) ∨
      (hints.placement.get? tag = none ∧
        ∃ sourceTag ∈ source.tags, hints.renames.resolve sourceTag = tag)

variable {source destination : Path} {hints : Hints} {value : SelectedValue}

/-- A value of a settled rule has a landing place. -/
theorem Settles.exists_landing (h : Settles source destination hints)
    (hcovers : source.Covers value.path) :
    ∃ location, landing? source destination hints value = some location := by
  refine exists_locationBy? fun tag htag => ?_
  rcases h tag htag with ⟨position, hpinned⟩ | ⟨hunpinned, sourceTag, hsource, rfl⟩
  · exact ⟨position, by rw [landingPosition?, hpinned]⟩
  · rw [landingPosition?, hunpinned]
    exact exists_steeredPosition? hcovers hsource

/-- A tag without a hint is correlated. -/
theorem Settles.isCorrelated (h : Settles source destination hints) {tag : String}
    (htag : tag ∈ destination.dynamicTags) (hnone : hints.placement.get? tag = none) :
    (Correlation.ofPaths destination (some source) hints.renames).isCorrelated tag = true := by
  obtain ⟨element, hmem, _, helement⟩ := Path.mem_dynamicTags_iff.mp htag
  rw [Correlation.isCorrelated_ofPaths_iff]
  refine ⟨List.mem_filterMap.mpr ⟨element, hmem, helement⟩, ?_⟩
  rcases h tag htag with ⟨position, hpinned⟩ | ⟨_, hsource⟩
  · rw [hnone] at hpinned
    cases hpinned
  · exact hsource

/-- The tags of a settled destination are correlated or pinned, so none is open. -/
theorem Settles.openTags_eq_nil (h : Settles source destination hints) (rule : Rule) :
    (rule.carryingPlan source destination hints).openTags = [] := by
  unfold RulePlan.openTags
  rw [List.filter_eq_nil_iff]
  intro tag htag
  cases hhint : hints.placement.get? tag with
  | some hint => simp [Rule.carryingPlan, OrderedMap.contains_of_get? hhint]
  | none => simp [Rule.carryingPlan, h.isCorrelated htag hhint]

/-- The hints of a write lead a value to its landing place. -/
theorem Settles.locationBy?_eq (h : Settles source destination hints) (rule : Rule)
    (value : SelectedValue) :
    locationBy?
        (Placement.pinned? (hints.placement.merge
          ((rule.carryingPlan source destination hints).steer value)))
        destination.elements =
      landing? source destination hints value := by
  refine locationBy?_congr fun tag htag => ?_
  let plan := rule.carryingPlan source destination hints
  have hget : (hints.placement.merge (plan.steer value)).get? tag =
      ((plan.steer value).get? tag).or (hints.placement.get? tag) :=
    RulePlan.get?_merge_steer plan value tag
  rw [Placement.pinned?, landingPosition?]
  cases hhint : hints.placement.get? tag with
  | some hint =>
    have hcontains : plan.placement.contains tag = true := OrderedMap.contains_of_get? hhint
    rw [RulePlan.get?_steer_of_contains value hcontains, Option.none_or, hhint] at hget
    rw [hget]
    cases hint <;> rfl
  | none =>
    have hcontains : plan.placement.contains tag = false :=
      OrderedMap.contains_eq_false_iff.mpr hhint
    rw [RulePlan.get?_steer_of_isCorrelated rfl rfl hcontains (h.isCorrelated htag hhint), hhint,
      Option.or_none] at hget
    rw [hget]
    cases steeredPosition? source hints.renames value tag <;> rfl

/-- The stores of values at their landing places. -/
def landings (source destination : Path) (hints : Hints) (values : List SelectedValue) :
    List Deposit :=
  values.filterMap fun value =>
    (landing? source destination hints value).map fun location => ⟨location, value.value⟩

/-- A settled rule stores a value at its landing place when the way is free. -/
theorem Settles.writeSelected_eq (h : Settles source destination hints) (rule : Rule)
    (context : MappingContext) (isOneOfMany : Bool) {state : RuleState} {location : Location}
    (hlanding : landing? source destination hints value = some location)
    (hadmits : state.target.Admits location) :
    ((rule.carryingPlan source destination hints).writeSelected context isOneOfMany state
        value).result =
      .ok ⟨state.writes + 1, state.counters, state.cache,
        state.target.store value.value location⟩ := by
  let plan := rule.carryingPlan source destination hints
  let task := plan.task value.value (some value) isOneOfMany
  have hfansOut : task.fansOut = false := by
    rw [← Bool.not_eq_true, RulePlan.fansOut_task_iff]
    exact fun hopen => hopen.2 (h.openTags_eq_nil rule)
  have hplacement : task.placementAt state.counters =
      hints.placement.merge (plan.steer value) :=
    WriteTask.placementAt_of_not_fansOut hfansOut state.counters
  have hlocation : locationBy? (task.placementAt state.counters).pinned?
      task.plan.destination.elements = some location := by
    rw [hplacement]
    exact (h.locationBy?_eq rule value).trans hlanding
  have hwrite := WriteTask.write_of_locationBy? hlocation hadmits
    (.inr (WriteTask.tags_of_not_fansOut hfansOut)) context.settings.writeCeiling
  rw [RulePlan.writeSelected, RulePlan.writeValue_eq_ok_iff]
  refine ⟨value.value, state.cache, _, rfl, hwrite, ?_⟩
  rw [WriteTask.countersAfter_of_not_fansOut hfansOut]
  rfl

/-- A settled rule stores its values one after the other at their landing places. -/
theorem Settles.foldlM_writeSelected (h : Settles source destination hints) (rule : Rule)
    (context : MappingContext) (isOneOfMany : Bool) {shape : Location}
    {values : List SelectedValue} {state : RuleState}
    (hcovers : ∀ value ∈ values, source.Covers value.path)
    (hshape : ∀ value location, landing? source destination hints value = some location →
      location.SameShape shape)
    (hadmits : state.target.AdmitsShape shape) :
    ∃ after, (values.foldlM ((rule.carryingPlan source destination hints).writeSelected context
        isOneOfMany) state).result = .ok after ∧
      after.target = state.target.storeAll (landings source destination hints values) := by
  induction values generalizing state with
  | nil => exact ⟨state, rfl, rfl⟩
  | cons value rest ih =>
    rw [List.forall_mem_cons] at hcovers
    obtain ⟨location, hlanding⟩ := h.exists_landing hcovers.1
    have hsame := hshape value location hlanding
    have hwritten := h.writeSelected_eq rule context isOneOfMany hlanding (hadmits location hsame)
    obtain ⟨after, hafter, htarget⟩ :=
      @ih ⟨state.writes + 1, state.counters, state.cache, state.target.store value.value location⟩
        hcovers.2 (hadmits.store value.value hsame)
    refine ⟨after, ?_, ?_⟩
    · rw [List.foldlM_cons, Logged.bind_eq_ok_iff]
      exact ⟨_, hwritten, hafter⟩
    · rw [htarget, landings, landings, List.filterMap_cons, hlanding]
      rfl

/-- Every landing is that of a value. -/
theorem exists_of_mem_landings {values : List SelectedValue} {deposit : Deposit}
    (h : deposit ∈ landings source destination hints values) :
    ∃ value ∈ values, landing? source destination hints value = some deposit.location := by
  obtain ⟨value, hmem, hmap⟩ := List.mem_filterMap.mp h
  obtain ⟨location, hlanding, rfl⟩ := Option.map_eq_some_iff.mp hmap
  exact ⟨value, hmem, hlanding⟩

/-- The last landing at a location is that of the last value that lands there. -/
theorem last?_landings (values : List SelectedValue) (location : Location) :
    Deposit.last? (landings source destination hints values) location =
      (values.filter fun value =>
        landing? source destination hints value = some location).getLast?.map (·.value) := by
  rw [Deposit.last?, landings, List.filter_filterMap, ← List.getLast?_map, ← List.getLast?_map,
    List.map_filterMap, ← List.filterMap_eq_map, List.filterMap_filter]
  congr 1
  apply List.filterMap_congr
  intro value _
  cases hlanding : landing? source destination hints value with
  | none => simp
  | some landed => by_cases heq : landed = location <;> simp [heq]

/-! ## The target of a mapping -/

/-- The rule is planned and applied once to an empty target. -/
theorem Rule.Carries.mapSource_eq {rule : Rule} {lookups : Lookups} {options : MappingOptions}
    (hcarries : rule.Carries lookups source destination hints)
    (hsettles : Settles source destination hints) (htabular : options.isTabular = false)
    (settings : EngineSettings) {modules : ModuleCache Expression} {tree : Node}
    (hprepare : ∃ prepared, prepare modules tree [rule] options = .ok prepared)
    {shape : Location}
    (hshape : ∀ value location, landing? source destination hints value = some location →
      location.SameShape shape)
    (hadmits : (Node.object []).AdmitsShape shape) :
    (mapSource settings modules tree [rule] lookups options).1.result =
      .ok ((Node.object []).storeAll (landings source destination hints (source.select tree))) := by
  obtain ⟨⟨module, cache⟩, hprepare⟩ := hprepare
  let plan := rule.carryingPlan source destination hints
  let context : MappingContext := ⟨tree, module, settings⟩
  have hplans : (planRules lookups options settings [rule]).result = .ok [plan] := by
    rw [planRules_eq_ok_iff, List.filter_cons, hcarries.isEnabled]
    exact .cons (hcarries.ofRule_eq options settings) .nil
  let start : RuleState := ⟨0, .start plan.openTags, cache, .object []⟩
  have hcovers : ∀ value ∈ source.select tree, source.Covers value.path :=
    fun value hmem => (Path.mem_select_iff.mp hmem).1
  have hstart : start.target.AdmitsShape shape := hadmits
  obtain ⟨last, hlast, htarget⟩ := hsettles.foldlM_writeSelected rule context
    (decide (1 < (source.select tree).length)) hcovers hshape hstart
  have happly : (plan.apply context 1 ⟨cache, .object []⟩).result =
      .ok ⟨last.cache, last.target⟩ := by
    rw [RulePlan.apply_eq_ok_iff]
    exact ⟨last, (RulePlan.writeAll_of_source rfl context start).trans hlast, rfl⟩
  rw [mapSource_eq_ok_iff]
  refine ⟨[plan], module, cache, hplans, hprepare, ?_⟩
  rw [← htarget, passes, htabular]
  simp only [Bool.false_eq_true, if_false, List.foldlM_cons, List.foldlM_nil, applyPass,
    Logged.result_bind, Logged.result_pure, Except.bind]
  rw [happly]

/-- A target holds the values of a source at their landing places, and otherwise padding. -/
structure Lands (tree : Node) (source destination : Path) (hints : Hints) (target : Node) :
    Prop where
  /-- At the landing place of a value stands the last value that lands there. -/
  landed : ∀ value ∈ source.select tree, ∃ location last,
    landing? source destination hints value = some location ∧
      ((source.select tree).filter fun other =>
        landing? source destination hints other = some location).getLast? = some last ∧
      target.at? location = some (.scalar last.value)
  /-- Every other scalar is an empty item in front of a landing place. -/
  padded : ∀ location scalar, target.at? location = some (.scalar scalar) →
    (∃ value ∈ source.select tree, landing? source destination hints value = some location) ∨
      (scalar = .null ∧ ∃ value ∈ source.select tree, ∃ landed,
        landing? source destination hints value = some landed ∧ location.Pads landed)

/-- A settled rule that takes the values of one path over to another one, as the only rule of a
mapping that is no table, maps every source so that its values land. -/
theorem mapSource_lands {rule : Rule} {lookups : Lookups} {options : MappingOptions}
    (hcarries : rule.Carries lookups source destination hints)
    (hsettles : Settles source destination hints) (htabular : options.isTabular = false)
    (settings : EngineSettings) (modules : ModuleCache Expression) (tree : Node)
    (hprepare : options.preprocessor? = none ∨
      ∃ prepared, prepare modules tree [rule] options = .ok prepared) :
    ∃ target, (mapSource settings modules tree [rule] lookups options).1.result = .ok target ∧
      Lands tree source destination hints target := by
  have hready : ∃ prepared, prepare modules tree [rule] options = .ok prepared := by
    rcases hprepare with hnone | hready
    · exact ⟨_, prepare_of_isEmpty (hcarries.expressionSources_isEmpty hnone)⟩
    · exact hready
  -- all landing places have the shape of the destination with every open position at the front
  obtain ⟨shape, hfront⟩ :
      ∃ shape, locationBy? (fun _ => some 0) destination.elements = some shape :=
    exists_locationBy? fun _ _ => ⟨0, rfl⟩
  have hshape : ∀ value location, landing? source destination hints value = some location →
      location.SameShape shape := fun _ _ hlanding => sameShape_of_locationBy? hlanding hfront
  have hadmits := admitsShape_of_locationBy? hfront
  let deposits := landings source destination hints (source.select tree)
  have hdeposits : ∀ deposit ∈ deposits, deposit.location.SameShape shape := by
    intro deposit hmem
    obtain ⟨value, _, hlanding⟩ := exists_of_mem_landings hmem
    exact hshape value _ hlanding
  refine ⟨(Node.object []).storeAll deposits,
    hcarries.mapSource_eq hsettles htabular settings hready hshape hadmits, ?_, ?_⟩
  · intro value hmem
    obtain ⟨location, hlanding⟩ := hsettles.exists_landing (Path.mem_select_iff.mp hmem).1
    have hsome : value ∈ (source.select tree).filter fun other =>
        landing? source destination hints other = some location :=
      List.mem_filter.mpr ⟨hmem, decide_eq_true hlanding⟩
    refine ⟨location, _, hlanding, List.getLast?_eq_some_getLast (List.ne_nil_of_mem hsome), ?_⟩
    apply Node.at?_storeAll hadmits hdeposits (hshape value location hlanding)
    rw [last?_landings, List.getLast?_eq_some_getLast (List.ne_nil_of_mem hsome)]
    rfl
  · intro location scalar hscalar
    rcases Node.scalar_of_at?_storeAll hadmits hdeposits hscalar with
      ⟨deposit, hmem, rfl⟩ | ⟨hnull, deposit, hmem, hpads⟩ | hempty
    · obtain ⟨value, hvalue, hlanding⟩ := exists_of_mem_landings hmem
      exact .inl ⟨value, hvalue, hlanding⟩
    · obtain ⟨value, hvalue, hlanding⟩ := exists_of_mem_landings hmem
      exact .inr ⟨hnull, value, hvalue, deposit.location, hlanding, hpads⟩
    · -- an object without properties holds no scalar
      cases location with
      | nil => cases hempty
      | cons place rest => cases place <;> cases hempty

/-- The numbers in lines. -/
def lineNumbers : Path := ⟨[⟨"lines", .wildcard 1⟩, .property "x"]⟩

/-- Lines and rows as fields. -/
def lineLookups (rows : String) : Lookups :=
  ⟨[("lines", ⟨"lines", "$.lines[*].x"⟩)], [("rows", ⟨"rows", rows⟩)], []⟩

/-- A rule from lines to rows with a hint. -/
def lineRule (hint : String) : Rule :=
  { Rule.empty with
    sourceField := some "lines", destinationField := some "rows", placementHint := some hint }

/-- Two numbers in three lines. -/
def raggedLines : Node :=
  .object [("lines", .array [.object [("x", .scalar (.integer 1))], .object [],
    .object [("x", .scalar (.integer 5))]])]

/-- The numbers of lines land in the rows with the same positions. -/
theorem mapSource_lands_in_rows :
    (lineRule "a=*").Carries (lineLookups "$.rows[a].y") lineNumbers
      ⟨[⟨"rows", .named "a"⟩, .property "y"]⟩ ⟨[], [("*", "a")]⟩ ∧
    Settles lineNumbers ⟨[⟨"rows", .named "a"⟩, .property "y"]⟩ ⟨[], [("*", "a")]⟩ ∧
    ∃ target,
      (mapSource .default ⟨[], 0⟩ raggedLines [lineRule "a=*"] (lineLookups "$.rows[a].y")
        .default).1.result = .ok target ∧
      Lands raggedLines lineNumbers ⟨[⟨"rows", .named "a"⟩, .property "y"]⟩ ⟨[], [("*", "a")]⟩
        target := by
  have hcarries : (lineRule "a=*").Carries (lineLookups "$.rows[a].y") lineNumbers
      ⟨[⟨"rows", .named "a"⟩, .property "y"]⟩ ⟨[], [("*", "a")]⟩ :=
    ⟨rfl, rfl, rfl, ⟨"lines", _, rfl, rfl, by cbv⟩, ⟨"rows", _, rfl, rfl, by cbv⟩, by cbv⟩
  have hsettles : Settles lineNumbers ⟨[⟨"rows", .named "a"⟩, .property "y"]⟩
      ⟨[], [("*", "a")]⟩ := by
    intro tag htag
    cases List.mem_singleton.mp htag
    exact .inr ⟨rfl, "*", by decide, rfl⟩
  exact ⟨hcarries, hsettles,
    mapSource_lands hcarries hsettles rfl .default ⟨[], 0⟩ raggedLines (.inl rfl)⟩

/-- A hint to append keeps the source from steering: the number of the third line lands in the
second row, although the tag of the rows is the effective tag of the lines. -/
theorem append_hint_prevents_landing :
    (lineRule "*=null").Carries (lineLookups "$.rows[*].y") lineNumbers
      ⟨[⟨"rows", .wildcard 1⟩, .property "y"]⟩ ⟨[("*", .append)], []⟩ ∧
    (∀ tag ∈ Path.dynamicTags ⟨[⟨"rows", .wildcard 1⟩, .property "y"]⟩,
      ∃ sourceTag ∈ lineNumbers.tags, Renames.resolve [] sourceTag = tag) ∧
    (∃ value ∈ lineNumbers.select raggedLines,
      steeredPosition? lineNumbers [] value "*" = some 2) ∧
    ∃ target,
      (mapSource .default ⟨[], 0⟩ raggedLines [lineRule "*=null"] (lineLookups "$.rows[*].y")
        .default).1.result = .ok target ∧
      target.at? [.property "rows", .item 1, .property "y"] = some (.scalar (.integer 5)) ∧
      target.at? [.property "rows", .item 2, .property "y"] = none := by
  have hcarries : (lineRule "*=null").Carries (lineLookups "$.rows[*].y") lineNumbers
      ⟨[⟨"rows", .wildcard 1⟩, .property "y"]⟩ ⟨[("*", .append)], []⟩ :=
    ⟨rfl, rfl, rfl, ⟨"lines", _, rfl, rfl, by cbv⟩, ⟨"rows", _, rfl, rfl, by cbv⟩, by cbv⟩
  refine ⟨hcarries, ?_, ?_, .object [("rows", .array [.object [("y", .scalar (.integer 1))],
    .object [("y", .scalar (.integer 5))]])], ?_, rfl, rfl⟩
  · intro tag htag
    cases List.mem_singleton.mp htag
    exact ⟨"*", by decide, rfl⟩
  · exact ⟨⟨⟨[.item "lines" 2, .property "x"]⟩, .integer 5⟩, by decide, rfl⟩
  · rw [mapSource_eq_ok_iff]
    exact ⟨_, none, [], planRules_eq_ok_iff.mpr (.cons (hcarries.ofRule_eq _ _) .nil),
      prepare_of_isEmpty (hcarries.expressionSources_isEmpty rfl), rfl⟩

end DocumentMapping
