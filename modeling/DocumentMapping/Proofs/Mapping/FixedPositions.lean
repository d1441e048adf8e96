import DocumentMapping.Proofs.Mapping.FanOut

/-!
# Fixed positions of the source

The digits of a fixed position are its tag, so a fixed position of the source steers the destination
where this has the same one. A position that is fixed in the destination stays as it is, whatever a
hint says, and no tag that is decided while mapping consists of digits. A single value from a place
with fixed positions is therefore written where the hints alone lead. But it counts as placed when
one of its positions is met in the destination, and then it does not fan out.
-/

namespace DocumentMapping

/-! ## Renamed runs -/

namespace Hints

/-- A pair renames nothing, unless its value is a run of asterisks, which it then renames. -/
theorem renames_of_add {hints after : Hints} {tag value : List Char}
    (hadd : hints.add tag value = .ok after) :
    after.renames = hints.renames ∨
      (isWildcardMarker value = true ∧
        after.renames = hints.renames.insert (String.ofList value) (String.ofList tag)) := by
  unfold Hints.add at hadd
  split at hadd
  · cases hadd
  · split at hadd
    · cases hadd
      exact .inl rfl
    · split at hadd
      · split at hadd
        · cases hadd
          exact .inl rfl
        · cases hadd
      · split at hadd
        · rename_i hmarker
          cases hadd
          exact .inr ⟨hmarker, rfl⟩
        · cases hadd

/-- Only runs of asterisks are renamed. -/
def RenamesRuns (hints : Hints) : Prop :=
  ∀ run tag, hints.renames.get? run = some tag → isWildcardMarker run.toList = true

theorem RenamesRuns.add {hints after : Hints} {tag value : List Char} (h : hints.RenamesRuns)
    (hadd : hints.add tag value = .ok after) : after.RenamesRuns := by
  intro run renamed hrun
  rcases renames_of_add hadd with hkept | ⟨hmarker, hinserted⟩
  · rw [hkept] at hrun
    exact h run renamed hrun
  · rw [hinserted, OrderedMap.get?_insert] at hrun
    split at hrun
    · rename_i heq
      rw [← heq, String.toList_ofList]
      exact hmarker
    · exact h run renamed hrun

theorem RenamesRuns.addPair {hints after : Hints} {pair : List Char} (h : hints.RenamesRuns)
    (hadd : hints.addPair pair = .ok after) : after.RenamesRuns := by
  unfold Hints.addPair at hadd
  split at hadd
  · cases hadd
  · exact h.add hadd

theorem RenamesRuns.foldlM_addPair {hints after : Hints} {pairs : List (List Char)}
    (h : hints.RenamesRuns) (hread : pairs.foldlM Hints.addPair hints = .ok after) :
    after.RenamesRuns := by
  induction pairs generalizing hints with
  | nil =>
    cases hread
    exact h
  | cons pair rest ih =>
    rw [List.foldlM_cons] at hread
    obtain ⟨next, hnext, hrest⟩ := Except.bind_eq_ok_iff.mp hread
    exact ih (h.addPair hnext) hrest

/-- A hint text renames only runs. -/
theorem renamesRuns_of_readOptional {text : Option String} {hints : Hints}
    (h : readOptional text = .ok hints) : hints.RenamesRuns := by
  have hnone : Hints.none.RenamesRuns := fun _ _ hrun => nomatch hrun
  cases text with
  | none =>
    cases h
    exact hnone
  | some text => exact hnone.foldlM_addPair h

/-- Digits are not renamed. -/
theorem RenamesRuns.resolve_eq {hints : Hints} (h : hints.RenamesRuns) {tag : String}
    (hdigits : isDigits tag.toList = true) : hints.renames.resolve tag = tag := by
  unfold Renames.resolve
  cases hrenamed : hints.renames.get? tag with
  | none => rfl
  | some renamed =>
    have hmarker := h tag renamed hrenamed
    obtain ⟨hne, hall⟩ := isDigits_iff.mp hdigits
    obtain ⟨c, hmem⟩ := List.exists_mem_of_ne_nil _ hne
    unfold isWildcardMarker at hmarker
    rw [Bool.and_eq_true, List.all_eq_true] at hmarker
    have hasterisk : c = '*' := of_decide_eq_true (hmarker.2 c hmem)
    rw [hasterisk] at hmem
    exact absurd (hall _ hmem) (by decide)

end Hints

/-! ## Fixed positions that meet -/

/-- The digits of a fixed position, which are its tag. -/
def PathIndex.digits (position : UInt32) : String :=
  String.ofList (digitChars position.toNat)

/-- Different positions have different digits. -/
theorem PathIndex.digits_injective : Function.Injective digits := by
  intro first second h
  have hchars := congrArg String.toList h
  rw [digits, digits, String.toList_ofList, String.toList_ofList] at hchars
  have hvalues := congrArg digitsValue hchars
  rw [digitsValue_digitChars, digitsValue_digitChars] at hvalues
  exact UInt32.toNat_inj.mp hvalues

/-- An index with a tag is fixed, and tagged with its digits, unless its position is decided while
mapping. -/
theorem PathIndex.static?_of_tag? {index : PathIndex} {tag : String} (htag : index.tag? = some tag)
    (hfixed : index.isDynamic ≠ true) :
    ∃ position, index.static? = some position ∧ tag = digits position := by
  cases index with
  | none => cases htag
  | static position => exact ⟨position, rfl, (Option.some.inj htag).symm⟩
  | wildcard run => exact (hfixed rfl).elim
  | named name => exact (hfixed rfl).elim

theorem PathIndex.tag?_of_static? {index : PathIndex} {position : UInt32}
    (h : index.static? = some position) : index.tag? = some (digits position) := by
  cases index with
  | none => cases h
  | static found =>
    cases h
    rfl
  | wildcard run => cases h
  | named tag => cases h

/-- The fixed positions of a path. -/
def Path.fixedPositions (path : Path) : List UInt32 :=
  path.elements.filterMap (·.index.static?)

/-- A fixed position of the source is also one of the destination, where its digits have no hint. -/
def Path.Meets (source destination : Path) (placement : Placement) : Prop :=
  ∃ position ∈ source.fixedPositions, position ∈ destination.fixedPositions ∧
    placement.get? (PathIndex.digits position) = none

instance (source destination : Path) (placement : Placement) :
    Decidable (source.Meets destination placement) :=
  inferInstanceAs (Decidable (∃ position ∈ source.fixedPositions,
    position ∈ destination.fixedPositions ∧
      placement.get? (PathIndex.digits position) = none))

namespace Path

variable {path source destination : Path} {placement : Placement} {position : UInt32} {tag : String}

/-- The digits of the fixed positions are tags. -/
theorem digits_mem_tags (h : position ∈ path.fixedPositions) :
    PathIndex.digits position ∈ path.tags := by
  obtain ⟨element, hmem, hstatic⟩ := List.mem_filterMap.mp h
  exact List.mem_filterMap.mpr ⟨element, hmem, PathIndex.tag?_of_static? hstatic⟩

/-- A path with fixed positions alone has no other tags. -/
theorem exists_digits_of_mem_tags (hfixed : path.isMultiple = false) (h : tag ∈ path.tags) :
    ∃ position ∈ path.fixedPositions, tag = PathIndex.digits position := by
  obtain ⟨element, hmem, htag⟩ := List.mem_filterMap.mp h
  obtain ⟨position, hstatic, hdigits⟩ :=
    PathIndex.static?_of_tag? htag (List.any_eq_false.mp hfixed element hmem)
  exact ⟨position, List.mem_filterMap.mpr ⟨element, hmem, hstatic⟩, hdigits⟩

section

variable (hwritable : ∀ element ∈ path.elements, element.index.IsWritable)

include hwritable

/-- No index whose position is decided while mapping is tagged with digits. -/
theorem digits_not_mem_dynamicTags (position : UInt32) :
    PathIndex.digits position ∉ path.dynamicTags := by
  intro h
  obtain ⟨element, hmem, hdynamic, htag⟩ := Path.mem_dynamicTags_iff.mp h
  have hother : (PathIndex.static position).tag? = some (PathIndex.digits position) := rfl
  exact Bool.false_ne_true
    (PathIndex.isDynamic_of_tag? (hwritable element hmem) hdynamic htag hother)

/-- So digits are only the tags of fixed positions. -/
theorem digits_mem_tags_iff :
    PathIndex.digits position ∈ path.tags ↔ position ∈ path.fixedPositions := by
  refine ⟨fun h => ?_, digits_mem_tags⟩
  obtain ⟨element, hmem, htag⟩ := List.mem_filterMap.mp h
  have hfixed : element.index.isDynamic ≠ true := fun hdynamic =>
    digits_not_mem_dynamicTags hwritable position
      (Path.mem_dynamicTags_iff.mpr ⟨element, hmem, hdynamic, htag⟩)
  obtain ⟨found, hstatic, hdigits⟩ := PathIndex.static?_of_tag? htag hfixed
  rw [PathIndex.digits_injective hdigits]
  exact List.mem_filterMap.mpr ⟨element, hmem, hstatic⟩

end

/-- Fixed positions of the source meet the destination in the tags that both have. -/
theorem meets_iff (hfixed : source.isMultiple = false)
    (hwritable : ∀ element ∈ destination.elements, element.index.IsWritable) :
    source.Meets destination placement ↔
      ∃ tag ∈ source.tags, tag ∈ destination.tags ∧ placement.get? tag = none := by
  constructor
  · rintro ⟨position, hsource, hdestination, hunpinned⟩
    exact ⟨_, digits_mem_tags hsource, digits_mem_tags hdestination, hunpinned⟩
  · rintro ⟨tag, hsource, hdestination, hunpinned⟩
    obtain ⟨position, hposition, rfl⟩ := exists_digits_of_mem_tags hfixed hsource
    exact ⟨position, hposition, (digits_mem_tags_iff hwritable).mp hdestination, hunpinned⟩

end Path

/-! ## Writes of equal tasks -/

namespace WriteTask

/-- A task that does not fan out writes once. -/
theorem write_of_not_fansOut {task : WriteTask} (h : task.fansOut = false) (ceiling : Nat)
    (counters : Counters) (target : Node) :
    (task.write ceiling counters target).result =
      ((task.plan.destination.write task.placement [] task.value target).mapError
        (.pathConflict task.plan.destination)).map fun written =>
          ⟨1, counters, written.node⟩ := by
  have hresult := task.writeOnce_result counters target
  rw [placementAt_of_not_fansOut h, tags_of_not_fansOut h] at hresult
  cases hwrite : task.plan.destination.write task.placement [] task.value target with
  | error conflict =>
    rw [hwrite] at hresult
    exact writeFrom_of_error hresult
  | ok written =>
    obtain ⟨_, _, hmore⟩ := Path.write_eq_ok hwrite
    rw [hwrite] at hresult
    have hlast : (task.isOneOfMany || !written.more) = true := by
      rw [hmore, any_leavesMore_nil, Bool.not_false, Bool.or_true]
    rw [write, writeFrom_of_not_more hresult hlast, countersAfter_of_not_fansOut h]
    rfl

/-- Of its plan a task needs the rule, the destination and the open tags. -/
theorem writeFrom_congr {plan other : RulePlan} (hrule : plan.rule = other.rule)
    (hdestination : plan.destination = other.destination) (hopen : plan.openTags = other.openTags)
    (value : Scalar) (placement : Placement) (fansOut isOneOfMany : Bool)
    (ceiling left writes : Nat) (counters : Counters) (target : Node) :
    (writeFrom ⟨plan, value, placement, fansOut, isOneOfMany⟩ ceiling left writes counters
      target).result =
    (writeFrom ⟨other, value, placement, fansOut, isOneOfMany⟩ ceiling left writes counters
      target).result := by
  have hwrite : ∀ counters target,
      (writeOnce ⟨plan, value, placement, fansOut, isOneOfMany⟩ counters target).result =
      (writeOnce ⟨other, value, placement, fansOut, isOneOfMany⟩ counters target).result := by
    intro counters target
    rw [writeOnce_result, writeOnce_result, tags, tags]
    simp only [hdestination, hopen]
    rfl
  have hrunaway : ∀ iterations counters,
      runaway ⟨plan, value, placement, fansOut, isOneOfMany⟩ ceiling iterations counters =
      runaway ⟨other, value, placement, fansOut, isOneOfMany⟩ ceiling iterations counters := by
    intro iterations counters
    unfold runaway
    simp only [hrule, hdestination]
    rfl
  induction left using Nat.strong_induction_on generalizing writes counters target with
  | _ left ih =>
    cases hresult : (writeOnce ⟨other, value, placement, fansOut, isOneOfMany⟩ counters
        target).result with
    | error error =>
      rw [writeFrom_of_error hresult, writeFrom_of_error ((hwrite counters target).trans hresult)]
    | ok written =>
      have hfirst := (hwrite counters target).trans hresult
      cases hmore : isOneOfMany || !written.more with
      | true =>
        rw [writeFrom_of_not_more hresult hmore, writeFrom_of_not_more hfirst hmore]
        rfl
      | false =>
        cases left with
        | zero =>
          rw [writeFrom_zero_of_more hresult hmore, writeFrom_zero_of_more hfirst hmore, hrunaway]
        | succ left =>
          rw [writeFrom_succ_of_more hresult hmore, writeFrom_succ_of_more hfirst hmore]
          exact ih left (Nat.lt_succ_self left) _ _ _

end WriteTask

/-! ## Single values of fixed sources -/

namespace RulePlan

/-- A rule passes the only value of its source on as it is, and all indexes of the source are fixed
positions. -/
structure PassesFixed (plan : RulePlan) (rule : Rule) (lookups : Lookups)
    (options : MappingOptions) (settings : EngineSettings) (source : Path) (tree : Node)
    (selected : SelectedValue) : Prop where
  planned : ofRule rule lookups options settings = .ok plan
  mode_eq : rule.mode = .ok .passthrough
  format_eq : rule.format = none
  source_eq : plan.source = some source
  fixed : source.isMultiple = false
  values_eq : source.select tree = [selected]

/-- What is left of a rule that writes a value once, by its hints alone. -/
def writtenOnce (plan : RulePlan) (value : Scalar) (state : PassState) :
    Except MappingError PassState :=
  ((plan.destination.write plan.placement [] value state.target).mapError
    (.pathConflict plan.destination)).map fun written => ⟨state.cache, written.node⟩

/-- What is left of a rule that writes a value from nowhere: under the open tags it is written again
and again. -/
def writtenUnplaced (plan : RulePlan) (ceiling : Nat) (value : Scalar) (state : PassState) :
    Except MappingError PassState :=
  ((plan.task value none false).write ceiling (.start plan.openTags) state.target).result.map
    fun outcome => ⟨state.cache, outcome.target⟩

namespace PassesFixed

variable {rule : Rule} {lookups : Lookups} {options : MappingOptions} {settings : EngineSettings}
  {plan : RulePlan} {source : Path} {tree : Node} {selected : SelectedValue}

theorem covers (h : plan.PassesFixed rule lookups options settings source tree selected) :
    source.Covers selected.path := by
  have hmem : selected ∈ source.select tree := by
    rw [h.values_eq]
    exact List.mem_singleton_self selected
  exact (Path.mem_select_iff.mp hmem).1

/-- The renames of the rule leave the tags of the source as they are. -/
theorem exists_renames (h : plan.PassesFixed rule lookups options settings source tree selected) :
    ∃ renames, plan.correlation = Correlation.ofPaths plan.destination (some source) renames ∧
      ∀ tag ∈ source.tags, Renames.resolve renames tag = tag := by
  obtain ⟨hints, hhints, _, hcorrelation⟩ := exists_hints h.planned
  rw [h.source_eq] at hcorrelation
  refine ⟨hints.renames, hcorrelation, fun tag htag => ?_⟩
  obtain ⟨position, _, rfl⟩ := Path.exists_digits_of_mem_tags h.fixed htag
  apply (Hints.renamesRuns_of_readOptional (hintsOf_eq_ok_iff.mp hhints)).resolve_eq
  rw [PathIndex.digits, String.toList_ofList]
  exact isDigits_digitChars _

/-- The correlated tags are those of both paths. -/
theorem isCorrelated_iff (h : plan.PassesFixed rule lookups options settings source tree selected)
    {tag : String} :
    plan.correlation.isCorrelated tag = true ↔ tag ∈ plan.destination.tags ∧ tag ∈ source.tags := by
  obtain ⟨renames, hcorrelation, hresolve⟩ := h.exists_renames
  rw [hcorrelation, Correlation.isCorrelated_ofPaths_iff]
  constructor
  · rintro ⟨hdestination, sourceTag, hsourceTag, rfl⟩
    rw [hresolve sourceTag hsourceTag] at hdestination ⊢
    exact ⟨hdestination, hsourceTag⟩
  · rintro ⟨hdestination, hsourceTag⟩
    exact ⟨hdestination, tag, hsourceTag, hresolve tag hsourceTag⟩

/-- The source has no tag that is decided while mapping. -/
theorem not_mem_tags (h : plan.PassesFixed rule lookups options settings source tree selected)
    {tag : String} (htag : tag ∈ plan.destination.dynamicTags) : tag ∉ source.tags := by
  intro hsourceTag
  obtain ⟨position, _, rfl⟩ := Path.exists_digits_of_mem_tags h.fixed hsourceTag
  exact Path.digits_not_mem_dynamicTags (isWritable_of_ofRule h.planned) position htag

/-- All tags that are decided while mapping are open unless there is a hint for them. -/
theorem openTags_eq (h : plan.PassesFixed rule lookups options settings source tree selected) :
    plan.openTags = plan.destination.dynamicTags.filter (!plan.placement.contains ·) := by
  apply List.filter_congr
  intro tag htag
  have huncorrelated : plan.correlation.isCorrelated tag = false := by
    rw [← Bool.not_eq_true, h.isCorrelated_iff]
    exact fun hcorrelated => h.not_mem_tags htag hcorrelated.2
  rw [huncorrelated, Bool.not_false, Bool.true_and]

/-- Only tags of the source get a hint from the place of the value. -/
theorem get?_steer_eq_none (h : plan.PassesFixed rule lookups options settings source tree selected)
    {tag : String} (hdestination : tag ∈ plan.destination.tags) (hforeign : tag ∉ source.tags) :
    (plan.steer selected).get? tag = none := by
  cases hcontains : plan.placement.contains tag with
  | true => exact get?_steer_of_contains selected hcontains
  | false =>
    obtain ⟨renames, hcorrelation, _⟩ := h.exists_renames
    have huncorrelated : plan.correlation.isCorrelated tag = false := by
      rw [← Bool.not_eq_true, h.isCorrelated_iff]
      exact fun hcorrelated => hforeign hcorrelated.2
    rw [get?_steer_of_not_isCorrelated h.source_eq hcorrelation hcontains hdestination
      huncorrelated, steeredPosition?_eq_none hforeign, Option.map_none, ite_self]

/-- The place of the value gives no hints when no fixed position is met. -/
theorem steer_eq_nil_iff (h : plan.PassesFixed rule lookups options settings source tree selected) :
    plan.steer selected = [] ↔ ¬ source.Meets plan.destination plan.placement := by
  obtain ⟨renames, hcorrelation, _⟩ := h.exists_renames
  rw [Path.meets_iff h.fixed (isWritable_of_ofRule h.planned)]
  constructor
  · rintro hnil ⟨tag, hsourceTag, hdestination, hunpinned⟩
    exact steer_ne_nil h.source_eq hcorrelation h.covers
      (OrderedMap.contains_eq_false_iff.mpr hunpinned)
      (h.isCorrelated_iff.mpr ⟨hdestination, hsourceTag⟩) hnil
  · intro hapart
    by_contra hne
    obtain ⟨tag, hdestination, position, hposition⟩ :=
      exists_get?_steer h.source_eq hcorrelation hne
    refine hapart ⟨tag, ?_, hdestination, ?_⟩
    · by_contra hforeign
      rw [h.get?_steer_eq_none hdestination hforeign] at hposition
      cases hposition
    · by_contra hpinned
      have hcontains : plan.placement.contains tag = true := by
        rw [← Bool.not_eq_false, OrderedMap.contains_eq_false_iff]
        exact hpinned
      rw [get?_steer_of_contains selected hcontains] at hposition
      cases hposition

/-- The rule writes this one value. -/
theorem apply_eq {context : MappingContext}
    (h : plan.PassesFixed rule lookups options settings source context.source selected)
    (pass : Nat) (state : PassState) :
    (plan.apply context pass state).result =
      ((plan.task selected.value (some selected) false).write context.settings.writeCeiling
        (.start plan.openTags) state.target).result.map fun outcome =>
          ⟨state.cache, outcome.target⟩ := by
  obtain ⟨hmode, hformat⟩ : plan.mode = .passthrough ∧ plan.format = none := by
    obtain ⟨_, _, mode, format, _, _, _, hmode, hformat, _, rfl⟩ := ofRule_eq_ok_iff.mp h.planned
    rw [h.mode_eq] at hmode
    rw [formatOf, h.format_eq] at hformat
    cases hmode
    cases hformat
    exact ⟨rfl, rfl⟩
  unfold apply
  rw [Logged.result_bind, writeAll_of_singleton h.source_eq h.values_eq, writeSelected,
    writeValue_of_value (value_of_passthrough hmode hformat _ _ _)]
  cases ((plan.task selected.value (some selected) false).write context.settings.writeCeiling
    (.start plan.openTags) state.target).result <;> rfl

/-- When no fixed position is met the value is written as one from nowhere. -/
theorem apply_of_not_meets {context : MappingContext}
    (h : plan.PassesFixed rule lookups options settings source context.source selected)
    (hapart : ¬ source.Meets plan.destination plan.placement) (pass : Nat) (state : PassState) :
    (plan.apply context pass state).result =
      plan.writtenUnplaced context.settings.writeCeiling selected.value state := by
  have htask : plan.task selected.value (some selected) false =
      plan.task selected.value none false := by
    unfold task
    rw [Option.map_some, Option.getD_some, h.steer_eq_nil_iff.mpr hapart]
    rfl
  rw [h.apply_eq, htask, writtenUnplaced]

/-- When a fixed position is met, or when no tag is open, the value is written once. -/
theorem apply_of_meets {context : MappingContext}
    (h : plan.PassesFixed rule lookups options settings source context.source selected)
    (honce : source.Meets plan.destination plan.placement ∨ plan.openTags = []) (pass : Nat)
    (state : PassState) :
    (plan.apply context pass state).result = plan.writtenOnce selected.value state := by
  have hfansOut : (plan.task selected.value (some selected) false).fansOut = false := by
    rw [← Bool.not_eq_true, fansOut_task_iff, Option.map_some, Option.getD_some,
      h.steer_eq_nil_iff]
    rintro ⟨hapart, hopened⟩
    exact honce.elim hapart hopened
  -- the hints that are added stand under digits, which decide nothing
  have hagree : ∀ tag ∈ plan.destination.dynamicTags,
      OrderedMap.get? (plan.task selected.value (some selected) false).placement tag =
        plan.placement.get? tag := by
    intro tag htag
    have hdestination : tag ∈ plan.destination.tags := by
      obtain ⟨element, hmem, _, heq⟩ := Path.mem_dynamicTags_iff.mp htag
      exact List.mem_filterMap.mpr ⟨element, hmem, heq⟩
    have hmerged := plan.get?_merge_steer selected tag
    rwa [h.get?_steer_eq_none hdestination (h.not_mem_tags htag), Option.none_or] at hmerged
  rw [h.apply_eq, WriteTask.write_of_not_fansOut hfansOut, writtenOnce]
  change Except.map _ (Except.map _ (Except.mapError _ (plan.destination.write
    (plan.task selected.value (some selected) false).placement [] selected.value state.target))) = _
  rw [Path.write_congr hagree]
  cases plan.destination.write plan.placement [] selected.value state.target <;> rfl

end PassesFixed

/-- The plans of one rule have its hints in common. -/
theorem congr_of_ofRule {rule : Rule} {lookups others : Lookups} {options : MappingOptions}
    {settings : EngineSettings} {plan other : RulePlan}
    (hplan : ofRule rule lookups options settings = .ok plan)
    (hother : ofRule rule others options settings = .ok other) :
    plan.rule = other.rule ∧ plan.placement = other.placement := by
  obtain ⟨_, _, _, _, hints, _, _, _, _, hhints, rfl⟩ := ofRule_eq_ok_iff.mp hplan
  obtain ⟨_, _, _, _, found, _, _, _, _, hfound, rfl⟩ := ofRule_eq_ok_iff.mp hother
  rw [hhints] at hfound
  cases hfound
  exact ⟨rfl, rfl⟩

section

variable {plan other : RulePlan} (hdestination : plan.destination = other.destination)
  (hplacement : plan.placement = other.placement)

include hdestination hplacement

/-- A single write depends on the destination and the hints. -/
theorem writtenOnce_congr (value : Scalar) (state : PassState) :
    plan.writtenOnce value state = other.writtenOnce value state := by
  rw [writtenOnce, writtenOnce, hdestination, hplacement]

/-- The writes of a value from nowhere depend on the rule and the open tags, too. -/
theorem writtenUnplaced_congr (hrule : plan.rule = other.rule)
    (hopen : plan.openTags = other.openTags) (ceiling : Nat) (value : Scalar) (state : PassState) :
    plan.writtenUnplaced ceiling value state = other.writtenUnplaced ceiling value state := by
  rw [writtenUnplaced, writtenUnplaced, task, task, hplacement, hopen, WriteTask.write,
    WriteTask.write, WriteTask.writeFrom_congr hrule hdestination hopen]
  rfl

end

end RulePlan

/-- A single value from a place with fixed positions is written where the hints alone lead. All tags
without a hint that are decided while mapping are open. The value fans out over them when no fixed
position of the source is met in the destination, and otherwise it is written just once. So of two
sources with the same value, what they leave is the same when a position of both or of none is met,
or when no tag is open. -/
theorem fixed_positions_stop_fan_out {rule : Rule} {lookups others : Lookups}
    {options : MappingOptions} {settings : EngineSettings} {plan other : RulePlan}
    {source otherSource : Path} {context elsewhere : MappingContext}
    {selected otherSelected : SelectedValue}
    (hpasses : plan.PassesFixed rule lookups options settings source context.source selected)
    (hother : other.PassesFixed rule others options settings otherSource elsewhere.source
      otherSelected)
    (hdestination : plan.destination = other.destination)
    (hsettings : context.settings = elsewhere.settings)
    (hvalue : selected.value = otherSelected.value) (pass : Nat) (state : PassState) :
    let result := (plan.apply context pass state).result
    let meets := source.Meets plan.destination plan.placement
    plan.openTags = plan.destination.dynamicTags.filter (!plan.placement.contains ·) ∧
    ((plan.task selected.value (some selected) false).fansOut = true ↔
      plan.openTags ≠ [] ∧ ¬ meets) ∧
    (¬ meets →
      result = plan.writtenUnplaced context.settings.writeCeiling selected.value state) ∧
    (meets ∨ plan.openTags = [] → result = plan.writtenOnce selected.value state) ∧
    ((meets ↔ otherSource.Meets plan.destination plan.placement) ∨ plan.openTags = [] →
      result = (other.apply elsewhere pass state).result) := by
  intro result meets
  obtain ⟨hrule, hplacement⟩ := RulePlan.congr_of_ofRule hpasses.planned hother.planned
  have hopen : plan.openTags = other.openTags := by
    rw [hpasses.openTags_eq, hother.openTags_eq, hdestination, hplacement]
  refine ⟨hpasses.openTags_eq, ?_, fun hapart => hpasses.apply_of_not_meets hapart pass state,
    fun hmeets => hpasses.apply_of_meets hmeets pass state, fun hsame => ?_⟩
  · rw [RulePlan.fansOut_task_iff, Option.map_some, Option.getD_some, hpasses.steer_eq_nil_iff,
      and_comm]
  · have hmeets : meets ∨ plan.openTags = [] →
        otherSource.Meets other.destination other.placement ∨ other.openTags = [] := by
      rw [← hdestination, ← hplacement, ← hopen]
      rintro (hmeets | hclosed)
      · exact hsame.imp (·.mp hmeets) id
      · exact .inr hclosed
    by_cases hcase : meets ∨ plan.openTags = []
    · have hresult : result = plan.writtenOnce selected.value state :=
        hpasses.apply_of_meets hcase pass state
      rw [hresult, hother.apply_of_meets (hmeets hcase), hvalue,
        RulePlan.writtenOnce_congr hdestination hplacement]
    · obtain ⟨hapart, hopened⟩ := not_or.mp hcase
      have hother_apart : ¬ otherSource.Meets other.destination other.placement := by
        rw [← hdestination, ← hplacement]
        exact fun hmet => hapart ((hsame.resolve_right hopened).mpr hmet)
      have hresult : result =
          plan.writtenUnplaced context.settings.writeCeiling selected.value state :=
        hpasses.apply_of_not_meets hapart pass state
      rw [hresult, hother.apply_of_not_meets hother_apart, hvalue, hsettings,
        RulePlan.writtenUnplaced_congr hdestination hplacement hrule hopen]

/-- The number of a line. -/
def lineNumber (position : UInt32) : Path := ⟨[.item "lines" position, .property "x"]⟩

/-- The rows of the first page. -/
def firstPageRows : Path := ⟨[.item "pages" 0, ⟨"rows", .named "a"⟩, .property "y"]⟩

/-- A line and the rows of the first page as fields. -/
def pageLookups (line : String) : Lookups :=
  ⟨[("lines", ⟨"lines", line⟩)], [("rows", ⟨"rows", "$.pages[0].rows[a].y"⟩)], []⟩

/-- The plan for the number of a line. -/
def linePlan (position : UInt32) : RulePlan :=
  (lineRule "").carryingPlan (lineNumber position) firstPageRows .none

/-- Three lines with the same number. -/
def equalLines : Node :=
  .object [("lines", .array [.object [("x", .scalar (.integer 5))],
    .object [("x", .scalar (.integer 5))], .object [("x", .scalar (.integer 5))]])]

/-- A page with two rows. -/
def twoRows (first second : OrderedMap Node) : Node :=
  .object [("pages", .array [.object [("rows", .array [.object first, .object second])]])]

theorem passesFixed_linePlan {line : String} {position : UInt32}
    (hread : Path.ofString line = .ok (lineNumber position))
    (hvalues : (lineNumber position).select equalLines = [⟨lineNumber position, .integer 5⟩]) :
    (linePlan position).PassesFixed (lineRule "") (pageLookups line) .default .default
      (lineNumber position) equalLines ⟨lineNumber position, .integer 5⟩ := by
  have hcarries : (lineRule "").Carries (pageLookups line) (lineNumber position) firstPageRows
      .none :=
    ⟨rfl, rfl, rfl, ⟨"lines", _, rfl, rfl, hread⟩, ⟨"rows", _, rfl, rfl, by cbv⟩, by cbv⟩
  exact ⟨hcarries.ofRule_eq _ _, rfl, rfl, rfl, rfl, hvalues⟩

/-- The numbers of the second and of the third line come to both rows. -/
theorem fixed_positions_stop_fan_out_of_lines :
    (linePlan 1).PassesFixed (lineRule "") (pageLookups "$.lines[1].x") .default .default
      (lineNumber 1) equalLines ⟨lineNumber 1, .integer 5⟩ ∧
    (linePlan 2).PassesFixed (lineRule "") (pageLookups "$.lines[2].x") .default .default
      (lineNumber 2) equalLines ⟨lineNumber 2, .integer 5⟩ ∧
    ((linePlan 1).apply ⟨equalLines, none, .default⟩ 1 ⟨[], twoRows [] []⟩).result =
      ((linePlan 2).apply ⟨equalLines, none, .default⟩ 1 ⟨[], twoRows [] []⟩).result := by
  have hsecond := @passesFixed_linePlan "$.lines[1].x" 1 (by cbv) (by decide)
  have hthird := @passesFixed_linePlan "$.lines[2].x" 2 (by cbv) (by decide)
  have happly := @fixed_positions_stop_fan_out _ _ _ _ _ _ _ _ _ ⟨equalLines, none, .default⟩
    ⟨equalLines, none, .default⟩ _ _ hsecond hthird rfl rfl rfl 1 ⟨[], twoRows [] []⟩
  exact ⟨hsecond, hthird, happly.2.2.2.2 (.inl (by decide))⟩

/-- The number of the first line comes to the last row alone, as the first page has the same
position, although that of the second line comes to both rows. -/
theorem met_position_changes_target :
    (linePlan 0).PassesFixed (lineRule "") (pageLookups "$.lines[0].x") .default .default
      (lineNumber 0) equalLines ⟨lineNumber 0, .integer 5⟩ ∧
    (linePlan 1).PassesFixed (lineRule "") (pageLookups "$.lines[1].x") .default .default
      (lineNumber 1) equalLines ⟨lineNumber 1, .integer 5⟩ ∧
    ((linePlan 0).apply ⟨equalLines, none, .default⟩ 1 ⟨[], twoRows [] []⟩).result =
      .ok ⟨[], twoRows [] [("y", .scalar (.integer 5))]⟩ ∧
    ((linePlan 1).apply ⟨equalLines, none, .default⟩ 1 ⟨[], twoRows [] []⟩).result =
      .ok ⟨[], twoRows [("y", .scalar (.integer 5))] [("y", .scalar (.integer 5))]⟩ ∧
    ((linePlan 0).apply ⟨equalLines, none, .default⟩ 1 ⟨[], twoRows [] []⟩).result ≠
      ((linePlan 1).apply ⟨equalLines, none, .default⟩ 1 ⟨[], twoRows [] []⟩).result := by
  have hfirst := @passesFixed_linePlan "$.lines[0].x" 0 (by cbv) (by decide)
  have hsecond := @passesFixed_linePlan "$.lines[1].x" 1 (by cbv) (by decide)
  have hlast : ((linePlan 0).apply ⟨equalLines, none, .default⟩ 1 ⟨[], twoRows [] []⟩).result =
      .ok ⟨[], twoRows [] [("y", .scalar (.integer 5))]⟩ := rfl
  have hboth : ((linePlan 1).apply ⟨equalLines, none, .default⟩ 1 ⟨[], twoRows [] []⟩).result =
      .ok ⟨[], twoRows [("y", .scalar (.integer 5))] [("y", .scalar (.integer 5))]⟩ := rfl
  refine ⟨hfirst, hsecond, hlast, hboth, ?_⟩
  rw [hlast, hboth]
  simp [twoRows]

end DocumentMapping
