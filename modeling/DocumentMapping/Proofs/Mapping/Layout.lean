import DocumentMapping.Proofs.Mapping.Courses
import DocumentMapping.Proofs.Mapping.Landing
import DocumentMapping.Proofs.Tree.Spreading

/-!
# Values in order

The values of a rule that the source gives no position are laid out in reading order. All open tags
of the destination stand at the number of the value, and the pinned ones at theirs. Each value is
written once, whatever items there are behind it, so that value after value goes to its own place of
a row, over a target of any kind.
-/

namespace DocumentMapping

open Expression (Cache)

/-! ## Plans that lay values out -/

theorem Placement.pinned?_eq_some_iff {placement : Placement} {tag : String} {position : Nat} :
    placement.pinned? tag = some position ↔ placement.get? tag = some (.position position) := by
  unfold Placement.pinned?
  rcases OrderedMap.get? placement tag with _ | _ | found <;> simp

namespace RulePlan

/-- Some tag of the destination is open, and all others that are decided while mapping are pinned to
a number. -/
structure LaysOut (plan : RulePlan) : Prop where
  opened : plan.openTags ≠ []
  decided : ∀ tag ∈ plan.destination.dynamicTags,
    tag ∈ plan.openTags ∨ ∃ position, plan.placement.get? tag = some (.position position)

/-- The place of the value with a number. -/
def place (plan : RulePlan) (number : Nat) : Location :=
  plan.destination.placeAt plan.placement number

variable {plan : RulePlan}

theorem LaysOut.row_place (h : plan.LaysOut) : Row plan.place := by
  obtain ⟨tag, hopen⟩ := List.exists_mem_of_ne_nil _ h.opened
  obtain ⟨hdynamic, _, hunpinned⟩ := mem_openTags_iff.mp hopen
  exact Path.row_placeAt hdynamic (by rw [Placement.pinned?, hunpinned])

end RulePlan

namespace WriteTask

variable {plan : RulePlan} {located : Option SelectedValue} {number : Nat} {target : Node}

/-- A tag that is not open keeps the hint of the task. -/
theorem get?_placementAt_of_not_mem {task : WriteTask} {tag : String}
    (htag : tag ∉ task.plan.openTags) (position : Nat) :
    (task.placementAt (task.plan.openTags.map (·, position))).get? tag =
      task.placement.get? tag := by
  have hlast : OrderedMap.last?
      (Counters.placement (task.plan.openTags.map (·, position))) tag = none := by
    cases hentry : OrderedMap.last?
        (Counters.placement (task.plan.openTags.map (·, position))) tag with
    | none => rfl
    | some hint =>
      have hmem := OrderedMap.mem_of_last? hentry
      rw [Counters.placement, List.map_map, List.mem_map] at hmem
      obtain ⟨other, hother, heq⟩ := hmem
      rw [(Prod.mk.inj heq).1] at hother
      exact (htag hother).elim
  unfold placementAt
  split
  · rw [OrderedMap.get?_merge, hlast, Option.none_or]
  · rfl

/-- A tag that is pinned keeps its number in every write. -/
theorem pinned?_placementAt_of_pinned {task : WriteTask} {key : String} {position : Nat}
    (hplacement : task.placement = task.plan.placement)
    (hpinned : task.plan.placement.pinned? key = some position) (number : Nat) :
    (task.placementAt (task.plan.openTags.map (·, number))).pinned? key = some position := by
  have hhint := Placement.pinned?_eq_some_iff.mp hpinned
  have hclosed : key ∉ task.plan.openTags := by
    intro hopen
    rw [(RulePlan.mem_openTags_iff.mp hopen).2.2] at hhint
    cases hhint
  rw [Placement.pinned?_eq_some_iff]
  have hkept := get?_placementAt_of_not_mem hclosed number
  rw [hplacement] at hkept
  exact hkept.trans hhint

/-- A value that the source gives no position has the hints of its rule. -/
theorem placement_task (hsteer : (located.map plan.steer).getD [] = []) (value : Scalar)
    (isOneOfMany : Bool) : (plan.task value located isOneOfMany).placement = plan.placement := by
  change plan.placement.merge ((located.map plan.steer).getD []) = plan.placement
  rw [hsteer]
  rfl

/-- The hints of such a value lead to the place with its number. -/
theorem locationBy?_placementAt (h : plan.LaysOut)
    (hsteer : (located.map plan.steer).getD [] = []) (value : Scalar) (isOneOfMany : Bool)
    (number : Nat) :
    locationBy? ((plan.task value located isOneOfMany).placementAt
      (plan.openTags.map (·, number))).pinned? plan.destination.elements =
        some (plan.place number) := by
  rw [RulePlan.place, ← Path.locationBy?_placeAt]
  refine locationBy?_congr fun tag htag => ?_
  by_cases hopen : tag ∈ plan.openTags
  · have hunpinned : plan.placement.pinned? tag = none := by
      rw [Placement.pinned?, (RulePlan.mem_openTags_iff.mp hopen).2.2]
    have hfansOut : (plan.task value located isOneOfMany).fansOut = true :=
      RulePlan.fansOut_task_iff.mpr ⟨hsteer, h.opened⟩
    rw [hunpinned, Option.getD_none, Placement.pinned?_eq_some_iff]
    exact get?_placementAt_of_mem hfansOut hopen number
  · obtain ⟨position, hposition⟩ := (h.decided tag htag).resolve_left hopen
    have hpinned := Placement.pinned?_eq_some_iff.mpr hposition
    rw [hpinned, Option.getD_some]
    exact pinned?_placementAt_of_pinned (placement_task hsteer value isOneOfMany) hpinned number

/-- A value that has no position yet is stored at the place of its number when the way is free. -/
theorem writeOnce_of_admits (h : plan.LaysOut) (hsteer : (located.map plan.steer).getD [] = [])
    (value : Scalar) (isOneOfMany : Bool) (hadmits : target.Admits (plan.place number)) :
    ((plan.task value located isOneOfMany).writeOnce (plan.openTags.map (·, number))
      target).result =
        .ok ⟨target.store value (plan.place number),
          (plan.destination.walk ((plan.task value located isOneOfMany).placementAt
            (plan.openTags.map (·, number))) target).steps.any
              (·.leavesMore (plan.task value located isOneOfMany).tags)⟩ :=
  writeOnce_eq_ok_iff.mpr (Path.write_of_locationBy?
    (locationBy?_placementAt h hsteer value isOneOfMany number) hadmits
    (plan.task value located isOneOfMany).tags value)

/-- Otherwise its write fails for a conflict. -/
theorem writeOnce_of_not_admits (h : plan.LaysOut)
    (hsteer : (located.map plan.steer).getD [] = []) (value : Scalar) (isOneOfMany : Bool)
    (hblocked : ¬ target.Admits (plan.place number)) :
    ∃ conflict, ((plan.task value located isOneOfMany).writeOnce
      (plan.openTags.map (·, number)) target).result =
        .error (.pathConflict plan.destination conflict) := by
  obtain ⟨conflict, hconflict⟩ := Path.exists_write_eq_error
    (locationBy?_placementAt h hsteer value isOneOfMany number) hblocked
    (plan.task value located isOneOfMany).tags value
  refine ⟨conflict, ?_⟩
  rw [writeOnce_result]
  change (Except.mapError _ (plan.destination.write _ _ value target)) = _
  rw [hconflict]
  rfl

/-- After a write all open tags go on to the next number. -/
theorem countersAfter_map (hopened : plan.openTags ≠ [])
    (hsteer : (located.map plan.steer).getD [] = []) (value : Scalar) (isOneOfMany : Bool)
    (number : Nat) :
    (plan.task value located isOneOfMany).countersAfter (plan.openTags.map (·, number)) =
      plan.openTags.map (·, number + 1) := by
  rw [countersAfter, if_pos (RulePlan.fansOut_task_iff.mpr ⟨hsteer, hopened⟩), Counters.next,
    List.map_map]
  rfl

end WriteTask

/-! ## Values one after the other -/

namespace RulePlan

variable {plan : RulePlan} {source : Path} {hints : Hints}

/-- When no tag of the source is one of the destination, the source gives no positions. -/
theorem steer_eq_nil (hsource : plan.source = some source)
    (hcorrelation : plan.correlation = Correlation.ofPaths plan.destination (some source) [])
    (hforeign : ∀ tag ∈ source.tags, tag ∉ plan.destination.tags) (value : SelectedValue) :
    plan.steer value = [] := by
  have hnone : source.indexed.filterMap (plan.steering? value) = [] := by
    rw [List.filterMap_eq_nil_iff]
    rintro ⟨place, element⟩ hmem
    rw [steering?]
    cases htag : element.tag? with
    | none => rfl
    | some tag =>
      have hsourceTag := Path.mem_tags_of_mem_indexed hmem htag
      cases htarget : plan.correlation.get? tag with
      | none => rw [Option.bind_some, htarget, Option.bind_none]
      | some target =>
        rw [hcorrelation] at htarget
        have hresolve : Renames.resolve [] tag = tag := rfl
        have helementTagged : Correlation.elementTagged? plan.destination tag = none := by
          cases hfound : Correlation.elementTagged? plan.destination tag with
          | none => rfl
          | some found =>
            exact (hforeign tag hsourceTag (Correlation.elementTagged?_eq_some hfound).2).elim
        rw [Correlation.get?_ofPaths hsourceTag, hresolve, helementTagged, Option.none_or,
          ite_self] at htarget
        cases htarget
  rw [steer_eq_ofList hsource, hnone]
  rfl

/-- Without a foreign tag nor a hint to append every tag is open or pinned. -/
theorem laysOut_of_foreign (hplacement : plan.placement = hints.placement)
    (hcorrelation : plan.correlation = Correlation.ofPaths plan.destination (some source) [])
    (hforeign : ∀ tag ∈ source.tags, tag ∉ plan.destination.tags)
    (happend : ∀ tag, hints.placement.get? tag ≠ some .append)
    (hopen : ∃ tag ∈ plan.destination.dynamicTags, hints.placement.get? tag = none) :
    plan.LaysOut := by
  have hunpinned : ∀ tag ∈ plan.destination.dynamicTags, hints.placement.get? tag = none →
      tag ∈ plan.openTags := by
    intro tag htag hnone
    refine mem_openTags_iff.mpr ⟨htag, ?_, by rw [hplacement, hnone]⟩
    rw [← Bool.not_eq_true, hcorrelation, Correlation.isCorrelated_ofPaths_iff]
    rintro ⟨hdestination, sourceTag, hsourceTag, heq⟩
    have hresolve : Renames.resolve [] sourceTag = sourceTag := rfl
    rw [hresolve] at heq
    rw [← heq] at hdestination
    exact hforeign sourceTag hsourceTag hdestination
  constructor
  · obtain ⟨tag, htag, hnone⟩ := hopen
    exact List.ne_nil_of_mem (hunpinned tag htag hnone)
  · intro tag htag
    rw [hplacement]
    cases hhint : hints.placement.get? tag with
    | none => exact .inl (hunpinned tag htag hhint)
    | some hint =>
      cases hint with
      | append => exact (happend tag hhint).elim
      | position position => exact .inr ⟨position, rfl⟩

/-- A rule that passes values on without a format writes them as they are. -/
theorem value_of_passthrough (hmode : plan.mode = .passthrough) (hformat : plan.format = none)
    (module : Option ExpressionModule) (inputs : ValueInputs) (cache : Cache) :
    (plan.value module inputs cache).result = .ok (inputs.value, cache) := by
  unfold value rawValue formatted
  rw [hmode, hformat]
  rfl

section

variable (context : MappingContext) {state : RuleState} {number : Nat} (hlays : plan.LaysOut)
  (hmode : plan.mode = .passthrough) (hformat : plan.format = none)
  (hsteer : ∀ selected : SelectedValue, ((some selected).map plan.steer).getD [] = [])

include hlays hmode hformat hsteer

/-- One of several values is stored at the place of its number, once, when the way is free. -/
theorem writeSelected_of_admits (selected : SelectedValue)
    (hcounters : state.counters = plan.openTags.map (·, number))
    (hadmits : state.target.Admits (plan.place number)) :
    (plan.writeSelected context true state selected).result =
      .ok ⟨state.writes + 1, plan.openTags.map (·, number + 1), state.cache,
        state.target.store selected.value (plan.place number)⟩ := by
  have hwrite := WriteTask.writeOnce_of_admits hlays (hsteer selected) selected.value true hadmits
  rw [writeSelected, writeValue_eq_ok_iff]
  refine ⟨selected.value, state.cache, ⟨1, plan.openTags.map (·, number + 1),
    state.target.store selected.value (plan.place number)⟩,
    value_of_passthrough hmode hformat _ _ _, ?_, rfl⟩
  rw [hcounters, WriteTask.write, WriteTask.writeFrom_of_not_more hwrite rfl,
    WriteTask.countersAfter_map hlays.opened (hsteer selected)]

/-- Otherwise it fails for a conflict. -/
theorem writeSelected_of_not_admits (selected : SelectedValue)
    (hcounters : state.counters = plan.openTags.map (·, number))
    (hblocked : ¬ state.target.Admits (plan.place number)) :
    ∃ conflict, (plan.writeSelected context true state selected).result =
      .error (.pathConflict plan.destination conflict) := by
  obtain ⟨conflict, hwrite⟩ :=
    WriteTask.writeOnce_of_not_admits hlays (hsteer selected) selected.value true hblocked
  refine ⟨conflict, ?_⟩
  rw [writeSelected, writeValue, Logged.bind_eq_error_iff]
  refine .inr ⟨_, value_of_passthrough hmode hformat _ _ _, ?_⟩
  rw [Logged.bind_eq_error_iff, hcounters]
  exact .inl (WriteTask.writeFrom_of_error hwrite)

/-- The values of a rule come to the next places of its row, when all of these have room. -/
theorem foldlM_writeSelected_of_admits (values : List SelectedValue) {target : Node}
    {done : List Scalar} (hcounters : state.counters = plan.openTags.map (·, done.length))
    (hspread : Spread plan.place target state.target done)
    (hadmits : ∀ number < done.length + values.length, target.Admits (plan.place number)) :
    ∃ last, (values.foldlM (plan.writeSelected context true) state).result = .ok last ∧
      last.writes = state.writes + values.length ∧
      Spread plan.place target last.target (done ++ values.map (·.value)) := by
  induction values generalizing state done with
  | nil => exact ⟨state, rfl, rfl, by rwa [List.map_nil, List.append_nil]⟩
  | cons selected rest ih =>
    have hroom : state.target.Admits (plan.place done.length) :=
      (hspread.free _).mpr (hadmits _ (by simp))
    have hwrite := writeSelected_of_admits context hlays hmode hformat hsteer selected hcounters
      hroom
    obtain ⟨last, hlast, hwrites, hfilled⟩ := @ih
      ⟨state.writes + 1, plan.openTags.map (·, done.length + 1), state.cache,
        state.target.store selected.value (plan.place done.length)⟩ (done ++ [selected.value])
      (by rw [List.length_append, List.length_singleton])
      (hspread.store hlays.row_place selected.value hroom)
      (fun number hlt => hadmits number (by simp at hlt ⊢; omega))
    refine ⟨last, ?_, ?_, ?_⟩
    · rw [List.foldlM_cons, Logged.bind_eq_ok_iff]
      exact ⟨_, hwrite, hlast⟩
    · rw [hwrites, List.length_cons, Nat.add_right_comm, Nat.add_assoc]
    · rwa [List.append_assoc, List.singleton_append] at hfilled

/-- When one of these places has no room the values of a rule meet a conflict. -/
theorem foldlM_writeSelected_of_not_admits (values : List SelectedValue) {target : Node}
    {done : List Scalar} (hcounters : state.counters = plan.openTags.map (·, done.length))
    (hspread : Spread plan.place target state.target done) {number : Nat}
    (hfrom : done.length ≤ number) (hto : number < done.length + values.length)
    (hblocked : ¬ target.Admits (plan.place number)) :
    ∃ conflict, (values.foldlM (plan.writeSelected context true) state).result =
      .error (.pathConflict plan.destination conflict) := by
  induction values generalizing state done with
  | nil =>
    rw [List.length_nil] at hto
    omega
  | cons selected rest ih =>
    by_cases hroom : state.target.Admits (plan.place done.length)
    · have hwrite := writeSelected_of_admits context hlays hmode hformat hsteer selected hcounters
        hroom
      have hlater : done.length ≠ number := by
        rintro rfl
        exact hblocked ((hspread.free _).mp hroom)
      obtain ⟨conflict, hconflict⟩ := @ih
        ⟨state.writes + 1, plan.openTags.map (·, done.length + 1), state.cache,
          state.target.store selected.value (plan.place done.length)⟩ (done ++ [selected.value])
        (by rw [List.length_append, List.length_singleton])
        (hspread.store hlays.row_place selected.value hroom)
        (by rw [List.length_append, List.length_singleton]; omega)
        (by simp at hto ⊢; omega)
      refine ⟨conflict, ?_⟩
      rw [List.foldlM_cons, Logged.bind_eq_error_iff]
      exact .inr ⟨_, hwrite, hconflict⟩
    · obtain ⟨conflict, hconflict⟩ := writeSelected_of_not_admits context hlays hmode hformat
        hsteer selected hcounters hroom
      refine ⟨conflict, ?_⟩
      rw [List.foldlM_cons, Logged.bind_eq_error_iff]
      exact .inl hconflict

end

end RulePlan

/-- A rule that passes on several values of a source whose tags are foreign to the destination lays
them out in order: the value with a number comes to the location of the destination with its pinned
tags at their numbers and all others at the number of the value. There is one write for each value,
the places are different, and nothing else changes but what makes room. A conflict is met exactly
when the target has no room for one of the places. -/
theorem values_are_laid_out {rule : Rule} {lookups : Lookups} {options : MappingOptions}
    {settings : EngineSettings} {plan : RulePlan} {source : Path} {hints : Hints}
    (hplan : RulePlan.ofRule rule lookups options settings = .ok plan)
    (hsource : plan.source = some source) (hmode : plan.mode = .passthrough)
    (hformat : plan.format = none) (hhints : RulePlan.hintsOf rule = .ok hints)
    (hrenames : hints.renames = []) (happend : ∀ tag, hints.placement.get? tag ≠ some .append)
    (hforeign : ∀ tag ∈ source.tags, tag ∉ plan.destination.tags)
    (hopen : ∃ tag ∈ plan.destination.dynamicTags, hints.placement.get? tag = none)
    (context : MappingContext) (hmany : 2 ≤ (source.select context.source).length)
    (cache : Cache) (target : Node) :
    let values := source.select context.source
    let place := plan.destination.placeAt hints.placement
    let result := (plan.writeAll context ⟨0, .start plan.openTags, cache, target⟩).result
    (∀ number, locationBy? (fun tag => some ((hints.placement.pinned? tag).getD number))
      plan.destination.elements = some (place number)) ∧
    Row place ∧
    ((∀ number < values.length, target.Admits (place number)) →
      ∃ last, result = .ok last ∧ last.writes = values.length ∧
        Spread place target last.target (values.map (·.value))) ∧
    ((∃ number < values.length, ¬ target.Admits (place number)) →
      ∃ conflict, result = .error (.pathConflict plan.destination conflict)) := by
  intro values place result
  have hplanned := RulePlan.ofRule_eq_ok_iff.mp hplan
  obtain ⟨hplacement, hcorrelation⟩ : plan.placement = hints.placement ∧
      plan.correlation = Correlation.ofPaths plan.destination (some source) [] := by
    obtain ⟨destination, found, mode, format, other, _, _, _, _, hother, rfl⟩ := hplanned
    rw [hhints] at hother
    cases hother
    cases hsource
    exact ⟨rfl, by rw [← hrenames]⟩
  have hlays := RulePlan.laysOut_of_foreign hplacement hcorrelation hforeign happend hopen
  have hsteer : ∀ selected : SelectedValue, ((some selected).map plan.steer).getD [] = [] :=
    RulePlan.steer_eq_nil hsource hcorrelation hforeign
  let start : RuleState := ⟨0, .start plan.openTags, cache, target⟩
  have hplace : plan.place = place := by
    funext number
    rw [RulePlan.place, hplacement]
  have hresult : result = (values.foldlM (plan.writeSelected context true) start).result := by
    have hone : decide (1 < values.length) = true := decide_eq_true hmany
    have hall := RulePlan.writeAll_of_source hsource context start
    rwa [hone] at hall
  rw [hresult, ← hplace]
  have hcounters : start.counters = plan.openTags.map (·, ([] : List Scalar).length) := rfl
  have hspread : Spread plan.place target start.target [] := Spread.refl _ _
  refine ⟨fun number => ?_, hlays.row_place, fun hadmits => ?_, ?_⟩
  · rw [hplace]
    exact Path.locationBy?_placeAt _ _ _
  · obtain ⟨last, hlast, hwrites, hfilled⟩ := RulePlan.foldlM_writeSelected_of_admits context hlays
      hmode hformat hsteer values hcounters hspread (by simpa using hadmits)
    exact ⟨last, hlast, hwrites.trans (Nat.zero_add _), hfilled⟩
  · rintro ⟨number, hlt, hblocked⟩
    exact RulePlan.foldlM_writeSelected_of_not_admits context hlays hmode hformat hsteer values
      hcounters hspread (Nat.zero_le number) (by simpa using hlt) hblocked

/-- Rows with cells, which both are lists. -/
def cellPath : Path := ⟨[⟨"rows", .named "a"⟩, ⟨"cells", .named "b"⟩, .property "y"]⟩

/-- The numbers of two lines are laid out in the second cells of the first two rows, of which one is
there already. -/
theorem values_are_laid_out_in_cells :
    RulePlan.ofRule (lineRule "b=1") (lineLookups "$.rows[a].cells[b].y") .default .default =
      .ok ((lineRule "b=1").carryingPlan lineNumbers cellPath ⟨[("b", .position 1)], []⟩) ∧
    RulePlan.hintsOf (lineRule "b=1") = .ok ⟨[("b", .position 1)], []⟩ ∧
    (∀ tag ∈ lineNumbers.tags, tag ∉ cellPath.tags) ∧
    (∃ tag ∈ cellPath.dynamicTags,
      OrderedMap.get? [("b", ItemHint.position 1)] tag = none) ∧
    (lineNumbers.select raggedLines).length = 2 ∧
    ∃ last,
      (((lineRule "b=1").carryingPlan lineNumbers cellPath ⟨[("b", .position 1)], []⟩).writeAll
        ⟨raggedLines, none, .default⟩ ⟨0, .start ["a"], [],
          .object [("rows", .array [.object [("kept", .scalar (.integer 7))]])]⟩).result =
            .ok last ∧
      last.writes = 2 ∧
      Spread (cellPath.placeAt [("b", .position 1)])
        (.object [("rows", .array [.object [("kept", .scalar (.integer 7))]])]) last.target
        [.integer 1, .integer 5] := by
  have hhints : Hints.readOptional (some "b=1") = .ok ⟨[("b", .position 1)], []⟩ := by cbv
  have hcarries : (lineRule "b=1").Carries (lineLookups "$.rows[a].cells[b].y") lineNumbers cellPath
      ⟨[("b", .position 1)], []⟩ :=
    ⟨rfl, rfl, rfl, ⟨"lines", _, rfl, rfl, by cbv⟩, ⟨"rows", _, rfl, rfl, by cbv⟩, hhints⟩
  have hplan := hcarries.ofRule_eq .default .default
  have hread : RulePlan.hintsOf (lineRule "b=1") = .ok ⟨[("b", .position 1)], []⟩ := by
    simp [RulePlan.hintsOf, lineRule, hhints, Except.mapError]
  have happend : ∀ tag, OrderedMap.get? [("b", ItemHint.position 1)] tag ≠ some .append := by
    intro tag
    simp only [OrderedMap.get?]
    split <;> simp
  have hforeign : ∀ tag ∈ lineNumbers.tags, tag ∉ cellPath.tags := by decide
  have hopen : ∃ tag ∈ cellPath.dynamicTags,
      OrderedMap.get? [("b", ItemHint.position 1)] tag = none := ⟨"a", by decide, by decide⟩
  have hmany : (lineNumbers.select raggedLines).length = 2 := by decide
  have hroom : ∀ number < 2,
      (Node.object [("rows", .array [.object [("kept", .scalar (.integer 7))]])]).Admits
        (cellPath.placeAt [("b", .position 1)] number) := by
    rintro (_ | _ | number) hlt
    · exact ⟨rfl, rfl, rfl, rfl, rfl, trivial⟩
    · exact ⟨rfl, rfl, rfl, rfl, rfl, trivial⟩
    · omega
  obtain ⟨_, _, hlaid, _⟩ := values_are_laid_out hplan rfl rfl rfl hread rfl happend hforeign hopen
    ⟨raggedLines, none, .default⟩ (Nat.le_of_eq hmany.symm) []
    (.object [("rows", .array [.object [("kept", .scalar (.integer 7))]])])
  exact ⟨hplan, hread, hforeign, hopen, hmany,
    hlaid fun number hlt => hroom number (hlt.trans_eq hmany)⟩

end DocumentMapping
