import DocumentMapping.Proofs.Mapping.Failures
import DocumentMapping.Proofs.Mapping.Runs
import DocumentMapping.Proofs.Path.RoundTrip
import DocumentMapping.Proofs.Tree.Width

/-!
# The writes of one value end

A value that fans out is written again and again, to the next item each time, as long as a write
reports further items. The course of these writes is described here with and without a ceiling, and
the loop of a task follows it. The writes make arrays and lengthen others themselves, but no array
under an open tag beyond the item that is written, so that only arrays which were long from the
start keep the loop going.
-/

namespace DocumentMapping

open Expression (Cache)

/-! ## Fixed positions and open tags -/

/-- No fixed position is written like the tag of an index whose position is decided while
mapping. -/
theorem PathIndex.isDynamic_of_tag? {index other : PathIndex} {tag : String}
    (hwritable : index.IsWritable) (hdynamic : index.isDynamic = true)
    (htag : index.tag? = some tag) (hother : other.tag? = some tag) :
    other.isDynamic = true := by
  cases other with
  | none => cases hother
  | wildcard run => rfl
  | named name => rfl
  | static position =>
    have hdigits : isDigits tag.toList = true := by
      rw [← Option.some.inj hother, String.toList_ofList]
      exact isDigits_digitChars _
    cases index with
    | none => cases hdynamic
    | static first => cases hdynamic
    | wildcard run =>
      have hasterisk : '*' ∈ tag.toList := by
        rw [← Option.some.inj htag, marker, String.toList_ofList]
        exact List.mem_replicate.mpr ⟨Nat.ne_of_gt hwritable, rfl⟩
      exact absurd ((isDigits_iff.mp hdigits).2 _ hasterisk) (by decide)
    | named name =>
      obtain ⟨written, hwritten⟩ := hwritable
      rw [← Option.some.inj htag, ← hwritten, PathText.WrittenTag.chars] at hdigits
      cases hnumber : written.number with
      | none =>
        rw [hnumber, PathText.WrittenTag.ending, List.append_nil,
          written.notDigits hnumber] at hdigits
        cases hdigits
      | some digits =>
        have hhyphen : '-' ∈ written.word ++ PathText.WrittenTag.ending written.number := by
          rw [hnumber]
          exact List.mem_append_right _ List.mem_cons_self
        exact absurd ((isDigits_iff.mp hdigits).2 _ hhyphen) (by decide)

namespace RulePlan

variable {rule : Rule} {lookups : Lookups} {options : MappingOptions} {settings : EngineSettings}

/-- A destination comes from a text or is the column of a table, so its indexes can be written. -/
theorem isWritable_of_destinationOf {destination : Path}
    (h : destinationOf rule lookups options settings = .ok destination) :
    ∀ element ∈ destination.elements, element.index.IsWritable := by
  unfold destinationOf at h
  split at h
  · split at h
    · cases h
    · split at h
      · cases h
      · rename_i field _ _
        unfold Path.read at h
        cases hread : Path.ofString field.path with
        | error fault =>
          rw [hread] at h
          cases h
        | ok path =>
          rw [hread] at h
          cases h
          exact Path.isWritable_of_ofString hread
  · split at h
    · split at h
      · cases h
        intro element hmem
        simp only [Path.tabularColumn, List.mem_cons, List.not_mem_nil, or_false] at hmem
        rcases hmem with rfl | rfl
        · exact Nat.one_pos
        · trivial
      · cases h
    · cases h

theorem isWritable_of_ofRule {plan : RulePlan}
    (hplan : ofRule rule lookups options settings = .ok plan) :
    ∀ element ∈ plan.destination.elements, element.index.IsWritable := by
  obtain ⟨destination, _, _, _, _, hdestination, _, _, _, _, rfl⟩ := ofRule_eq_ok_iff.mp hplan
  exact isWritable_of_destinationOf hdestination

/-- An open tag is that of an index of the destination without a hint. -/
theorem mem_openTags_iff {plan : RulePlan} {tag : String} :
    tag ∈ plan.openTags ↔
      tag ∈ plan.destination.dynamicTags ∧ plan.correlation.isCorrelated tag = false ∧
        plan.placement.get? tag = none := by
  unfold openTags
  rw [List.mem_filter, Bool.and_eq_true, Bool.not_eq_true', Bool.not_eq_true',
    OrderedMap.contains_eq_false_iff]

/-- Under an open tag there is no fixed position. -/
theorem isDynamic_of_mem_openTags {plan : RulePlan}
    (hplan : ofRule rule lookups options settings = .ok plan) :
    ∀ tag ∈ plan.openTags, ∀ element ∈ plan.destination.elements, element.tag? = some tag →
      element.index.isDynamic = true := by
  intro tag htag element hmem heq
  obtain ⟨found, hfound, hdynamic, hfoundTag⟩ :=
    Path.mem_dynamicTags_iff.mp (mem_openTags_iff.mp htag).1
  exact PathIndex.isDynamic_of_tag? (isWritable_of_ofRule hplan found hfound) hdynamic hfoundTag
    heq

end RulePlan

/-! ## The course of the writes -/

namespace WriteTask

/-- The writes of a task from some counters and a target on: their number, together with those
before, and what they end with. They end when one of them fails or reports nothing more to fill, or
when a ceiling is reached; a write that fails counts. -/
inductive Course (task : WriteTask) (ceiling : Option Nat) :
    Nat → Counters → Node → Nat → Except MappingError Outcome → Prop where
  | failed {writes : Nat} {counters : Counters} {target : Node} {error : MappingError}
      (hwrite : (task.writeOnce counters target).result = .error error) :
      Course task ceiling writes counters target (writes + 1) (.error error)
  | finished {writes : Nat} {counters : Counters} {target : Node} {written : Written}
      (hwrite : (task.writeOnce counters target).result = .ok written)
      (hlast : (task.isOneOfMany || !written.more) = true) :
      Course task ceiling writes counters target (writes + 1)
        (.ok ⟨writes + 1, task.countersAfter counters, written.node⟩)
  | stopped {writes : Nat} {counters : Counters} {target : Node} {written : Written} {limit : Nat}
      (hwrite : (task.writeOnce counters target).result = .ok written)
      (hmore : (task.isOneOfMany || !written.more) = false)
      (hceiling : ceiling = some limit) (hreached : limit ≤ writes + 1) :
      Course task ceiling writes counters target (writes + 1)
        (.error (.runawayWrite (task.runaway limit (writes + 1) counters)))
  | goesOn {writes total : Nat} {counters : Counters} {target : Node} {written : Written}
      {result : Except MappingError Outcome}
      (hwrite : (task.writeOnce counters target).result = .ok written)
      (hmore : (task.isOneOfMany || !written.more) = false)
      (hbelow : ∀ limit, ceiling = some limit → writes + 1 < limit)
      (hrest : Course task ceiling (writes + 1) (task.countersAfter counters) written.node total
        result) :
      Course task ceiling writes counters target total result

variable {task : WriteTask} {writes total left : Nat} {counters : Counters} {target : Node}
  {result : Except MappingError Outcome}

/-- A loop of writes fails with its first write. -/
theorem writeFrom_of_error {ceiling : Nat} {error : MappingError}
    (hwrite : (task.writeOnce counters target).result = .error error) :
    (task.writeFrom ceiling left writes counters target).result = .error error := by
  unfold writeFrom
  rw [Logged.result_bind, hwrite]
  rfl

/-- A single write fails for a conflict only. -/
theorem exists_conflict_of_writeOnce {error : MappingError}
    (hwrite : (task.writeOnce counters target).result = .error error) :
    ∃ conflict, error = .pathConflict task.plan.destination conflict := by
  rw [writeOnce_result] at hwrite
  cases hfound : task.plan.destination.write (task.placementAt counters) task.tags task.value
      target with
  | ok written =>
    rw [hfound] at hwrite
    cases hwrite
  | error conflict =>
    rw [hfound] at hwrite
    cases hwrite
    exact ⟨conflict, rfl⟩

/-- A course under a ceiling is that of the loop. -/
theorem Course.writeFrom_eq {ceiling : Nat}
    (h : task.Course (some ceiling) writes counters target total result)
    (hleft : left + 1 + writes = max 1 ceiling) :
    (task.writeFrom ceiling left writes counters target).result = result := by
  induction h generalizing left with
  | failed hwrite => exact writeFrom_of_error hwrite
  | finished hwrite hlast => exact writeFrom_of_not_more hwrite hlast
  | stopped hwrite hmore hceiling hreached =>
    cases hceiling
    obtain rfl : left = 0 := by omega
    exact writeFrom_zero_of_more hwrite hmore
  | goesOn hwrite hmore hbelow _ ih =>
    have hlt := hbelow ceiling rfl
    cases left with
    | zero => omega
    | succ left =>
      rw [writeFrom_succ_of_more hwrite hmore]
      exact ih (by omega)

/-- A course from the first write on tells what all writes of a value end with. -/
theorem Course.write_eq {ceiling : Nat}
    (h : task.Course (some ceiling) 0 counters target total result) :
    (task.write ceiling counters target).result = result := by
  apply h.writeFrom_eq
  omega

/-- A ceiling bounds the writes of a course. -/
theorem Course.total_le_ceiling {ceiling : Nat}
    (h : task.Course (some ceiling) writes counters target total result)
    (hbefore : writes < max 1 ceiling) : total ≤ max 1 ceiling := by
  induction h with
  | failed _ => exact hbefore
  | finished _ _ => exact hbefore
  | stopped _ _ _ _ => exact hbefore
  | goesOn _ _ hbelow _ ih =>
    exact ih (Nat.lt_of_lt_of_le (hbelow ceiling rfl) (Nat.le_max_right _ _))

/-! ## Arrays that were long from the start -/

/-- What holds before every write of a task: the open tags are at the item with the number of the
writes before, and the arrays under them are no longer than those at the start or than these writes
have made them. -/
structure Narrow (task : WriteTask) (bound writes : Nat) (counters : Counters) (target : Node) :
    Prop where
  counters_eq : task.fansOut = true → counters = task.plan.openTags.map (·, writes)
  within : target.ArraysWithin task.tags (max bound writes) task.plan.destination.elements

/-- The hint of an open tag is its counter. -/
theorem get?_placementAt_of_mem {tag : String} (hfansOut : task.fansOut = true)
    (htag : tag ∈ task.plan.openTags) (position : Nat) :
    (task.placementAt (task.plan.openTags.map (·, position))).get? tag =
      some (.position position) := by
  have hlast : OrderedMap.last?
      (Counters.placement (task.plan.openTags.map (·, position))) tag =
        some (.position position) := by
    have hmem : (tag, ItemHint.position position) ∈
        Counters.placement (task.plan.openTags.map (·, position)) := by
      simpa [Counters.placement] using htag
    obtain ⟨hint, hhint⟩ := OrderedMap.exists_last? hmem
    have hentry := OrderedMap.mem_of_last? hhint
    rw [Counters.placement, List.map_map, List.mem_map] at hentry
    obtain ⟨_, _, heq⟩ := hentry
    rw [hhint, ← (Prod.mk.inj heq).2]
  rw [placementAt, if_pos hfansOut, OrderedMap.get?_merge, hlast, Option.some_or]

/-- The elements under open tags all go to the item of the counters. -/
theorem Narrow.fixes {bound : Nat} (h : task.Narrow bound writes counters target)
    (hdynamic : ∀ tag ∈ task.plan.openTags, ∀ element ∈ task.plan.destination.elements,
      element.tag? = some tag → element.index.isDynamic = true) :
    (task.placementAt counters).Fixes task.tags writes task.plan.destination.elements := by
  intro element hmem tag htag heq length
  unfold tags at htag
  split at htag
  · rename_i hfansOut
    rw [h.counters_eq hfansOut, resolve_of_isDynamic (hdynamic tag htag element hmem heq) heq,
      get?_placementAt_of_mem hfansOut htag]
  · cases htag

/-- A write keeps the arrays narrow, and goes on only when one was long from the start. -/
theorem Narrow.writeOnce {bound : Nat} {written : Written}
    (h : task.Narrow bound writes counters target)
    (hdynamic : ∀ tag ∈ task.plan.openTags, ∀ element ∈ task.plan.destination.elements,
      element.tag? = some tag → element.index.isDynamic = true)
    (hwrite : (task.writeOnce counters target).result = .ok written) :
    task.Narrow bound (writes + 1) (task.countersAfter counters) written.node ∧
      (written.more = true → writes + 1 < bound) := by
  obtain ⟨hconflict, hnode, hmore⟩ := Path.write_eq_ok (writeOnce_eq_ok_iff.mp hwrite)
  have hfixes := h.fixes hdynamic
  refine ⟨⟨?_, ?_⟩, ?_⟩
  · intro hfansOut
    rw [countersAfter, if_pos hfansOut, h.counters_eq hfansOut, Counters.next, List.map_map]
    rfl
  · rw [hnode]
    exact (h.within.mono (by omega)).store_walk hconflict hfixes (by omega) task.value
  · intro hyes
    rw [hmore] at hyes
    have hlt := h.within.lt_of_leavesMore hconflict hfixes hyes
    omega

/-- The counters and the target of a rule start narrow. -/
theorem narrow_start {plan : RulePlan} {value : Scalar} {located : Option SelectedValue}
    {isOneOfMany : Bool} {bound : Nat}
    (h : ∀ location items, target.at? location = some (.array items) → items.length ≤ bound) :
    (plan.task value located isOneOfMany).Narrow bound 0 (.start plan.openTags) target where
  counters_eq _ := rfl
  within := by
    rw [Nat.max_zero]
    exact Node.arraysWithin_of_forall_at? h _

section

variable {bound : Nat}
  (hdynamic : ∀ tag ∈ task.plan.openTags, ∀ element ∈ task.plan.destination.elements,
    element.tag? = some tag → element.index.isDynamic = true)

include hdynamic

/-- However long the writes may go on, there are no more of them than items. -/
theorem Course.total_le {ceiling : Option Nat}
    (h : task.Course ceiling writes counters target total result)
    (hnarrow : task.Narrow bound writes counters target) (hbefore : writes < max 1 bound) :
    total ≤ max 1 bound := by
  induction h with
  | failed _ => exact hbefore
  | finished _ _ => exact hbefore
  | stopped _ _ _ _ => exact hbefore
  | goesOn hwrite hmore _ _ ih =>
    obtain ⟨hnext, hlt⟩ := hnarrow.writeOnce hdynamic hwrite
    rw [Bool.or_eq_false_iff, Bool.not_eq_false'] at hmore
    exact ih hnext (Nat.lt_of_lt_of_le (hlt hmore.2) (Nat.le_max_right _ _))

/-- The writes end, also without a ceiling. -/
theorem Narrow.exists_course (hnarrow : task.Narrow bound writes counters target)
    (ceiling : Option Nat) :
    ∃ total result, task.Course ceiling writes counters target total result := by
  -- the induction is on the items that are left
  obtain ⟨items, hitems⟩ : ∃ items, items = bound - writes := ⟨_, rfl⟩
  induction items using Nat.strong_induction_on generalizing writes counters target with
  | _ items ih =>
    cases hwrite : (task.writeOnce counters target).result with
    | error error => exact ⟨_, _, .failed hwrite⟩
    | ok written =>
      cases hmore : task.isOneOfMany || !written.more with
      | true => exact ⟨_, _, .finished hwrite hmore⟩
      | false =>
        by_cases hreached : ∃ limit, ceiling = some limit ∧ limit ≤ writes + 1
        · obtain ⟨limit, hceiling, hle⟩ := hreached
          exact ⟨_, _, .stopped hwrite hmore hceiling hle⟩
        · obtain ⟨hnext, hlt⟩ := hnarrow.writeOnce hdynamic hwrite
          have hyes := (Bool.or_eq_false_iff.mp hmore).2
          rw [Bool.not_eq_false'] at hyes
          have hless := hlt hyes
          obtain ⟨total, result, hrest⟩ := ih (bound - (writes + 1)) (by omega) hnext rfl
          refine ⟨total, result, .goesOn hwrite hmore (fun limit hlimit => ?_) hrest⟩
          exact Nat.lt_of_not_le fun hle => hreached ⟨limit, hlimit, hle⟩

/-- Writes are stopped only below the length of an array that was there from the start. -/
theorem Course.lt_of_runaway {ceiling : Nat} {runaway : RunawayWrite}
    (h : task.Course (some ceiling) writes counters target total result)
    (hresult : result = .error (.runawayWrite runaway))
    (hnarrow : task.Narrow bound writes counters target) : max 1 ceiling < bound := by
  induction h with
  | failed hwrite =>
    obtain ⟨conflict, rfl⟩ := exists_conflict_of_writeOnce hwrite
    cases hresult
  | finished _ _ => cases hresult
  | stopped hwrite hmore hceiling hreached =>
    cases hceiling
    obtain ⟨_, hlt⟩ := hnarrow.writeOnce hdynamic hwrite
    rw [Bool.or_eq_false_iff, Bool.not_eq_false'] at hmore
    have hless := hlt hmore.2
    omega
  | goesOn hwrite _ _ _ ih => exact ih hresult (hnarrow.writeOnce hdynamic hwrite).1

end

end WriteTask

/-! ## Errors of values -/

namespace RulePlan

variable {plan : RulePlan}

/-- What values fail with is not the fault of a loop. -/
theorem coversValues_category : MappingError.CoversValues (·.category ≠ .loopGuard) :=
  ⟨fun _ => nofun, fun _ => nofun, fun _ _ => nofun, fun _ _ => nofun⟩

/-- Only the writes of a value run away. -/
theorem write_of_runaway {context : MappingContext} {item : Node} {value : Scalar}
    {located : Option SelectedValue} {isOneOfMany : Bool} {state : RuleState}
    {runaway : RunawayWrite}
    (h : (plan.writeValue context item value located isOneOfMany state).result =
      .error (.runawayWrite runaway)) :
    ∃ result, ((plan.task result located isOneOfMany).write context.settings.writeCeiling
      state.counters state.target).result = .error (.runawayWrite runaway) := by
  unfold writeValue at h
  simp only [Logged.bind_eq_error_iff, Logged.result_pure] at h
  rcases h with hvalue | ⟨⟨result, _⟩, _, hwrite | ⟨_, _, hnone⟩⟩
  · exact absurd rfl (coversValues_category.value (.inr fun _ _ => nofun) _ _ _ hvalue)
  · exact ⟨result, hwrite⟩
  · cases hnone

end RulePlan

/-! ## The end of the writes -/

/-- The writes of a single value end by themselves: without a ceiling there is a course, and no
course has more writes than the longest array of the target has items, but for the first. Under a
ceiling the loop follows the course, so it writes no more often than the ceiling admits, and it runs
away only when the target has an array that is longer. -/
theorem loop_of_writes_ends {rule : Rule} {lookups : Lookups} {options : MappingOptions}
    {settings : EngineSettings} {plan : RulePlan}
    (hplan : RulePlan.ofRule rule lookups options settings = .ok plan)
    (located : Option SelectedValue) (target : Node) :
    (∀ value,
      let task := plan.task value located false
      (∃ total result, task.Course none 0 (.start plan.openTags) target total result) ∧
      (∀ total result, task.Course none 0 (.start plan.openTags) target total result →
        total ≤ max 1 target.widest) ∧
      ∀ ceiling,
        (∃ total, task.Course (some ceiling) 0 (.start plan.openTags) target total
          (task.write ceiling (.start plan.openTags) target).result) ∧
        ∀ total result,
          task.Course (some ceiling) 0 (.start plan.openTags) target total result →
            result = (task.write ceiling (.start plan.openTags) target).result ∧
              total ≤ max 1 ceiling) ∧
    ∀ context item value writes cache runaway,
      (plan.writeValue context item value located false
          ⟨writes, .start plan.openTags, cache, target⟩).result = .error (.runawayWrite runaway) →
        ∃ location items, target.at? location = some (.array items) ∧
          max 1 context.settings.writeCeiling < items.length := by
  have hdynamic := RulePlan.isDynamic_of_mem_openTags hplan
  have hwidest : ∀ location items, target.at? location = some (.array items) →
      items.length ≤ target.widest :=
    fun _ _ hitems => Nat.le_trans (Nat.le_max_left _ _) (Node.widest_le_of_at? hitems)
  refine ⟨fun value => ?_, ?_⟩
  · have hnarrow := @WriteTask.narrow_start target plan value located false _ hwidest
    refine ⟨hnarrow.exists_course hdynamic none, ?_, ?_⟩
    · intro total result hcourse
      exact hcourse.total_le hdynamic hnarrow (by omega)
    · intro ceiling
      constructor
      · obtain ⟨total, result, hcourse⟩ := hnarrow.exists_course hdynamic (some ceiling)
        refine ⟨total, ?_⟩
        rw [hcourse.write_eq]
        exact hcourse
      · intro total result hcourse
        exact ⟨hcourse.write_eq.symm, hcourse.total_le_ceiling (by omega)⟩
  · intro context item raw writes cache runaway hrunaway
    obtain ⟨value, hwrite⟩ := RulePlan.write_of_runaway hrunaway
    by_contra hshort
    have hbound : ∀ location items, target.at? location = some (.array items) →
        items.length ≤ max 1 context.settings.writeCeiling :=
      fun location items hitems => Nat.le_of_not_lt fun hlt => hshort ⟨location, items, hitems, hlt⟩
    have hnarrow := @WriteTask.narrow_start target plan value located false _ hbound
    obtain ⟨total, result, hcourse⟩ :=
      hnarrow.exists_course hdynamic (some context.settings.writeCeiling)
    have hresult := hcourse.write_eq.symm.trans hwrite
    exact Nat.lt_irrefl _ (hcourse.lt_of_runaway hdynamic hresult hnarrow)

/-- A rule with a hint that fills cells with a constant. -/
def fillingRule (hint : String) : Rule :=
  { Rule.empty with
    destinationField := some "cells", placementHint := some hint, constant := some (.boolean true) }

/-- Cells as a field. -/
def cellLookups (cells : String) : Lookups :=
  ⟨[], [("cells", ⟨"cells", cells⟩)], []⟩

/-- The plan of the constant. -/
def fillingPlan (hint : String) (destination : Path) (placement : Placement) : RulePlan where
  rule := fillingRule hint
  destination := destination
  source := none
  placement := placement
  matched := []
  correlation := Correlation.ofPaths destination none []
  mode := .constant (.boolean true)
  format := none

theorem ofRule_fillingRule {hint cells : String} {destination : Path} {placement : Placement}
    (hblank : Text.allBlank cells = false) (hpath : Path.ofString cells = .ok destination)
    (hhints : Hints.readOptional (some hint) = .ok ⟨placement, []⟩) :
    RulePlan.ofRule (fillingRule hint) (cellLookups cells) .default .default =
      .ok (fillingPlan hint destination placement) := by
  refine RulePlan.ofRule_eq_ok_iff.mpr ⟨destination, none, .constant (.boolean true), none,
    ⟨placement, []⟩, ?_, rfl, rfl, rfl, ?_, rfl⟩
  · simp [RulePlan.destinationOf, fillingRule, cellLookups, Path.read, OrderedMap.get?, hblank,
      hpath, Except.mapError]
  · simp [RulePlan.hintsOf, fillingRule, hhints, Except.mapError]

/-- Three nested lists, of which the innermost is appended to. -/
def nestedPlan : RulePlan :=
  fillingPlan "z=null" ⟨[⟨"a", .named "x"⟩, ⟨"b", .named "y"⟩, ⟨"c", .named "z"⟩]⟩
    [("z", .append)]

/-- Two items, the first of which has three items of its own. -/
def nestedTarget : Node :=
  .object [("a", .array [.object [("b", .array [.placeholder, .placeholder, .placeholder])],
    .placeholder])]

/-- The writes of the constant end without a ceiling, and a ceiling of one is reached. -/
theorem loop_of_writes_ends_in_nested_lists :
    RulePlan.ofRule (fillingRule "z=null") (cellLookups "$.a[x].b[y].c[z]") .default .default =
      .ok nestedPlan ∧
    nestedTarget.widest = 3 ∧
    (∃ total result, (nestedPlan.task (.boolean true) none false).Course none 0
      (.start nestedPlan.openTags) nestedTarget total result) ∧
    (∀ total result, (nestedPlan.task (.boolean true) none false).Course none 0
      (.start nestedPlan.openTags) nestedTarget total result → total ≤ 3) ∧
    ∃ runaway,
      (nestedPlan.writeValue ⟨.object [], none, ⟨1, "row"⟩⟩ .placeholder .null none false
        ⟨0, .start nestedPlan.openTags, [], nestedTarget⟩).result =
          .error (.runawayWrite runaway) ∧
      ∃ location items, nestedTarget.at? location = some (.array items) ∧ 1 < items.length := by
  have hplan : RulePlan.ofRule (fillingRule "z=null") (cellLookups "$.a[x].b[y].c[z]") .default
      .default = .ok nestedPlan :=
    ofRule_fillingRule (by cbv) (by cbv) (by cbv)
  have hwrite : (nestedPlan.writeValue ⟨.object [], none, ⟨1, "row"⟩⟩ .placeholder .null none false
      ⟨0, .start nestedPlan.openTags, [], nestedTarget⟩).result =
        .error (.runawayWrite ((nestedPlan.task (.boolean true) none false).runaway 1 1
          (.start nestedPlan.openTags))) := rfl
  obtain ⟨hloop, hrunaway⟩ := loop_of_writes_ends hplan none nestedTarget
  obtain ⟨hends, htotal, _⟩ := hloop (.boolean true)
  exact ⟨hplan, rfl, hends, htotal, _, hwrite, hrunaway _ _ _ _ _ _ hwrite⟩

end DocumentMapping
