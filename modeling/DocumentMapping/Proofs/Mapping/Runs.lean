import DocumentMapping.Mapping.Engine
import DocumentMapping.Proofs.Sequencing
import DocumentMapping.Proofs.Tree.Positions

/-!
# The stages of a mapping

A mapping succeeds when every enabled rule can be planned, the expressions can be prepared and every
pass succeeds. This file takes a successful mapping apart into these stages, and a rule into the
values that it writes one after the other. Notices play no part in it.
-/

namespace DocumentMapping

open Expression (Cache)

/-! ## Results in sequence -/

namespace Logged

variable {α β : Type}

/-- A sequence succeeds when both parts do. -/
theorem bind_eq_ok_iff {first : Logged α} {next : α → Logged β} {value : β} :
    (first >>= next).result = .ok value ↔
      ∃ found, first.result = .ok found ∧ (next found).result = .ok value := by
  rw [result_bind, Except.bind_eq_ok_iff]

/-- Notices in front of a computation do not change its result. -/
@[simp] theorem result_notes_bind (notices : List Notice) (next : Unit → Logged β) :
    (notes notices >>= next).result = (next ()).result := by
  rw [result_bind]
  rfl

@[simp] theorem result_note_bind (level : NoticeLevel) (message : String)
    (next : Unit → Logged β) : (note level message >>= next).result = (next ()).result :=
  result_notes_bind _ next

end Logged

/-! ## Planning -/

/-- The hints of a rule are those of its text. -/
theorem RulePlan.hintsOf_eq_ok_iff {rule : Rule} {hints : Hints} :
    RulePlan.hintsOf rule = .ok hints ↔ Hints.readOptional rule.placementHint = .ok hints := by
  unfold RulePlan.hintsOf
  cases Hints.readOptional rule.placementHint with
  | error problem => simp [Except.mapError]
  | ok found => simp [Except.mapError]

/-- A plan takes the rule and its hints over. -/
theorem RulePlan.ofRule_eq_ok_iff {rule : Rule} {lookups : Lookups} {options : MappingOptions}
    {settings : EngineSettings} {plan : RulePlan} :
    RulePlan.ofRule rule lookups options settings = .ok plan ↔
      ∃ destination source mode format hints,
        RulePlan.destinationOf rule lookups options settings = .ok destination ∧
        RulePlan.sourceOf rule lookups = .ok source ∧
        rule.mode = .ok mode ∧
        RulePlan.formatOf rule lookups = .ok format ∧
        RulePlan.hintsOf rule = .ok hints ∧
        plan = {
          rule, destination, source, mode, format
          placement := hints.placement
          matched := Correlation.matchedOptional destination source hints.renames
          correlation := Correlation.ofPaths destination source hints.renames } := by
  unfold RulePlan.ofRule
  simp only [bind, Except.bind_eq_ok_iff, pure, Except.pure, Except.ok.injEq]
  constructor
  · rintro ⟨destination, hdestination, source, hsource, mode, hmode, format, hformat, hints, hhints,
      rfl⟩
    exact ⟨destination, source, mode, format, hints, hdestination, hsource, hmode, hformat, hhints,
      rfl⟩
  · rintro ⟨destination, source, mode, format, hints, hdestination, hsource, hmode, hformat, hhints,
      rfl⟩
    exact ⟨destination, hdestination, source, hsource, mode, hmode, format, hformat, hints, hhints,
      rfl⟩

/-- A plan pins the tags that the hints of the rule pin, and correlates its paths under their
renames. -/
theorem RulePlan.exists_hints {rule : Rule} {lookups : Lookups} {options : MappingOptions}
    {settings : EngineSettings} {plan : RulePlan}
    (hplan : RulePlan.ofRule rule lookups options settings = .ok plan) :
    ∃ hints, RulePlan.hintsOf rule = .ok hints ∧ plan.placement = hints.placement ∧
      plan.correlation = Correlation.ofPaths plan.destination plan.source hints.renames := by
  obtain ⟨_, _, _, _, hints, _, _, _, _, hhints, rfl⟩ := RulePlan.ofRule_eq_ok_iff.mp hplan
  exact ⟨hints, hhints, rfl, rfl⟩

theorem RulePlan.hints_of_ofRule {rule : Rule} {lookups : Lookups} {options : MappingOptions}
    {settings : EngineSettings} {plan : RulePlan} {hints : Hints}
    (hplan : RulePlan.ofRule rule lookups options settings = .ok plan)
    (hhints : RulePlan.hintsOf rule = .ok hints) :
    plan.placement = hints.placement ∧
      plan.correlation = Correlation.ofPaths plan.destination plan.source hints.renames := by
  obtain ⟨found, hfound, htaken⟩ := RulePlan.exists_hints hplan
  rw [hhints] at hfound
  cases hfound
  exact htaken

/-- Planning succeeds when every enabled rule can be planned, and gives their plans in order. -/
theorem planRules_eq_ok_iff {lookups : Lookups} {options : MappingOptions}
    {settings : EngineSettings} {rules : List Rule} {plans : List RulePlan} :
    (planRules lookups options settings rules).result = .ok plans ↔
      List.Forall₂ (fun rule plan => RulePlan.ofRule rule lookups options settings = .ok plan)
        (rules.filter (!·.isDisabled)) plans := by
  induction rules generalizing plans with
  | nil =>
    rw [List.filter_nil, List.forall₂_nil_left_iff, planRules, Logged.result_pure,
      Except.ok.injEq, eq_comm]
  | cons rule rest ih =>
    rw [planRules, List.filter_cons]
    cases rule.isDisabled with
    | true =>
      simp only [if_true, Logged.result_note_bind, Bool.not_true, Bool.false_eq_true, if_false]
      exact ih
    | false =>
      simp only [Bool.false_eq_true, if_false, Bool.not_false, if_true, Logged.bind_eq_ok_iff,
        Logged.result_ofExcept, Logged.result_notes_bind, Logged.result_pure, Except.ok.injEq, ih]
      constructor
      · rintro ⟨plan, hplan, later, hlater, rfl⟩
        exact .cons hplan hlater
      · intro h
        cases h with
        | cons hplan hlater => exact ⟨_, hplan, _, hlater, rfl⟩

/-! ## Preparing and mapping -/

/-- What is there before the first pass: the compiled expressions, and the scratch cache that every
pass starts from. -/
def prepare (modules : ModuleCache Expression) (source : Node) (rules : List Rule)
    (options : MappingOptions) : Except MappingError (Option ExpressionModule × Cache) :=
  (compileRules modules rules options).1.bind fun module =>
    (baseCache source module).result.map (module, ·)

/-- Without expressions there is nothing to prepare. -/
theorem prepare_of_isEmpty {modules : ModuleCache Expression} {source : Node} {rules : List Rule}
    {options : MappingOptions} (h : (expressionSources rules options).isEmpty = true) :
    prepare modules source rules options = .ok (none, []) := by
  unfold prepare compileRules
  rw [if_pos h]
  rfl

/-- A mapping plans the rules, compiles their expressions and runs the passes. -/
theorem mapSource_result_eq (settings : EngineSettings) (modules : ModuleCache Expression)
    (source : Node) (rules : List Rule) (lookups : Lookups) (options : MappingOptions) :
    (mapSource settings modules source rules lookups options).1.result =
      (planRules lookups options settings rules).result.bind fun plans =>
        (compileRules modules rules options).1.bind fun module =>
          (runPasses rules options plans ⟨source, module, settings⟩).result := by
  unfold mapSource
  cases hplans : (planRules lookups options settings rules).result with
  | error problem =>
    simp only [hplans]
    rfl
  | ok plans =>
    simp only [hplans, Logged.result_bind, Logged.result_ofExcept]
    rfl

/-- A mapping succeeds when planning, preparing and the passes do. -/
theorem mapSource_eq_ok_iff {settings : EngineSettings} {modules : ModuleCache Expression}
    {source : Node} {rules : List Rule} {lookups : Lookups} {options : MappingOptions}
    {target : Node} :
    (mapSource settings modules source rules lookups options).1.result = .ok target ↔
      ∃ plans module cache,
        (planRules lookups options settings rules).result = .ok plans ∧
        prepare modules source rules options = .ok (module, cache) ∧
        ((passes options).foldlM (applyPass plans ⟨source, module, settings⟩ cache)
          (.object [])).result = .ok target := by
  rw [mapSource_result_eq]
  simp only [prepare, runPasses, Except.bind_eq_ok_iff, Except.map_eq_ok_iff, Logged.bind_eq_ok_iff,
    Logged.result_note_bind, Prod.mk.injEq]
  constructor
  · rintro ⟨plans, hplans, module, hmodule, cache, hcache, hpasses⟩
    exact ⟨plans, module, cache, hplans, ⟨module, hmodule, cache, hcache, rfl, rfl⟩, hpasses⟩
  · rintro ⟨plans, _, _, hplans, ⟨module, hmodule, cache, hcache, rfl, rfl⟩, hpasses⟩
    exact ⟨plans, hplans, module, hmodule, cache, hcache, hpasses⟩

/-! ## Applying a rule -/

namespace RulePlan

/-- A rule succeeds when its values can be written one after the other. -/
theorem apply_eq_ok_iff {plan : RulePlan} {context : MappingContext} {pass : Nat}
    {state after : PassState} :
    (plan.apply context pass state).result = .ok after ↔
      ∃ last, (plan.writeAll context ⟨0, .start plan.openTags, state.cache, state.target⟩).result =
        .ok last ∧ after = ⟨last.cache, last.target⟩ := by
  unfold apply
  simp only [Logged.bind_eq_ok_iff, Logged.result_note_bind, Logged.result_pure, Except.ok.injEq]
  constructor
  · rintro ⟨last, hlast, rfl⟩
    exact ⟨last, hlast, rfl⟩
  · rintro ⟨last, hlast, rfl⟩
    exact ⟨last, hlast, rfl⟩

/-- A rule with a source writes the values of the source in order. -/
theorem writeAll_of_source {plan : RulePlan} {path : Path} (hsource : plan.source = some path)
    (context : MappingContext) (state : RuleState) :
    (plan.writeAll context state).result =
      ((path.select context.source).foldlM
        (plan.writeSelected context (decide (1 < (path.select context.source).length)))
          state).result := by
  unfold writeAll
  rw [hsource]
  simp only
  split
  · rename_i hempty
    rw [List.isEmpty_iff.mp hempty]
    rfl
  · rfl

/-- A rule whose source has a single value writes this value. -/
theorem writeAll_of_singleton {plan : RulePlan} {path : Path} {context : MappingContext}
    {selected : SelectedValue} (hsource : plan.source = some path)
    (hvalues : path.select context.source = [selected]) (state : RuleState) :
    (plan.writeAll context state).result =
      (plan.writeSelected context false state selected).result := by
  rw [writeAll_of_source hsource, hvalues, List.foldlM_cons, Logged.result_bind]
  change Except.bind (plan.writeSelected context false state selected).result
    (fun last => .ok last) = (plan.writeSelected context false state selected).result
  cases (plan.writeSelected context false state selected).result <;> rfl

/-- A value is written when it can be computed and its writes succeed. -/
theorem writeValue_eq_ok_iff {plan : RulePlan} {context : MappingContext} {item : Node}
    {value : Scalar} {located : Option SelectedValue} {isOneOfMany : Bool}
    {state after : RuleState} :
    (plan.writeValue context item value located isOneOfMany state).result = .ok after ↔
      ∃ result cache outcome,
        (plan.value context.module ⟨context.source, item, value⟩ state.cache).result =
          .ok (result, cache) ∧
        ((plan.task result located isOneOfMany).write context.settings.writeCeiling state.counters
          state.target).result = .ok outcome ∧
        after = ⟨state.writes + outcome.writes, outcome.counters, cache, outcome.target⟩ := by
  unfold writeValue
  simp only [Logged.bind_eq_ok_iff, Logged.result_pure, Except.ok.injEq, Prod.exists]
  constructor
  · rintro ⟨result, cache, hvalue, outcome, hwrite, rfl⟩
    exact ⟨result, cache, outcome, hvalue, hwrite, rfl⟩
  · rintro ⟨result, cache, outcome, hvalue, hwrite, rfl⟩
    exact ⟨result, cache, hvalue, outcome, hwrite, rfl⟩

end RulePlan

/-- A task fans out when nothing follows from the place of its value and some tag is open. -/
theorem RulePlan.fansOut_task_iff {plan : RulePlan} {value : Scalar}
    {located : Option SelectedValue} {isOneOfMany : Bool} :
    (plan.task value located isOneOfMany).fansOut = true ↔
      (located.map plan.steer).getD [] = [] ∧ plan.openTags ≠ [] := by
  show (((located.map plan.steer).getD []).isEmpty && !plan.openTags.isEmpty) = true ↔ _
  rw [Bool.and_eq_true, Bool.not_eq_true', List.isEmpty_iff, List.isEmpty_eq_false_iff]

namespace WriteTask

/-- A task that does not fan out has the hints of its value for all counters, and no tags to fill. -/
theorem placementAt_of_not_fansOut {task : WriteTask} (h : task.fansOut = false)
    (counters : Counters) : task.placementAt counters = task.placement := by
  rw [placementAt, h]
  rfl

theorem tags_of_not_fansOut {task : WriteTask} (h : task.fansOut = false) : task.tags = [] := by
  rw [tags, h]
  rfl

theorem countersAfter_of_not_fansOut {task : WriteTask} (h : task.fansOut = false)
    (counters : Counters) : task.countersAfter counters = counters := by
  rw [countersAfter, h]
  rfl

/-- A single write of a task is a write to its destination, where conflicts are reported. -/
theorem writeOnce_result (task : WriteTask) (counters : Counters) (target : Node) :
    (task.writeOnce counters target).result =
      (task.plan.destination.write (task.placementAt counters) task.tags task.value
        target).mapError (.pathConflict task.plan.destination) := by
  unfold writeOnce
  rw [Logged.result_notes_bind, Logged.result_ofExcept]

theorem writeOnce_eq_ok_iff {task : WriteTask} {counters : Counters} {target : Node}
    {written : Written} :
    (task.writeOnce counters target).result = .ok written ↔
      task.plan.destination.write (task.placementAt counters) task.tags task.value target =
        .ok written := by
  rw [writeOnce_result]
  cases task.plan.destination.write (task.placementAt counters) task.tags task.value target with
  | error conflict => simp [Except.mapError]
  | ok found => simp [Except.mapError]

section

variable {task : WriteTask} {ceiling left writes : Nat} {counters : Counters} {target : Node}
  {written : Written}

/-- A task that has nothing more to fill stops. -/
theorem writeFrom_of_not_more (hwrite : (task.writeOnce counters target).result = .ok written)
    (hmore : (task.isOneOfMany || !written.more) = true) :
    (task.writeFrom ceiling left writes counters target).result =
      .ok ⟨writes + 1, task.countersAfter counters, written.node⟩ := by
  unfold writeFrom
  rw [Logged.result_bind, hwrite]
  simp only [Except.bind, hmore, if_true, Logged.result_pure]

/-- A task that has more to fill fails when no write is left. -/
theorem writeFrom_zero_of_more (hwrite : (task.writeOnce counters target).result = .ok written)
    (hmore : (task.isOneOfMany || !written.more) = false) :
    (task.writeFrom ceiling 0 writes counters target).result =
      .error (.runawayWrite (task.runaway ceiling (writes + 1) counters)) := by
  unfold writeFrom
  rw [Logged.result_bind, hwrite]
  simp only [Except.bind, hmore, Bool.false_eq_true, if_false, Logged.result_notes_bind,
    Logged.result_fail]

/-- A task that has more to fill goes on while writes are left. -/
theorem writeFrom_succ_of_more (hwrite : (task.writeOnce counters target).result = .ok written)
    (hmore : (task.isOneOfMany || !written.more) = false) :
    (task.writeFrom ceiling (left + 1) writes counters target).result =
      (task.writeFrom ceiling left (writes + 1) (task.countersAfter counters)
        written.node).result := by
  conv_lhs => unfold writeFrom
  rw [Logged.result_bind, hwrite]
  simp only [Except.bind, hmore, Bool.false_eq_true, if_false]

end

/-- A task whose positions are decided writes once and stores its value at their location, when the
way is free and no tag is to be filled. -/
theorem write_of_locationBy? {task : WriteTask} {counters : Counters} {target : Node}
    {location : Location}
    (h : locationBy? (task.placementAt counters).pinned? task.plan.destination.elements =
      some location)
    (hadmits : target.Admits location) (hone : task.isOneOfMany = true ∨ task.tags = [])
    (ceiling : Nat) :
    (task.write ceiling counters target).result =
      .ok ⟨1, task.countersAfter counters, target.store task.value location⟩ := by
  have hwrite := Path.write_of_locationBy? h hadmits task.tags task.value
  refine writeFrom_of_not_more (writeOnce_eq_ok_iff.mpr hwrite) ?_
  rcases hone with hmany | htags
  · rw [hmany, Bool.true_or]
  · rw [Bool.or_eq_true]
    right
    rw [htags, any_leavesMore_nil]
    rfl

end WriteTask

end DocumentMapping
