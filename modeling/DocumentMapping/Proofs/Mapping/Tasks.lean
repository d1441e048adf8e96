import DocumentMapping.Proofs.Mapping.Runs

/-!
# The tasks of a pass

What a rule writes does not depend on the target: its values follow from the source, the compiled
expressions and the scratch cache alone. A pass is therefore split into the tasks that its rules
compute, one after the other through the scratch cache, and the writes of these tasks to the target.
A pass succeeds when both parts do.
-/

namespace DocumentMapping

open Expression (Cache)

namespace RulePlan

/-- The tasks of writing some values of the source, and the scratch cache after computing them. -/
def tasksFor (plan : RulePlan) (context : MappingContext) (isOneOfMany : Bool) :
    List SelectedValue → Cache → Except MappingError (List WriteTask × Cache)
  | [], cache => .ok ([], cache)
  | selected :: rest, cache =>
    (plan.value context.module
        ⟨context.source, (context.source.enclosingItem? selected.path).getD context.source,
          selected.value⟩ cache).result.bind fun (value, cache) =>
      (plan.tasksFor context isOneOfMany rest cache).map fun (tasks, cache) =>
        (plan.task value (some selected) isOneOfMany :: tasks, cache)

/-- The tasks of a rule, and the scratch cache after computing them. -/
def tasks (plan : RulePlan) (context : MappingContext) (cache : Cache) :
    Except MappingError (List WriteTask × Cache) :=
  match plan.source with
  | none =>
    (plan.value context.module ⟨context.source, .placeholder, .null⟩ cache).result.map
      fun (value, cache) => ([plan.task value none false], cache)
  | some path =>
    plan.tasksFor context (decide (1 < (path.select context.source).length))
      (path.select context.source) cache

end RulePlan

/-- The target after the writes of the tasks of one rule. -/
def WriteTask.writeEach (ceiling : Nat) :
    List WriteTask → Counters → Node → Except MappingError Node
  | [], _, target => .ok target
  | task :: rest, counters, target =>
    (task.write ceiling counters target).result.bind fun outcome =>
      writeEach ceiling rest outcome.counters outcome.target

/-- The tasks of all rules of a pass, which compute their values one after the other. -/
def passTasks (context : MappingContext) :
    List RulePlan → Cache → Except MappingError (List (RulePlan × List WriteTask))
  | [], _ => .ok []
  | plan :: rest, cache =>
    (plan.tasks context cache).bind fun (tasks, cache) =>
      (passTasks context rest cache).map fun more => (plan, tasks) :: more

/-- The target after the writes of all rules of a pass. -/
def writePass (ceiling : Nat) :
    List (RulePlan × List WriteTask) → Node → Except MappingError Node
  | [], target => .ok target
  | (plan, tasks) :: rest, target =>
    (WriteTask.writeEach ceiling tasks (.start plan.openTags) target).bind fun target =>
      writePass ceiling rest target

/-! ## Computing before writing -/

namespace RulePlan

variable {plan : RulePlan} {context : MappingContext}

/-- The values of a rule can be computed and written in turn exactly when they can be computed first
and written then. -/
theorem foldlM_writeSelected_eq_ok_iff {isOneOfMany : Bool} {values : List SelectedValue}
    {state : RuleState} {cache : Cache} {target : Node} :
    (∃ after, (values.foldlM (plan.writeSelected context isOneOfMany) state).result = .ok after ∧
        after.cache = cache ∧ after.target = target) ↔
      ∃ tasks, plan.tasksFor context isOneOfMany values state.cache = .ok (tasks, cache) ∧
        WriteTask.writeEach context.settings.writeCeiling tasks state.counters state.target =
          .ok target := by
  induction values generalizing state with
  | nil =>
    simp only [List.foldlM_nil, Logged.result_pure, Except.ok.injEq, tasksFor, Prod.mk.injEq]
    constructor
    · rintro ⟨_, rfl, rfl, rfl⟩
      exact ⟨[], ⟨rfl, rfl⟩, rfl⟩
    · rintro ⟨_, ⟨rfl, rfl⟩, hwrite⟩
      exact ⟨state, rfl, rfl, Except.ok.inj hwrite⟩
  | cons selected rest ih =>
    simp only [List.foldlM_cons, Logged.bind_eq_ok_iff, writeSelected, writeValue_eq_ok_iff,
      tasksFor, Except.bind_eq_ok_iff, Except.map_eq_ok_iff, Prod.exists, Prod.mk.injEq]
    constructor
    · rintro ⟨after, ⟨_, ⟨value, between, outcome, hvalue, hwrite, rfl⟩, hrest⟩, hcache, htarget⟩
      obtain ⟨tasks, htasks, heach⟩ := ih.mp ⟨after, hrest, hcache, htarget⟩
      refine ⟨_, ⟨value, between, hvalue, tasks, cache, htasks, rfl, rfl⟩, ?_⟩
      rw [WriteTask.writeEach, hwrite]
      exact heach
    · rintro ⟨_, ⟨value, between, hvalue, tasks, _, htasks, rfl, rfl⟩, hwrite⟩
      rw [WriteTask.writeEach, Except.bind_eq_ok_iff] at hwrite
      obtain ⟨outcome, hwrite, heach⟩ := hwrite
      obtain ⟨after, hrest, hcache, htarget⟩ := (@ih
        ⟨state.writes + outcome.writes, outcome.counters, between, outcome.target⟩).mpr
          ⟨tasks, htasks, heach⟩
      exact ⟨after, ⟨_, ⟨value, between, outcome, hvalue, hwrite, rfl⟩, hrest⟩, hcache, htarget⟩

/-- A rule succeeds when its tasks can be computed and written. -/
theorem apply_eq_ok_iff_tasks {pass : Nat} {state after : PassState} :
    (plan.apply context pass state).result = .ok after ↔
      ∃ tasks, plan.tasks context state.cache = .ok (tasks, after.cache) ∧
        WriteTask.writeEach context.settings.writeCeiling tasks (.start plan.openTags)
          state.target = .ok after.target := by
  rw [apply_eq_ok_iff, tasks]
  cases hsource : plan.source with
  | none =>
    unfold writeAll
    simp only [hsource, writeValue_eq_ok_iff, Except.map_eq_ok_iff, Prod.exists, Prod.mk.injEq]
    constructor
    · rintro ⟨_, ⟨value, cache, outcome, hvalue, hwrite, rfl⟩, rfl⟩
      refine ⟨_, ⟨value, cache, hvalue, rfl, rfl⟩, ?_⟩
      rw [WriteTask.writeEach, hwrite]
      rfl
    · rintro ⟨_, ⟨value, cache, hvalue, rfl, hcache⟩, hwrite⟩
      rw [WriteTask.writeEach, Except.bind_eq_ok_iff] at hwrite
      obtain ⟨outcome, hwrite, heach⟩ := hwrite
      refine ⟨_, ⟨value, cache, outcome, hvalue, hwrite, rfl⟩, ?_⟩
      rw [hcache, Except.ok.inj heach]
  | some path =>
    have hfold := @foldlM_writeSelected_eq_ok_iff plan context
      (decide (1 < (path.select context.source).length)) (path.select context.source)
      ⟨0, .start plan.openTags, state.cache, state.target⟩ after.cache after.target
    rw [writeAll_of_source hsource, ← hfold]
    constructor
    · rintro ⟨last, hlast, rfl⟩
      exact ⟨last, hlast, rfl, rfl⟩
    · rintro ⟨last, hlast, hcache, htarget⟩
      exact ⟨last, hlast, by rw [hcache, htarget]⟩

end RulePlan

/-- A pass succeeds when its tasks can be computed and written; the number of the pass and the
target have no part in the tasks. -/
theorem applyPass_eq_ok_iff {plans : List RulePlan} {context : MappingContext} {cache : Cache}
    {target after : Node} {pass : Nat} :
    (applyPass plans context cache target pass).result = .ok after ↔
      ∃ tasks, passTasks context plans cache = .ok tasks ∧
        writePass context.settings.writeCeiling tasks target = .ok after := by
  rw [applyPass, Logged.bind_eq_ok_iff]
  induction plans generalizing cache target with
  | nil =>
    constructor
    · rintro ⟨_, ⟨rfl⟩, hafter⟩
      exact ⟨[], rfl, hafter⟩
    · rintro ⟨_, ⟨rfl⟩, hafter⟩
      exact ⟨⟨cache, target⟩, rfl, hafter⟩
  | cons plan rest ih =>
    simp only [List.foldlM_cons, Logged.bind_eq_ok_iff, RulePlan.apply_eq_ok_iff_tasks, passTasks,
      Except.bind_eq_ok_iff, Except.map_eq_ok_iff, Prod.exists]
    constructor
    · rintro ⟨last, ⟨⟨between, reached⟩, ⟨tasks, htasks, hwrite⟩, hrest⟩, hafter⟩
      obtain ⟨more, hmore, hpass⟩ := ih.mp ⟨last, hrest, hafter⟩
      refine ⟨_, ⟨tasks, between, htasks, more, hmore, rfl⟩, ?_⟩
      rw [writePass, hwrite]
      exact hpass
    · rintro ⟨_, ⟨tasks, between, htasks, more, hmore, rfl⟩, hwrite⟩
      rw [writePass, Except.bind_eq_ok_iff] at hwrite
      obtain ⟨reached, hwrite, hpass⟩ := hwrite
      obtain ⟨last, hrest, hafter⟩ := ih.mpr ⟨more, hmore, hpass⟩
      exact ⟨last, ⟨⟨between, reached⟩, ⟨tasks, htasks, hwrite⟩, hrest⟩, hafter⟩

/-! ## The tasks of a rule -/

/-- In lists that are related element by element, every element of the second has its partner. -/
theorem exists_mem_of_forall₂ {α β : Type} {related : α → β → Prop} {first : List α}
    {second : List β} (h : List.Forall₂ related first second) {y : β} (hmem : y ∈ second) :
    ∃ x ∈ first, related x y := by
  induction h with
  | nil => cases hmem
  | @cons x z rest others hrelated _ ih =>
    rcases List.mem_cons.mp hmem with rfl | hlater
    · exact ⟨x, List.mem_cons_self, hrelated⟩
    · obtain ⟨found, hfound, hpartner⟩ := ih hlater
      exact ⟨found, List.mem_cons_of_mem _ hfound, hpartner⟩

namespace RulePlan

variable {plan : RulePlan} {context : MappingContext} {cache after : Cache}
  {tasks : List WriteTask}

/-- Each value of the source has its task, in order. -/
theorem forall₂_tasksFor {isOneOfMany : Bool} {values : List SelectedValue}
    (h : plan.tasksFor context isOneOfMany values cache = .ok (tasks, after)) :
    List.Forall₂ (fun selected task => ∃ value, task = plan.task value (some selected) isOneOfMany)
      values tasks := by
  induction values generalizing cache tasks with
  | nil =>
    cases h
    exact .nil
  | cons selected rest ih =>
    simp only [tasksFor, Except.bind_eq_ok_iff, Except.map_eq_ok_iff, Prod.exists,
      Prod.mk.injEq] at h
    obtain ⟨value, between, _, more, last, hmore, rfl, rfl⟩ := h
    exact .cons ⟨value, rfl⟩ (ih hmore)

/-- A rule without a source has one task, and a rule with a source has one for each value. -/
theorem tasks_cases (h : plan.tasks context cache = .ok (tasks, after)) :
    (plan.source = none ∧ ∃ value, tasks = [plan.task value none false]) ∨
      ∃ path, plan.source = some path ∧
        List.Forall₂ (fun selected task => ∃ value, task = plan.task value (some selected)
          (decide (1 < (path.select context.source).length))) (path.select context.source)
          tasks := by
  unfold RulePlan.tasks at h
  split at h
  · rename_i hsource
    simp only [Except.map_eq_ok_iff, Prod.exists, Prod.mk.injEq] at h
    obtain ⟨value, _, _, rfl, rfl⟩ := h
    exact .inl ⟨hsource, value, rfl⟩
  · rename_i path hsource
    exact .inr ⟨path, hsource, forall₂_tasksFor h⟩

end RulePlan

/-- The tasks of a pass belong to its rules. -/
theorem exists_tasks_of_mem {context : MappingContext} {plans : List RulePlan} {cache : Cache}
    {all : List (RulePlan × List WriteTask)} {plan : RulePlan} {tasks : List WriteTask}
    (h : passTasks context plans cache = .ok all) (hmem : (plan, tasks) ∈ all) :
    plan ∈ plans ∧ ∃ before after, plan.tasks context before = .ok (tasks, after) := by
  induction plans generalizing cache all with
  | nil =>
    cases h
    cases hmem
  | cons first rest ih =>
    simp only [passTasks, Except.bind_eq_ok_iff, Except.map_eq_ok_iff, Prod.exists] at h
    obtain ⟨found, between, hfound, more, hmore, rfl⟩ := h
    rcases List.mem_cons.mp hmem with heq | hlater
    · cases heq
      exact ⟨List.mem_cons_self, cache, between, hfound⟩
    · obtain ⟨hplan, htasks⟩ := ih hmore hlater
      exact ⟨List.mem_cons_of_mem _ hplan, htasks⟩

/-- Every rule of a pass has its tasks. -/
theorem exists_mem_passTasks {context : MappingContext} {plans : List RulePlan} {cache : Cache}
    {all : List (RulePlan × List WriteTask)} {plan : RulePlan}
    (h : passTasks context plans cache = .ok all) (hmem : plan ∈ plans) :
    ∃ tasks, (plan, tasks) ∈ all := by
  induction plans generalizing cache all with
  | nil => cases hmem
  | cons first rest ih =>
    simp only [passTasks, Except.bind_eq_ok_iff, Except.map_eq_ok_iff, Prod.exists] at h
    obtain ⟨found, between, hfound, more, hmore, rfl⟩ := h
    rcases List.mem_cons.mp hmem with rfl | hlater
    · exact ⟨found, List.mem_cons_self⟩
    · obtain ⟨tasks, htasks⟩ := ih hmore hlater
      exact ⟨tasks, List.mem_cons_of_mem _ htasks⟩

end DocumentMapping
