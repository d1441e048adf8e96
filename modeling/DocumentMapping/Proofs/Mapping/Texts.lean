import DocumentMapping.Proofs.Mapping.Compilation
import DocumentMapping.Proofs.Mapping.Tasks

/-!
# Expressions by their texts

Expressions are compiled together under the ids of their rules, and a rule finds its expression by
its id. This file says what a mapping gives without modules and ids, when every rule runs a text of
its own choice, and proves that a mapping gives just that when each rule runs the last text under
its id. Where no two rules with expressions share an id and none has the preprocessor's, this is
the text of the rule itself. Otherwise it is not: all rules with one id run the text of the last of
them, and a rule with the preprocessor's id runs as a preprocessor.
-/

namespace DocumentMapping

open Expression (Inputs Cache)

/-! ## Mapping by texts -/

/-- Runs a text: its result and the scratch cache afterwards, unless it is no expression or ends
with a fault. -/
def Expression.runText? (text : String) (inputs : Inputs) (cache : Cache) :
    Option (Node × Cache) :=
  (Expression.read? text).bind fun expression =>
    (expression.evaluate inputs cache).1.toOption.map (·, (expression.evaluate inputs cache).2)

namespace RulePlan

/-- The value of a rule before it is formatted, where an expression is computed by a text. -/
def rawValueBy? (plan : RulePlan) (text? : Option String) (inputs : ValueInputs) (cache : Cache) :
    Option (Scalar × Cache) :=
  match plan.mode with
  | .constant value => some (value, cache)
  | .formattedConstant value => some (value, cache)
  | .passthrough => some (inputs.value, cache)
  | .expression => do
    let (node, cache) ←
      Expression.runText? (← text?) ⟨inputs.request, inputs.item, .scalar inputs.value⟩ cache
    let value ← node.toScalar.toOption
    return (value, cache)

/-- The value that a rule writes, where an expression is computed by a text. -/
def valueBy? (plan : RulePlan) (text? : Option String) (inputs : ValueInputs) (cache : Cache) :
    Option (Scalar × Cache) := do
  let (raw, cache) ← plan.rawValueBy? text? inputs cache
  let value ← (plan.formatted raw).toOption
  return (value, cache)

/-- What the values of a rule are computed from, in order, and where they come from. -/
def origins (plan : RulePlan) (source : Node) : List (ValueInputs × Option SelectedValue) :=
  match plan.source with
  | none => [(⟨source, .placeholder, .null⟩, none)]
  | some path =>
    (path.select source).map fun selected =>
      (⟨source, (source.enclosingItem? selected.path).getD source, selected.value⟩, some selected)

/-- The tasks of writing what is computed in order, where an expression is computed by a text. -/
def tasksForBy? (plan : RulePlan) (text? : Option String) (isOneOfMany : Bool) :
    List (ValueInputs × Option SelectedValue) → Cache → Option (List WriteTask × Cache)
  | [], cache => some ([], cache)
  | (inputs, located) :: rest, cache =>
    (plan.valueBy? text? inputs cache).bind fun (value, cache) =>
      (plan.tasksForBy? text? isOneOfMany rest cache).map fun (tasks, cache) =>
        (plan.task value located isOneOfMany :: tasks, cache)

/-- The tasks of a rule, where an expression is computed by a text. -/
def tasksBy? (plan : RulePlan) (text? : Option String) (source : Node) (cache : Cache) :
    Option (List WriteTask × Cache) :=
  plan.tasksForBy? text? (decide (1 < (plan.origins source).length)) (plan.origins source) cache

end RulePlan

/-- The texts that a mapping runs. -/
structure ExpressionTexts where
  /-- The text that computes the values of a rule. -/
  rule? : Rule → Option String
  /-- The text that is run before the first pass. -/
  preprocessor? : Option String

namespace ExpressionTexts

/-- Each rule runs its own text, and what the options say is run before. -/
def own (options : MappingOptions) : ExpressionTexts :=
  ⟨Rule.expression?, options.preprocessor?⟩

/-- The scratch cache that every pass starts from. -/
def base? (texts : ExpressionTexts) (source : Node) : Option Cache :=
  match texts.preprocessor? with
  | none => some []
  | some text => do
    let (result, cache) ← Expression.runText? text ⟨source, .placeholder, .placeholder⟩ []
    return seed cache result

/-- The tasks of the rules of a pass, which compute their values one after the other. -/
def passTasks? (texts : ExpressionTexts) (source : Node) :
    List RulePlan → Cache → Option (List (RulePlan × List WriteTask))
  | [], _ => some []
  | plan :: rest, cache =>
    (plan.tasksBy? (texts.rule? plan.rule) source cache).bind fun (tasks, cache) =>
      (texts.passTasks? source rest cache).map fun more => (plan, tasks) :: more

/-- The target after a pass. -/
def pass? (texts : ExpressionTexts) (ceiling : Nat) (source : Node) (plans : List RulePlan)
    (cache : Cache) (target : Node) : Option Node := do
  (writePass ceiling (← texts.passTasks? source plans cache) target).toOption

/-- The target of a mapping. -/
def map? (texts : ExpressionTexts) (settings : EngineSettings) (source : Node)
    (rules : List Rule) (lookups : Lookups) (options : MappingOptions) : Option Node := do
  let plans ← (planRules lookups options settings rules).result.toOption
  let cache ← texts.base? source
  (passes options).foldlM
    (fun target _ => texts.pass? settings.writeCeiling source plans cache target) (.object [])

end ExpressionTexts

/-! ## The texts under their names -/

/-- The texts of the enabled rules under their ids. -/
def ruleTexts (rules : List Rule) : List (String × String) :=
  (rules.filter (!·.isDisabled)).filterMap fun rule => rule.expression?.map (rule.id, ·)

/-- The text that a name stands for: the last one that was given under it, the preprocessor of the
options after those of the rules. -/
def textUnder? (rules : List Rule) (options : MappingOptions) (name : String) : Option String :=
  (if name = preprocessorName then options.preprocessor? else none).or
    (OrderedMap.last? (ruleTexts rules) name)

/-- Each rule runs what its id stands for, and what the preprocessor's name stands for is run
before. -/
def ExpressionTexts.named (rules : List Rule) (options : MappingOptions) : ExpressionTexts :=
  ⟨fun rule => textUnder? rules options rule.id, textUnder? rules options preprocessorName⟩

/-- The rules with expressions have different ids, and none has the preprocessor's. -/
def WellNamed (rules : List Rule) : Prop :=
  (preprocessorName :: (ruleTexts rules).map Prod.fst).Nodup

theorem get?_expressionSources (rules : List Rule) (options : MappingOptions) (name : String) :
    (expressionSources rules options).get? name = textUnder? rules options name := by
  rw [expressionSources, OrderedMap.get?_ofList, OrderedMap.last?_append, textUnder?]
  congr 1
  cases options.preprocessor? with
  | none =>
    rw [ite_self]
    rfl
  | some text => simp [OrderedMap.last?, eq_comm]

/-! ## Modules of texts -/

/-- A module has an expression under each name for which there is a text: the text's expression. -/
structure Represents (module : Option ExpressionModule) (text? : String → Option String) :
    Prop where
  isReadable : ∀ name text, text? name = some text → Expression.isReadable text
  get?_eq : ∀ name, (module.bind fun module => module.get? name) =
    (text? name).bind Expression.read?

/-- With a module the values of a rule are those that a text computes. -/
def RulePlan.RunsText (plan : RulePlan) (module : Option ExpressionModule)
    (text? : Option String) : Prop :=
  ∀ inputs cache,
    (plan.value module inputs cache).result.toOption = plan.valueBy? text? inputs cache

/-- An expression of a module is run by evaluating it. -/
theorem toOption_invoke (module : ExpressionModule) (name : String) (inputs : Inputs)
    (cache : Cache) :
    (invoke module name inputs cache).result.toOption =
      (module.get? name).bind fun expression =>
        (expression.evaluate inputs cache).1.toOption.map
          (·, (expression.evaluate inputs cache).2) := by
  unfold invoke CompiledModule.invoke
  cases module.get? name with
  | none => rfl
  | some expression =>
    simp only [Expression.run, Option.bind_some]
    rcases expression.evaluate inputs cache with ⟨result, after⟩
    cases result <;> rfl

namespace Represents

variable {module : Option ExpressionModule} {text? : String → Option String}

/-- Running a text is evaluating the expression that the module has for it. -/
theorem bind_runText? (h : Represents module text?) (name : String) (inputs : Inputs)
    (cache : Cache) :
    ((text? name).bind fun text => Expression.runText? text inputs cache) =
      module.bind fun module => (invoke module name inputs cache).result.toOption := by
  unfold Expression.runText?
  rw [← Option.bind_assoc, ← h.get?_eq, Option.bind_assoc]
  simp only [toOption_invoke]

theorem toOption_rawValue (h : Represents module text?) (plan : RulePlan) (inputs : ValueInputs)
    (cache : Cache) :
    (plan.rawValue module inputs cache).result.toOption =
      plan.rawValueBy? (text? plan.rule.id) inputs cache := by
  unfold RulePlan.rawValue RulePlan.rawValueBy?
  cases plan.mode with
  | constant value => rfl
  | formattedConstant value => rfl
  | passthrough => rfl
  | expression =>
    have hrun := h.bind_runText? plan.rule.id
      ⟨inputs.request, inputs.item, .scalar inputs.value⟩ cache
    simp only [Option.bind_eq_bind, ← Option.bind_assoc, hrun]
    cases module with
    | none => rfl
    | some module =>
      simp only [Logged.result_bind, Logged.result_ofExcept, Logged.result_pure,
        Except.toOption_bind, Option.bind_some]
      rfl

/-- A rule runs the text under its id. -/
theorem runsText (h : Represents module text?) (plan : RulePlan) :
    plan.RunsText module (text? plan.rule.id) := by
  intro inputs cache
  unfold RulePlan.value RulePlan.valueBy?
  rw [Option.bind_eq_bind, ← h.toOption_rawValue]
  simp only [Logged.result_bind, Logged.result_ofExcept, Logged.result_pure, Except.toOption_bind]
  rfl

/-- A module has an expression under a name exactly when there is a text. -/
theorem any_contains (h : Represents module text?) (name : String) :
    (module.any fun module => module.contains name) = (text? name).isSome := by
  have hget := congrArg Option.isSome (h.get?_eq name)
  cases htext : text? name with
  | none =>
    rw [htext] at hget
    cases module with
    | none => rfl
    | some module => exact hget
  | some text =>
    have hread : (Expression.read? text).isSome = true :=
      (Expression.isSome_read? text).trans (h.isReadable name text htext)
    rw [htext, Option.bind_some, hread] at hget
    cases module with
    | none => cases hget
    | some module => exact hget

/-- The passes start from the cache that the text under the preprocessor's name gives. -/
theorem toOption_baseCache (h : Represents module text?) (rule? : Rule → Option String)
    (source : Node) :
    (baseCache source module).result.toOption =
      ExpressionTexts.base? ⟨rule?, text? preprocessorName⟩ source := by
  have hrun := h.bind_runText? preprocessorName ⟨source, .placeholder, .placeholder⟩ []
  have hcontains := h.any_contains preprocessorName
  unfold ExpressionTexts.base? baseCache
  cases htext : text? preprocessorName with
  | none =>
    rw [htext] at hcontains
    cases module with
    | none => rfl
    | some module =>
      have hmissing : module.contains preprocessorName = false := hcontains
      simp only [hmissing, Bool.false_eq_true, if_false]
      rfl
  | some text =>
    rw [htext] at hcontains hrun
    cases module with
    | none => cases hcontains
    | some module =>
      have hfound : module.contains preprocessorName = true := hcontains
      simp only [Option.bind_some] at hrun
      simp only [hfound, if_true, Option.bind_eq_bind, hrun, Logged.result_bind,
        Logged.result_notes, Logged.result_pure, Except.toOption_bind]
      rfl

end Represents

/-! ## Mapping with a module -/

namespace RulePlan.RunsText

variable {plan : RulePlan} {context : MappingContext} {text? other? : Option String}

/-- The text has no part in a rule whose values are not computed. -/
theorem congr {module : Option ExpressionModule} (h : plan.RunsText module text?)
    (hsame : plan.mode = .expression → text? = other?) : plan.RunsText module other? := by
  intro inputs cache
  rw [h]
  unfold valueBy? rawValueBy?
  cases hmode : plan.mode with
  | constant value => rfl
  | formattedConstant value => rfl
  | passthrough => rfl
  | expression => rw [hsame hmode]

theorem toOption_tasksFor (h : plan.RunsText context.module text?) (isOneOfMany : Bool)
    (values : List SelectedValue) (cache : Cache) :
    (plan.tasksFor context isOneOfMany values cache).toOption =
      plan.tasksForBy? text? isOneOfMany (values.map fun selected =>
        (⟨context.source, (context.source.enclosingItem? selected.path).getD context.source,
          selected.value⟩, some selected)) cache := by
  induction values generalizing cache with
  | nil => rfl
  | cons selected rest ih =>
    simp only [tasksFor, List.map_cons, tasksForBy?, Except.toOption_bind, Except.toOption_map,
      h _ _, ih]

/-- When the values of a rule are those of a text, then so are its tasks. -/
theorem toOption_tasks (h : plan.RunsText context.module text?) (cache : Cache) :
    (plan.tasks context cache).toOption = plan.tasksBy? text? context.source cache := by
  unfold tasks tasksBy? origins
  cases plan.source with
  | none =>
    simp only [Except.toOption_map, h _ _, tasksForBy?, List.length_singleton, Nat.lt_irrefl,
      decide_false, Option.map_eq_bind]
    rfl
  | some path =>
    simp only [h.toOption_tasksFor, List.length_map]

end RulePlan.RunsText

section

variable {context : MappingContext} {texts : ExpressionTexts} {plans : List RulePlan}

/-- When all rules run texts, the tasks of a pass are those that the texts compute. -/
theorem toOption_passTasks
    (h : ∀ plan ∈ plans, plan.RunsText context.module (texts.rule? plan.rule)) (cache : Cache) :
    (passTasks context plans cache).toOption = texts.passTasks? context.source plans cache := by
  induction plans generalizing cache with
  | nil => rfl
  | cons plan rest ih =>
    have hplan := h plan List.mem_cons_self
    have hrest := ih fun plan hmem => h plan (List.mem_cons_of_mem _ hmem)
    simp only [passTasks, ExpressionTexts.passTasks?, Except.toOption_bind, Except.toOption_map,
      hplan.toOption_tasks, hrest]

/-- One pass: the target is the one that the texts give. -/
theorem toOption_applyPass
    (h : ∀ plan ∈ plans, plan.RunsText context.module (texts.rule? plan.rule)) (cache : Cache)
    (target : Node) (pass : Nat) :
    (applyPass plans context cache target pass).result.toOption =
      texts.pass? context.settings.writeCeiling context.source plans cache target := by
  rw [ExpressionTexts.pass?, ← toOption_passTasks h]
  apply Option.ext
  intro after
  rw [Except.toOption_eq_some_iff, applyPass_eq_ok_iff]
  simp only [Option.bind_eq_bind, Option.bind_eq_some_iff, Except.toOption_eq_some_iff]

/-- All passes, by induction over their numbers. -/
theorem toOption_foldlM_applyPass
    (h : ∀ plan ∈ plans, plan.RunsText context.module (texts.rule? plan.rule)) (cache : Cache)
    (numbers : List Nat) (target : Node) :
    (numbers.foldlM (applyPass plans context cache) target).result.toOption =
      numbers.foldlM (fun target _ => texts.pass? context.settings.writeCeiling context.source
        plans cache target) target := by
  induction numbers generalizing target with
  | nil => rfl
  | cons number rest ih =>
    simp only [List.foldlM_cons, Logged.result_bind, Except.toOption_bind, toOption_applyPass h, ih]
    rfl

end

/-! ## The texts of a configuration -/

/-- Texts that agree with what the ids of computed rules, and the preprocessor's name, stand for. -/
structure ExpressionTexts.Follows (texts : ExpressionTexts) (rules : List Rule)
    (options : MappingOptions) : Prop where
  rule?_eq : ∀ rule ∈ rules, rule.isDisabled = false → rule.mode = .ok .expression →
    texts.rule? rule = textUnder? rules options rule.id
  preprocessor?_eq : texts.preprocessor? = textUnder? rules options preprocessorName

section

variable {modules : ModuleCache Expression} {rules : List Rule} {options : MappingOptions}

/-- The texts of a configuration can be compiled when each of them is an expression. -/
theorem exists_compileRules_iff (hnew : modules.get? (moduleKey rules options) = none) :
    (∃ module, (compileRules modules rules options).1 = .ok module) ↔
      ∀ name text, textUnder? rules options name = some text → Expression.isReadable text := by
  have hall : (expressionSources rules options).all (fun entry => Expression.isReadable entry.2) ↔
      ∀ name text, textUnder? rules options name = some text → Expression.isReadable text := by
    have hnodup : (expressionSources rules options).keys.Nodup := OrderedMap.nodup_keys_ofList _
    simp only [List.all_eq_true, Prod.forall, ← OrderedMap.get?_eq_some_iff hnodup,
      get?_expressionSources]
  rw [← hall, compileRules_of_new hnew]
  split
  · rename_i hempty
    rw [List.isEmpty_iff.mp hempty]
    exact ⟨fun _ => rfl, fun _ => ⟨none, rfl⟩⟩
  · rw [← @ModuleCache.exists_compileAll_iff (moduleKey rules options)]
    simp only [Except.map_eq_ok_iff]
    constructor
    · rintro ⟨_, expressions, hcompiled, _⟩
      exact ⟨expressions, hcompiled⟩
    · rintro ⟨expressions, hcompiled⟩
      exact ⟨_, expressions, hcompiled, rfl⟩

/-- A newly compiled module has the texts of the configuration under their names. -/
theorem represents_of_compileRules (hnew : modules.get? (moduleKey rules options) = none)
    {module : Option ExpressionModule} (h : (compileRules modules rules options).1 = .ok module) :
    Represents module (textUnder? rules options) := by
  refine ⟨(exists_compileRules_iff hnew).mp ⟨module, h⟩, fun name => ?_⟩
  rw [← get?_expressionSources]
  rw [compileRules_of_new hnew] at h
  split at h
  · rename_i hempty
    cases h
    rw [List.isEmpty_iff.mp hempty]
    rfl
  · obtain ⟨expressions, hcompiled, rfl⟩ := Except.map_eq_ok_iff.mp h
    exact ModuleCache.get?_compileAll hcompiled name

variable {settings : EngineSettings} {source : Node} {lookups : Lookups}
  {texts : ExpressionTexts}

/-- When the expressions have been compiled, a mapping runs for each rule the text that the rule's
id stands for. -/
theorem ExpressionTexts.Follows.toOption_mapSource (h : texts.Follows rules options)
    {module : Option ExpressionModule}
    (hmodule : (compileRules .empty rules options).1 = .ok module) :
    (mapSource settings .empty source rules lookups options).1.result.toOption =
      texts.map? settings source rules lookups options := by
  have hrepresents := represents_of_compileRules rfl hmodule
  rw [mapSource_result_eq, hmodule, ExpressionTexts.map?, Except.toOption_bind]
  cases hplans : (planRules lookups options settings rules).result with
  | error error => rfl
  | ok plans =>
    have hruns : ∀ plan ∈ plans, plan.RunsText module (texts.rule? plan.rule) := by
      intro plan hmem
      obtain ⟨rule, hrule, hplan⟩ := exists_mem_of_forall₂ (planRules_eq_ok_iff.mp hplans) hmem
      obtain ⟨_, _, mode, _, _, _, _, hmode, _, _, rfl⟩ := RulePlan.ofRule_eq_ok_iff.mp hplan
      obtain ⟨hlisted, henabled⟩ := List.mem_filter.mp hrule
      refine (hrepresents.runsText _).congr fun hcomputed => ?_
      obtain rfl : mode = .expression := hcomputed
      exact (h.rule?_eq rule hlisted (by simpa using henabled) hmode).symm
    have hbase := hrepresents.toOption_baseCache texts.rule? source
    rw [← h.preprocessor?_eq] at hbase
    have hpasses := @toOption_foldlM_applyPass ⟨source, module, settings⟩ texts plans hruns
    show (runPasses rules options plans ⟨source, module, settings⟩).result.toOption = _
    rw [runPasses, Logged.result_bind, Except.toOption_bind, hbase]
    simp only [Logged.result_note_bind, hpasses]
    rfl

/-- A mapping without modules runs for each computed rule the text that the rule's id stands for,
and before all rules the text that the preprocessor's name stands for. -/
theorem ExpressionTexts.Follows.mapSource_eq_ok_iff (h : texts.Follows rules options)
    {target : Node} :
    (mapSource settings .empty source rules lookups options).1.result = .ok target ↔
      (∀ name text, textUnder? rules options name = some text → Expression.isReadable text) ∧
        texts.map? settings source rules lookups options = some target := by
  rw [← @exists_compileRules_iff .empty _ _ rfl]
  constructor
  · intro hresult
    obtain ⟨module, hmodule⟩ : ∃ module, (compileRules .empty rules options).1 = .ok module := by
      rw [mapSource_result_eq, Except.bind_eq_ok_iff] at hresult
      obtain ⟨_, _, hmodule⟩ := hresult
      obtain ⟨module, hmodule, _⟩ := Except.bind_eq_ok_iff.mp hmodule
      exact ⟨module, hmodule⟩
    exact ⟨⟨module, hmodule⟩, by rw [← h.toOption_mapSource hmodule, hresult]; rfl⟩
  · rintro ⟨⟨module, hmodule⟩, htarget⟩
    rwa [← h.toOption_mapSource hmodule, Except.toOption_eq_some_iff] at htarget

/-- Whatever the ids are: a mapping gives what its rules give when each of them runs the last text
under its id, and the last text under the preprocessor's name is run before. -/
theorem mapSource_eq_ok_iff_named {target : Node} :
    (mapSource settings .empty source rules lookups options).1.result = .ok target ↔
      (∀ name text, textUnder? rules options name = some text → Expression.isReadable text) ∧
        (ExpressionTexts.named rules options).map? settings source rules lookups options =
          some target :=
  ExpressionTexts.Follows.mapSource_eq_ok_iff ⟨fun _ _ _ _ => rfl, rfl⟩

end

/-! ## Rules with ids of their own -/

/-- A rule whose values are computed has a text. -/
theorem Rule.exists_expression?_of_mode {rule : Rule} (h : rule.mode = .ok .expression) :
    ∃ text, rule.expression? = some text := by
  obtain ⟨constant, _, hmode⟩ := Except.bind_eq_ok_iff.mp h
  cases htext : rule.expression? with
  | some text => exact ⟨text, rfl⟩
  | none =>
    unfold Rule.modeFor at hmode
    rw [htext] at hmode
    cases constant with
    | none =>
      simp only at hmode
      split at hmode <;> cases hmode
    | some value =>
      cases hformat : rule.format with
      | none =>
        rw [hformat] at hmode
        cases hmode
      | some format =>
        rw [hformat] at hmode
        simp only at hmode
        split at hmode <;> cases hmode

namespace WellNamed

variable {rules : List Rule} {options : MappingOptions}

/-- The id of a rule stands for the rule's own text. -/
theorem textUnder?_id (h : WellNamed rules) {rule : Rule} {text : String} (hmem : rule ∈ rules)
    (henabled : rule.isDisabled = false) (htext : rule.expression? = some text) :
    textUnder? rules options rule.id = some text := by
  obtain ⟨hreserved, hnodup⟩ := List.nodup_cons.mp h
  have hentry : (rule.id, text) ∈ ruleTexts rules :=
    List.mem_filterMap.mpr ⟨rule, List.mem_filter.mpr ⟨hmem, by simp [henabled]⟩, by simp [htext]⟩
  have hname : rule.id ≠ preprocessorName := fun heq =>
    hreserved (List.mem_map.mpr ⟨_, hentry, heq⟩)
  rw [textUnder?, if_neg hname, Option.none_or, OrderedMap.last?_of_nodup hnodup,
    OrderedMap.get?_eq_some_iff hnodup]
  exact hentry

/-- The preprocessor's name stands for the preprocessor of the options. -/
theorem textUnder?_preprocessorName (h : WellNamed rules) :
    textUnder? rules options preprocessorName = options.preprocessor? := by
  obtain ⟨hreserved, hnodup⟩ := List.nodup_cons.mp h
  rw [textUnder?, if_pos rfl, OrderedMap.last?_of_nodup hnodup,
    OrderedMap.get?_eq_none_iff.mpr hreserved, Option.or_none]

theorem own_follows (h : WellNamed rules) :
    (ExpressionTexts.own options).Follows rules options where
  rule?_eq := by
    intro rule hmem henabled hmode
    obtain ⟨text, htext⟩ := Rule.exists_expression?_of_mode hmode
    rw [h.textUnder?_id hmem henabled htext]
    exact htext
  preprocessor?_eq := h.textUnder?_preprocessorName.symm

end WellNamed

/-- When the rules with expressions have different ids, and none has the preprocessor's, a mapping
gives what its rules give when each of them runs its own text, and the preprocessor of the options,
if there is one, is run before. -/
theorem mapSource_runs_own_texts {settings : EngineSettings} {source : Node} {rules : List Rule}
    {lookups : Lookups} {options : MappingOptions} {target : Node} (h : WellNamed rules) :
    (mapSource settings .empty source rules lookups options).1.result = .ok target ↔
      (∀ name text, textUnder? rules options name = some text → Expression.isReadable text) ∧
        (ExpressionTexts.own options).map? settings source rules lookups options = some target :=
  h.own_follows.mapSource_eq_ok_iff

/-- A rule that computes a property by a text. -/
def computingRule (id destination text : String) : Rule :=
  { Rule.empty with
    id, destinationField := some destination, usesExpression := true, expressionText := some text }

/-- Two properties that are written to. -/
def letterFields : Lookups :=
  ⟨[], [("a", ⟨"a", "$.a"⟩), ("b", ⟨"b", "$.b"⟩)], []⟩

/-- Two rules that compute numbers under two ids. -/
def distinctIds : List Rule := [computingRule "x" "a" "1", computingRule "y" "b" "2"]

/-- Two rules that compute numbers without ids. -/
def missingIds : List Rule := [computingRule "" "a" "1", computingRule "" "b" "2"]

/-- A rule that computes a number under the preprocessor's name. -/
def reservedId : List Rule := [computingRule preprocessorName "a" "1"]

/-- Rules with ids of their own compute both numbers. -/
theorem mapSource_runs_own_texts_of_distinct_ids :
    WellNamed distinctIds ∧ ∃ target,
      (mapSource .default .empty .placeholder distinctIds letterFields .default).1.result =
        .ok target ∧
      (ExpressionTexts.own .default).map? .default .placeholder distinctIds letterFields
        .default = some target ∧
      target.text = "\x7b\"a\":1,\"b\":2\x7d" := by
  have hnamed : WellNamed distinctIds := by
    unfold WellNamed
    decide
  have htext : (mapSource .default .empty .placeholder distinctIds letterFields
      .default).1.result.toOption.map Node.text = some "\x7b\"a\":1,\"b\":2\x7d" := by
    decide +kernel
  obtain ⟨target, hresult, htext⟩ := Option.map_eq_some_iff.mp htext
  rw [Except.toOption_eq_some_iff] at hresult
  exact ⟨hnamed, target, hresult, ((mapSource_runs_own_texts hnamed).mp hresult).2, htext⟩

/-- Rules without ids share one text, so that both write the second number. A rule under the
preprocessor's name is run before the first pass, although the options have no preprocessor, and its
value is in the scratch cache that passes start from. -/
theorem shared_and_reserved_ids_run_other_texts :
    ((mapSource .default .empty .placeholder missingIds letterFields
        .default).1.result.toOption.map Node.text = some "\x7b\"a\":2,\"b\":2\x7d" ∧
      ((ExpressionTexts.own .default).map? .default .placeholder missingIds letterFields
        .default).map Node.text = some "\x7b\"a\":1,\"b\":2\x7d") ∧
    ((mapSource .default .empty .placeholder reservedId letterFields
        .default).1.result.isOk = true ∧
      (prepare .empty .placeholder reservedId .default).toOption.map
        (fun prepared => (Node.object prepared.2).text) = some "\x7b\"preprocessor\":1\x7d" ∧
      (ExpressionTexts.own .default).base? .placeholder = some []) := by
  refine ⟨⟨?_, ?_⟩, ?_, ?_, rfl⟩ <;> decide +kernel

end DocumentMapping
