import DocumentMapping.Proofs.Mapping.Failures
import DocumentMapping.Proofs.Mapping.Texts

/-!
# Planned expressions are found

Whether a rule is computed is decided when it is planned, and what is compiled is decided from the
list of the rules. Both ask for the same: an enabled rule that is computed has a text, and its id is
the name of a text that has been compiled, of this rule or of another one. The preprocessor is run
only where there is a text under its name. So no pass misses an expression.
-/

namespace DocumentMapping

open Expression (Cache)

/-! ## Errors of other kinds -/

/-- Whether an error is that of an expression that is not there. -/
def MappingError.isUnknownExpression : MappingError → Bool
  | .unknownExpression .. => true
  | _ => false

/-- A result that does not miss an expression. -/
abbrev FindsExpressions {α : Type} (result : Except MappingError α) : Prop :=
  Except.FailsOnly (·.isUnknownExpression = false) result

theorem coversValues_isUnknownExpression :
    MappingError.CoversValues (·.isUnknownExpression = false) :=
  ⟨fun _ => rfl, fun _ => rfl, fun _ _ => rfl, fun _ _ => rfl⟩

theorem findsExpressions_read (text : String) : FindsExpressions (Path.read text) := by
  unfold Path.read
  exact .mapError (fun _ => by rfl) _

/-! ## Planning -/

namespace RulePlan

variable {rule : Rule} {lookups : Lookups} {options : MappingOptions} {settings : EngineSettings}

theorem findsExpressions_destinationOf :
    FindsExpressions (destinationOf rule lookups options settings) := by
  unfold destinationOf
  split
  · split
    · exact .error rfl
    · split
      · exact .error rfl
      · exact findsExpressions_read _
  · split
    · split
      · exact .ok _
      · exact .error rfl
    · exact .error rfl

theorem findsExpressions_sourceOf : FindsExpressions (sourceOf rule lookups) := by
  unfold sourceOf
  split
  · exact .ok _
  · split
    · exact .error rfl
    · exact (findsExpressions_read _).map _

theorem findsExpressions_mode : FindsExpressions rule.mode := by
  refine .bind ?_ fun constant _ => ?_
  · unfold Rule.constantScalar
    split
    · exact .ok _
    · split
      · exact .ok _
      · exact .error rfl
  · unfold Rule.modeFor
    split
    · exact .ok _
    · exact .ok _
    · split <;> exact .ok _
    · split
      · exact .ok _
      · exact .error rfl

theorem findsExpressions_formatOf : FindsExpressions (formatOf rule lookups) := by
  unfold formatOf
  split
  · exact .ok _
  · split
    · exact .error rfl
    · exact .ok _

theorem findsExpressions_hintsOf : FindsExpressions (hintsOf rule) := by
  unfold hintsOf
  exact .mapError (fun _ => by rfl) _

theorem findsExpressions_ofRule : FindsExpressions (ofRule rule lookups options settings) :=
  .bind findsExpressions_destinationOf fun _ _ =>
    .bind findsExpressions_sourceOf fun _ _ =>
      .bind findsExpressions_mode fun _ _ =>
        .bind findsExpressions_formatOf fun _ _ =>
          .bind findsExpressions_hintsOf fun _ _ => .ok _

end RulePlan

theorem findsExpressions_planRules (lookups : Lookups) (options : MappingOptions)
    (settings : EngineSettings) (rules : List Rule) :
    FindsExpressions (planRules lookups options settings rules).result := by
  induction rules with
  | nil => exact .ok _
  | cons rule rest ih =>
    rw [planRules]
    split
    · rw [Logged.result_note_bind]
      exact ih
    · refine Logged.failsOnly_bind RulePlan.findsExpressions_ofRule fun _ _ => ?_
      rw [Logged.result_notes_bind]
      exact Logged.failsOnly_bind ih fun _ _ => .ok _

/-! ## Compiling -/

theorem ModuleCache.findsExpressions_compileAll {Code : Type}
    (compile : String → String → Except String Code) (key : String)
    (sources : List (String × String)) : FindsExpressions (compileAll compile key sources) := by
  induction sources with
  | nil => exact .ok _
  | cons entry rest ih =>
    obtain ⟨name, source⟩ := entry
    rw [compileAll]
    split
    · exact .error rfl
    · exact ih.map _

section

variable {modules : ModuleCache Expression} {rules : List Rule} {options : MappingOptions}

theorem findsExpressions_compileRules (hnew : modules.get? (moduleKey rules options) = none) :
    FindsExpressions (compileRules modules rules options).1 := by
  rw [compileRules_of_new hnew]
  split
  · exact .ok _
  · exact (ModuleCache.findsExpressions_compileAll _ _ _).map _

/-- The id of an enabled rule that is computed stands for a text, if not for that of the rule. -/
theorem exists_textUnder?_of_mode {rule : Rule} (hmem : rule ∈ rules.filter (!·.isDisabled))
    (hmode : rule.mode = .ok .expression) :
    ∃ text, textUnder? rules options rule.id = some text := by
  obtain ⟨own, hown⟩ := Rule.exists_expression?_of_mode hmode
  have hentry : (rule.id, own) ∈ ruleTexts rules :=
    List.mem_filterMap.mpr ⟨rule, hmem, by rw [hown]; rfl⟩
  obtain ⟨last, hlast⟩ := OrderedMap.exists_last? hentry
  rw [textUnder?, hlast]
  cases (if rule.id = preprocessorName then options.preprocessor? else none) with
  | none => exact ⟨last, rfl⟩
  | some text => exact ⟨text, rfl⟩

end

theorem Represents.hasExpression {module : Option ExpressionModule} {text? : String → Option String}
    (h : Represents module text?) {name text : String} (htext : text? name = some text) :
    HasExpression module name := by
  have hcontains := h.any_contains name
  rw [htext] at hcontains
  cases module with
  | none => cases hcontains
  | some found => exact ⟨found, rfl, hcontains⟩

/-! ## Passes -/

namespace WriteTask

theorem findsExpressions_writeOnce (task : WriteTask) (counters : Counters) (target : Node) :
    FindsExpressions (task.writeOnce counters target).result := by
  unfold writeOnce
  rw [Logged.result_notes_bind, Logged.result_ofExcept]
  exact .mapError (fun _ => by rfl) _

theorem findsExpressions_writeFrom (task : WriteTask) (ceiling left writes : Nat)
    (counters : Counters) (target : Node) :
    FindsExpressions (task.writeFrom ceiling left writes counters target).result := by
  induction left generalizing writes counters target with
  | zero =>
    rw [writeFrom]
    refine Logged.failsOnly_bind (task.findsExpressions_writeOnce counters target) fun _ _ => ?_
    split
    · exact .ok _
    · rw [Logged.result_notes_bind]
      exact .error rfl
  | succ left ih =>
    rw [writeFrom]
    refine Logged.failsOnly_bind (task.findsExpressions_writeOnce counters target) fun _ _ => ?_
    split
    · exact .ok _
    · exact ih _ _ _

end WriteTask

namespace RulePlan

variable {plan : RulePlan} {context : MappingContext}

/-- A rule whose expression is there, if it is computed, writes all its values without missing
it. -/
theorem findsExpressions_apply
    (hfound : plan.mode = .expression → HasExpression context.module plan.rule.id) (pass : Nat)
    (state : PassState) : FindsExpressions (plan.apply context pass state).result := by
  have hwrite (item : Node) (value : Scalar) (located : Option SelectedValue) (isOneOfMany : Bool)
      (state : RuleState) :
      FindsExpressions (plan.writeValue context item value located isOneOfMany state).result :=
    Logged.failsOnly_bind (coversValues_isUnknownExpression.value (.inl hfound) _ _) fun _ _ =>
      Logged.failsOnly_bind (WriteTask.findsExpressions_writeFrom _ _ _ _ _ _) fun _ _ => .ok _
  refine Logged.failsOnly_bind ?_ fun _ _ => .ok _
  cases hsource : plan.source with
  | none =>
    unfold writeAll
    rw [hsource]
    exact hwrite _ _ _ _ _
  | some path =>
    rw [writeAll_of_source hsource]
    exact Logged.failsOnly_foldlM (fun _ _ _ => hwrite _ _ _ _ _) _

end RulePlan

/-- The preprocessor is looked for only where it is. -/
theorem findsExpressions_baseCache (source : Node) (module : Option ExpressionModule) :
    FindsExpressions (baseCache source module).result := by
  unfold baseCache
  split
  · exact .ok _
  · rename_i found
    split
    · rename_i hcontains
      refine Logged.failsOnly_bind
        (coversValues_isUnknownExpression.invoke (.inl hcontains) _ _) fun _ _ => ?_
      rw [Logged.result_notes_bind]
      exact .ok _
    · exact .ok _

/-- No pass misses an expression when the expressions of all computed rules are there. -/
theorem findsExpressions_runPasses {rules : List Rule} {options : MappingOptions}
    {plans : List RulePlan} {context : MappingContext}
    (h : ∀ plan ∈ plans, plan.mode = .expression → HasExpression context.module plan.rule.id) :
    FindsExpressions (runPasses rules options plans context).result := by
  refine Logged.failsOnly_bind (findsExpressions_baseCache _ _) fun cache _ => ?_
  rw [Logged.result_note_bind]
  refine Logged.failsOnly_foldlM (fun pass _ target => ?_) _
  refine Logged.failsOnly_bind (Logged.failsOnly_foldlM ?_ _) fun _ _ => .ok _
  exact fun plan hmem state => plan.findsExpressions_apply (h plan hmem) pass state

/-- When no module has been kept, a mapping never ends with an expression that is not there, be it
that of a rule or the preprocessor. -/
theorem planned_expressions_are_found (settings : EngineSettings) (compilations : Nat)
    (source : Node) (rules : List Rule) (lookups : Lookups) (options : MappingOptions)
    (key name : String) :
    (mapSource settings ⟨[], compilations⟩ source rules lookups options).1.result ≠
      .error (.unknownExpression key name) := by
  suffices hfinds : FindsExpressions
      (mapSource settings ⟨[], compilations⟩ source rules lookups options).1.result by
    intro hmissing
    cases hfinds _ hmissing
  rw [mapSource_result_eq]
  refine .bind (findsExpressions_planRules lookups options settings rules) fun plans hplans => ?_
  refine .bind (findsExpressions_compileRules rfl) fun module hmodule => ?_
  refine findsExpressions_runPasses fun plan hmem hcomputed => ?_
  obtain ⟨rule, hrule, hplan⟩ := exists_mem_of_forall₂ (planRules_eq_ok_iff.mp hplans) hmem
  obtain ⟨_, _, mode, _, _, _, _, hmode, _, _, rfl⟩ := RulePlan.ofRule_eq_ok_iff.mp hplan
  obtain rfl : mode = .expression := hcomputed
  obtain ⟨text, htext⟩ := exists_textUnder?_of_mode hrule hmode
  exact (represents_of_compileRules rfl hmodule).hasExpression htext

end DocumentMapping
