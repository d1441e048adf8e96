import DocumentMapping.Mapping.Engine
import DocumentMapping.Proofs.Sequencing

/-!
# How values fail

A value that cannot be computed or formatted ends a mapping. Apart from an expression that is not
there, its errors are few, and a kind of errors that has all of them is the kind of every failure.
-/

namespace DocumentMapping

open Expression (Cache)

namespace Logged

variable {α β : Type} {kind : MappingError → Prop}

/-- A sequence fails when its first part does, or the second one after it. -/
theorem bind_eq_error_iff {first : Logged α} {next : α → Logged β} {error : MappingError} :
    (first >>= next).result = .error error ↔
      first.result = .error error ∨
        ∃ found, first.result = .ok found ∧ (next found).result = .error error := by
  rw [result_bind]
  cases first.result with
  | error problem => simp [Except.bind]
  | ok found => simp [Except.bind]

theorem failsOnly_bind {first : Logged α} {next : α → Logged β}
    (hfirst : Except.FailsOnly kind first.result)
    (hnext : ∀ value, first.result = .ok value → Except.FailsOnly kind (next value).result) :
    Except.FailsOnly kind (first >>= next).result := by
  rw [result_bind]
  exact hfirst.bind hnext

/-- Steps that fail with errors of a kind only do so one after the other. -/
theorem failsOnly_foldlM {step : β → α → Logged β} {list : List α}
    (h : ∀ value ∈ list, ∀ state, Except.FailsOnly kind (step state value).result) (state : β) :
    Except.FailsOnly kind (list.foldlM step state).result := by
  induction list generalizing state with
  | nil => exact .ok state
  | cons value rest ih =>
    obtain ⟨hvalue, hrest⟩ := List.forall_mem_cons.mp h
    rw [List.foldlM_cons]
    exact failsOnly_bind (hvalue state) fun after _ => ih hrest after

end Logged

/-- A kind that has all errors that values end with, where no expression is missing. -/
structure MappingError.CoversValues (kind : MappingError → Prop) : Prop where
  expressionFailed : ∀ failure, kind (.expressionFailed failure)
  unsupportedValue : ∀ found, kind (.unsupportedValue found)
  conversion : ∀ value target, kind (.conversion value target)
  invalidTemplate : ∀ template fault, kind (.invalidTemplate template fault)

/-- A module has an expression under a name. -/
def HasExpression (module : Option ExpressionModule) (name : String) : Prop :=
  ∃ found ∈ module, (found.get? name).isSome = true

namespace MappingError.CoversValues

variable {kind : MappingError → Prop} (h : CoversValues kind) {plan : RulePlan}
  {module : Option ExpressionModule}

include h

/-- An expression that is there fails by itself only. -/
theorem invoke {found : ExpressionModule} {name : String}
    (hfound : (found.get? name).isSome = true ∨ ∀ key name, kind (.unknownExpression key name))
    (arguments : Expression.Inputs) (cache : Cache) :
    Except.FailsOnly kind (invoke found name arguments cache).result := by
  unfold DocumentMapping.invoke CompiledModule.invoke
  cases hcode : found.get? name with
  | none =>
    obtain hsome | hunknown := hfound
    · rw [hcode] at hsome
      cases hsome
    · exact .error (hunknown _ _)
  | some code =>
    rcases hrun : code.run arguments cache with ⟨fault | node, after⟩
    · simp only [hrun]
      exact .error (h.expressionFailed _)
    · simp only [hrun]
      exact .ok _

theorem toScalar (node : Node) : Except.FailsOnly kind node.toScalar := by
  cases node with
  | scalar value => exact .ok value
  | object properties => exact .error (h.unsupportedValue _)
  | array items => exact .error (h.unsupportedValue _)

theorem formatted (plan : RulePlan) (value : Scalar) :
    Except.FailsOnly kind (plan.formatted value) := by
  unfold RulePlan.formatted
  split
  · exact .ok value
  · rename_i format _
    unfold ValueFormat.apply Scalar.coerce
    cases value.coerce? format.sourceType with
    | none => exact .error (h.conversion _ _)
    | some converted =>
      simp only
      split
      · exact .ok converted
      · exact (Except.FailsOnly.mapError (h.invalidTemplate _) _).map _

/-- The value of a rule fails with such an error only, if its expression is there. -/
theorem value (hfound : (plan.mode = .expression → HasExpression module plan.rule.id) ∨
      ∀ key name, kind (.unknownExpression key name)) (inputs : ValueInputs) (cache : Cache) :
    Except.FailsOnly kind (plan.value module inputs cache).result := by
  refine Logged.failsOnly_bind ?_ fun (raw, _) _ =>
    Logged.failsOnly_bind (h.formatted plan raw) fun _ _ => .ok _
  unfold RulePlan.rawValue
  cases hmode : plan.mode with
  | constant value => exact .ok _
  | formattedConstant value => exact .ok _
  | passthrough => exact .ok _
  | expression =>
    cases module with
    | none =>
      obtain hhas | hunknown := hfound
      · obtain ⟨_, hmem, _⟩ := hhas hmode
        cases hmem
      · exact .error (hunknown _ _)
    | some found =>
      have hcode : (found.get? plan.rule.id).isSome = true ∨
          ∀ key name, kind (.unknownExpression key name) := by
        refine hfound.imp_left fun hhas => ?_
        obtain ⟨_, ⟨⟩, hsome⟩ := hhas hmode
        exact hsome
      exact Logged.failsOnly_bind (h.invoke hcode _ _) fun (node, _) _ =>
        Logged.failsOnly_bind (h.toScalar node) fun _ _ => .ok _

end MappingError.CoversValues

end DocumentMapping
