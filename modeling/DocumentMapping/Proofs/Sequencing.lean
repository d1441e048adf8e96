/-!
# Results in sequence

A computation that consists of two parts succeeds when both parts do. These facts take a success
apart into the results of its parts, and carry a bound on the errors from the parts to the whole.
-/

namespace DocumentMapping

theorem Except.bind_eq_ok_iff {ε α β : Type} {first : Except ε α} {next : α → Except ε β}
    {value : β} :
    first.bind next = .ok value ↔ ∃ found, first = .ok found ∧ next found = .ok value := by
  cases first with
  | error problem => simp [Except.bind]
  | ok found => simp [Except.bind]

theorem Except.map_eq_ok_iff {ε α β : Type} {first : Except ε α} {change : α → β} {value : β} :
    first.map change = .ok value ↔ ∃ found, first = .ok found ∧ change found = value := by
  cases first with
  | error problem => simp [Except.map]
  | ok found => simp [Except.map]

/-! ## Results without their errors -/

theorem Except.toOption_eq_some_iff {ε α : Type} {result : Except ε α} {value : α} :
    result.toOption = some value ↔ result = .ok value := by
  cases result with
  | error problem => simp [Except.toOption]
  | ok found => simp [Except.toOption]

theorem Except.toOption_bind {ε α β : Type} (first : Except ε α) (next : α → Except ε β) :
    (first.bind next).toOption = first.toOption.bind fun value => (next value).toOption := by
  cases first <;> rfl

theorem Except.toOption_map {ε α β : Type} (first : Except ε α) (change : α → β) :
    (first.map change).toOption = first.toOption.map change := by
  cases first <;> rfl

/-! ## Errors in sequence -/

/-- A computation that fails does so with an error of a kind. -/
def Except.FailsOnly {ε α : Type} (kind : ε → Prop) (result : Except ε α) : Prop :=
  ∀ problem, result = .error problem → kind problem

namespace Except.FailsOnly

variable {ε δ α β : Type} {kind : ε → Prop}

theorem ok (value : α) : FailsOnly kind (.ok value : Except ε α) := nofun

theorem error {problem : ε} (h : kind problem) : FailsOnly kind (.error problem : Except ε α) := by
  rintro _ ⟨⟩
  exact h

theorem bind {first : Except ε α} {next : α → Except ε β} (hfirst : FailsOnly kind first)
    (hnext : ∀ value, first = .ok value → FailsOnly kind (next value)) :
    FailsOnly kind (first.bind next) := by
  cases first with
  | error problem => exact error (hfirst problem rfl)
  | ok value => exact hnext value rfl

theorem map {result : Except ε α} (h : FailsOnly kind result) (change : α → β) :
    FailsOnly kind (result.map change) := by
  cases result with
  | error problem => exact error (h problem rfl)
  | ok value => exact ok (change value)

/-- Errors that are wrapped up are of the kind of the wrapping. -/
theorem mapError {wrap : δ → ε} (h : ∀ problem, kind (wrap problem)) (result : Except δ α) :
    FailsOnly kind (result.mapError wrap) := by
  cases result with
  | error problem => exact error (h problem)
  | ok value => exact ok value

/-- Errors that are changed stay of a kind when the change takes the kind to it. -/
theorem changeError {inner : δ → Prop} {change : δ → ε}
    (h : ∀ problem, inner problem → kind (change problem)) {result : Except δ α}
    (hresult : FailsOnly inner result) : FailsOnly kind (result.mapError change) := by
  cases result with
  | error problem => exact error (h problem (hresult problem rfl))
  | ok value => exact ok value

theorem foldlM {step : β → α → Except ε β} (h : ∀ total value, FailsOnly kind (step total value))
    (total : β) (list : List α) : FailsOnly kind (list.foldlM step total) := by
  induction list generalizing total with
  | nil => exact ok total
  | cons value rest ih =>
    rw [List.foldlM_cons]
    exact (h total value).bind fun next _ => ih next

end Except.FailsOnly

end DocumentMapping
