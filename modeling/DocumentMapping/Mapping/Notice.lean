import DocumentMapping.Mapping.Error

/-!
# Notices

A mapping reports what it does by notices of four levels. They accompany its result and never
influence it: `Logged.result` passes through all operations unchanged.
-/

namespace DocumentMapping

/-- How important a notice is. -/
inductive NoticeLevel where
  | warn
  | info
  | debug
  | trace
deriving DecidableEq, Repr

/-- A report of what a mapping does. -/
structure Notice where
  level : NoticeLevel
  message : String
deriving DecidableEq, Repr

/-- A result, or the error that ended its computation, and the notices up to there in order. -/
structure Logged (α : Type) where
  result : Except MappingError α
  notices : List Notice

namespace Logged

variable {α β : Type}

/-- A result without notices. -/
def ofExcept (result : Except MappingError α) : Logged α := ⟨result, []⟩

/-- An error. -/
def fail (error : MappingError) : Logged α := ⟨.error error, []⟩

/-- Notices alone. -/
def notes (notices : List Notice) : Logged Unit := ⟨.ok (), notices⟩

/-- One notice. -/
def note (level : NoticeLevel) (message : String) : Logged Unit := notes [⟨level, message⟩]

/-- Goes on with a result; the notices of both parts follow each other. -/
def bind (first : Logged α) (next : α → Logged β) : Logged β :=
  match first.result with
  | .error error => ⟨.error error, first.notices⟩
  | .ok value => ⟨(next value).result, first.notices ++ (next value).notices⟩

instance : Monad Logged where
  pure value := ⟨.ok value, []⟩
  bind := bind

@[simp] theorem result_pure (value : α) : (pure value : Logged α).result = .ok value := rfl

@[simp] theorem result_ofExcept (result : Except MappingError α) :
    (ofExcept result).result = result := rfl

@[simp] theorem result_fail (error : MappingError) :
    (fail error : Logged α).result = .error error := rfl

@[simp] theorem result_note (level : NoticeLevel) (message : String) :
    (note level message).result = .ok () := rfl

@[simp] theorem result_notes (notices : List Notice) : (notes notices).result = .ok () := rfl

/-- The result of a sequence is the sequence of the results. -/
@[simp] theorem result_bind (first : Logged α) (next : α → Logged β) :
    (first >>= next).result = first.result.bind fun value => (next value).result := by
  show (bind first next).result = _
  unfold bind
  cases first.result <;> rfl

end Logged

end DocumentMapping
