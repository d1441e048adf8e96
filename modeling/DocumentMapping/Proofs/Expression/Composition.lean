import DocumentMapping.Expression.Evaluation

/-!
# How evaluations are composed

An evaluation is put together from calls of functions, one part after the other. The parts of a
computation in sequence are taken apart here, operators and functions that need all their operands
are told from the others, and a property that a computation has when its parts have it is carried
from the calls of an expression to its evaluation.
-/

namespace DocumentMapping.Expression

mutual

/-- The functions that an expression calls, at any depth. -/
def functions : Expression → List Function
  | .literal _ => []
  | .input _ => []
  | .member base _ => base.functions
  | .index base position => base.functions ++ position.functions
  | .unary _ operand => operand.functions
  | .binary _ left right => left.functions ++ right.functions
  | .call function arguments => function :: argumentFunctions arguments

/-- The functions that arguments call. -/
def argumentFunctions : List Expression → List Function
  | [] => []
  | argument :: rest => argument.functions ++ argumentFunctions rest

end

/-! ## Computations in sequence -/

section

variable {α β : Type} {first : Evaluation α} {cache : Cache}

/-- The second part of a computation goes on where the first one has succeeded. -/
theorem bind_of_ok {value : α} (h : (first cache).1 = .ok value) (next : α → Evaluation β) :
    (first >>= next) cache = next value (first cache).2 := by
  have hstep : (first >>= next) cache =
      ExceptT.bindCont next (first cache).1 (first cache).2 := rfl
  rw [hstep, h]
  rfl

theorem bind_of_eq_ok {value : α} {after : Cache} (h : first cache = (.ok value, after))
    (next : α → Evaluation β) : (first >>= next) cache = next value after := by
  rw [bind_of_ok (congrArg Prod.fst h), h]

/-- A fault of the first part of a computation is that of the whole. -/
theorem bind_of_error {fault : Fault} (h : (first cache).1 = .error fault)
    (next : α → Evaluation β) : (first >>= next) cache = (.error fault, (first cache).2) := by
  have hstep : (first >>= next) cache =
      ExceptT.bindCont next (first cache).1 (first cache).2 := rfl
  rw [hstep, h]
  rfl

/-- A computation in sequence succeeds when both parts do. -/
theorem exists_of_bind_eq_ok {next : α → Evaluation β} {result : β}
    (h : ((first >>= next) cache).1 = .ok result) :
    ∃ value, (first cache).1 = .ok value ∧ (next value (first cache).2).1 = .ok result := by
  cases hfirst : (first cache).1 with
  | error fault =>
    rw [bind_of_error hfirst] at h
    cases h
  | ok value =>
    rw [bind_of_ok hfirst] at h
    exact ⟨value, rfl, h⟩

end

/-! ## Operands that may be left out -/

/-- Whether an operator can do without its right operand. -/
def BinaryOperator.isLazy (op : BinaryOperator) : Bool :=
  op = .and || op = .or || op = .coalesce

/-- Whether a function evaluates its arguments as it needs them. -/
def Function.isLazy (function : Function) : Bool :=
  function = .choose || function = .coalesce

/-- An operator that is not lazy is applied to both operands. -/
theorem eval_binary {op : BinaryOperator} (h : op.isLazy = false) (inputs : Inputs)
    (left right : Expression) :
    eval inputs (.binary op left right) =
      eval inputs left >>= fun x => eval inputs right >>= fun y =>
        Evaluation.ofExcept (applyBinary op x y) := by
  rw [eval]
  all_goals
    rintro rfl
    cases h

/-- A function that is not lazy is called with all its arguments. -/
theorem eval_call {function : Function} (h : function.isLazy = false) (inputs : Inputs)
    (arguments : List Expression) :
    eval inputs (.call function arguments) =
      evalAll inputs arguments >>= Evaluation.call function := by
  rw [eval]
  all_goals
    rintro rfl
    cases h

/-! ## What an evaluation has in common with its calls -/

/-- A property that a computation has when its parts have it, and that calls of some functions
have. -/
structure Compositional (P : {α : Type} → Evaluation α → Prop) (allowed : Function → Prop) :
    Prop where
  pure : ∀ {α : Type} (value : α), P (pure value : Evaluation α)
  throw : ∀ {α : Type} (fault : Fault), P (throw fault : Evaluation α)
  bind : ∀ {α β : Type} {first : Evaluation α} {next : α → Evaluation β},
    P first → (∀ value, P (next value)) → P (first >>= next)
  call : ∀ {function : Function}, allowed function → ∀ nodes, P (Evaluation.call function nodes)

namespace Compositional

variable {P : {α : Type} → Evaluation α → Prop} {allowed : Function → Prop}

theorem ite {α : Type} {condition : Prop} [Decidable condition] {yes no : Evaluation α}
    (hyes : P yes) (hno : P no) : P (if condition then yes else no) := by
  split
  · exact hyes
  · exact hno

theorem ofExcept (h : Compositional @P allowed) (result : Except Fault Node) :
    P (Evaluation.ofExcept result) := by
  cases result with
  | error fault => exact h.throw fault
  | ok node => exact h.pure node

variable (h : Compositional @P allowed) (inputs : Inputs)

include h

mutual

/-- An expression that calls allowed functions only has an evaluation with the property. -/
theorem eval : ∀ expression : Expression, (∀ function ∈ expression.functions, allowed function) →
    P (Expression.eval inputs expression)
  | .literal value, _ => by
    rw [Expression.eval]
    exact h.pure _
  | .input root, _ => by
    rw [Expression.eval]
    exact h.pure _
  | .member base name, hallowed => by
    rw [Expression.eval]
    exact h.bind (eval base hallowed) fun _ => h.pure _
  | .index base position, hallowed => by
    obtain ⟨hbase, hposition⟩ := List.forall_mem_append.mp hallowed
    rw [Expression.eval]
    exact h.bind (eval base hbase) fun _ => h.bind (eval position hposition) fun _ => h.pure _
  | .unary op operand, hallowed => by
    rw [Expression.eval]
    exact h.bind (eval operand hallowed) fun _ => h.ofExcept _
  | .binary op left right, hallowed => by
    obtain ⟨hleft, hright⟩ := List.forall_mem_append.mp hallowed
    have hleft := eval left hleft
    have hright := eval right hright
    cases op
    case and =>
      rw [Expression.eval]
      exact h.bind hleft fun _ => ite (h.bind hright fun _ => h.pure _) (h.pure _)
    case or =>
      rw [Expression.eval]
      exact h.bind hleft fun _ => ite (h.pure _) (h.bind hright fun _ => h.pure _)
    case coalesce =>
      rw [Expression.eval]
      exact h.bind hleft fun _ => ite hright (h.pure _)
    all_goals
      rw [eval_binary rfl]
      exact h.bind hleft fun _ => h.bind hright fun _ => h.ofExcept _
  | .call function arguments, hallowed => by
    obtain ⟨hfunction, harguments⟩ := List.forall_mem_cons.mp hallowed
    cases function
    case choose =>
      rw [Expression.eval]
      exact evalChoice arguments harguments
    case coalesce =>
      rw [Expression.eval]
      exact evalFirst arguments harguments
    all_goals
      rw [eval_call rfl]
      exact h.bind (evalAll arguments harguments) (h.call hfunction)

theorem evalAll : ∀ arguments : List Expression,
    (∀ function ∈ argumentFunctions arguments, allowed function) →
    P (Expression.evalAll inputs arguments)
  | [], _ => by
    rw [Expression.evalAll]
    exact h.pure _
  | first :: rest, hallowed => by
    obtain ⟨hfirst, hrest⟩ := List.forall_mem_append.mp hallowed
    rw [Expression.evalAll]
    exact h.bind (eval first hfirst) fun _ => h.bind (evalAll rest hrest) fun _ => h.pure _

theorem evalFirst : ∀ arguments : List Expression,
    (∀ function ∈ argumentFunctions arguments, allowed function) →
    P (Expression.evalFirst inputs arguments)
  | [], _ => by
    rw [Expression.evalFirst]
    exact h.pure _
  | first :: rest, hallowed => by
    obtain ⟨hfirst, hrest⟩ := List.forall_mem_append.mp hallowed
    rw [Expression.evalFirst]
    exact h.bind (eval first hfirst) fun _ => ite (evalFirst rest hrest) (h.pure _)

theorem evalChoice : ∀ arguments : List Expression,
    (∀ function ∈ argumentFunctions arguments, allowed function) →
    P (Expression.evalChoice inputs arguments)
  | [], _ => by
    rw [Expression.evalChoice]
    exact h.throw _
  | [condition], hallowed => by
    obtain ⟨hcondition, -⟩ := List.forall_mem_append.mp hallowed
    rw [Expression.evalChoice]
    exact h.bind (eval condition hcondition) fun _ => h.throw _
  | [condition, branch], hallowed => by
    obtain ⟨hcondition, hallowed⟩ := List.forall_mem_append.mp hallowed
    obtain ⟨hbranch, -⟩ := List.forall_mem_append.mp hallowed
    rw [Expression.evalChoice]
    exact h.bind (eval condition hcondition) fun _ => ite (eval branch hbranch) (h.pure _)
  | condition :: branch :: otherwise :: _, hallowed => by
    obtain ⟨hcondition, hallowed⟩ := List.forall_mem_append.mp hallowed
    obtain ⟨hbranch, hallowed⟩ := List.forall_mem_append.mp hallowed
    obtain ⟨hotherwise, -⟩ := List.forall_mem_append.mp hallowed
    rw [Expression.evalChoice]
    exact h.bind (eval condition hcondition) fun _ =>
      ite (eval branch hbranch) (eval otherwise hotherwise)

end

end Compositional

end DocumentMapping.Expression
