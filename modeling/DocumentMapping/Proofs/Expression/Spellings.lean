import Mathlib.Data.List.Forall2
import DocumentMapping.Proofs.Expression.ScratchCache

/-!
# Spellings that mean the same

Some expressions can be written in two ways. The choice of a first value is an operator and a
function; the logical operators are conditionals; an inequality is a negated equality; a property is
an item under its name. Both ways give the same result or fault and leave the same cache. The two
functions that evaluate only some of their arguments give what they would give if all were evaluated,
as long as none of the arguments fails or stores.
-/

namespace DocumentMapping

namespace Expression

/-- Two expressions mean the same when they have the same result or fault and leave the same cache,
whatever they are given. -/
def SameMeaning (first second : Expression) : Prop :=
  ∀ inputs cache, first.evaluate inputs cache = second.evaluate inputs cache

/-- Expressions with the same evaluation mean the same. -/
theorem SameMeaning.of_eval {first second : Expression}
    (h : ∀ inputs, eval inputs first = eval inputs second) : SameMeaning first second :=
  fun inputs cache => congrFun (h inputs) cache

/-! ## Operators as calls -/

section

variable (inputs : Inputs) (a b c : Expression)

/-- Null after everything else changes nothing. -/
theorem bind_placeholder (computation : Evaluation Node) :
    (computation >>= fun node => if node.isPlaceholder then pure .placeholder else pure node) =
      computation := by
  have hsame (node : Node) :
      (if node.isPlaceholder then pure .placeholder else pure node : Evaluation Node) =
        pure node := by
    split
    · rename_i hnull
      rw [node.isPlaceholder_iff.mp hnull]
    · rfl
  simp only [hsame, bind_pure]

theorem eval_coalesce_eq_call :
    eval inputs (.binary .coalesce a b) = eval inputs (.call .coalesce [a, b]) := by
  rw [eval, eval, evalFirst, evalFirst, evalFirst, bind_placeholder]

theorem eval_coalesce_assoc :
    eval inputs (.binary .coalesce (.binary .coalesce a b) c) =
      eval inputs (.binary .coalesce a (.binary .coalesce b c)) := by
  rw [eval, eval, eval, eval, bind_assoc]
  congr 1
  funext node
  split
  · rfl
  · rename_i hpresent
    rw [pure_bind, if_neg hpresent]

/-- Two negations give the truth of a node. -/
theorem eval_not_not :
    eval inputs (.unary .not (.unary .not b)) =
      eval inputs b >>= fun node => pure (ofBool node.truthy) := by
  rw [eval, eval, bind_assoc]
  congr 1
  funext node
  have hnot : (Evaluation.ofExcept (applyUnary .not node) >>= fun negated =>
      Evaluation.ofExcept (applyUnary .not negated)) = pure (ofBool !!node.truthy) := rfl
  rw [hnot, Bool.not_not]

theorem eval_and_eq_choice :
    eval inputs (.binary .and a b) =
      eval inputs (.call .choose [a, .unary .not (.unary .not b), .literal (.boolean false)]) := by
  rw [eval, eval, evalChoice, eval_not_not, eval]
  rfl

theorem eval_or_eq_choice :
    eval inputs (.binary .or a b) =
      eval inputs (.call .choose [a, .literal (.boolean true), .unary .not (.unary .not b)]) := by
  rw [eval, eval, evalChoice, eval_not_not, eval]
  rfl

theorem eval_notEqual_eq_not :
    eval inputs (.binary .notEqual a b) = eval inputs (.unary .not (.binary .equal a b)) := by
  rw [eval_binary rfl, eval, eval_binary rfl]
  simp only [bind_assoc]
  rfl

theorem eval_member_eq_index (name : String) :
    eval inputs (.member a name) = eval inputs (.index a (.literal (.string name))) := by
  rw [eval, eval, eval]
  rfl

end

/-! ## Calls of lazy functions -/

section

variable {inputs : Inputs} {cache : Cache} {arguments : List Expression} {nodes : List Node}

/-- Arguments that are evaluated to nodes and leave the cache as it is. -/
def YieldNodes (inputs : Inputs) (cache : Cache) (arguments : List Expression)
    (nodes : List Node) : Prop :=
  List.Forall₂ (fun argument node => eval inputs argument cache = (.ok node, cache)) arguments nodes

/-- Arguments that store nothing are evaluated with the cache that the call has. -/
theorem yieldNodes_of_results (hset : .set ∉ argumentFunctions arguments)
    (hnodes : List.Forall₂ (fun argument node => (argument.evaluate inputs cache).1 = .ok node)
      arguments nodes) :
    YieldNodes inputs cache arguments nodes := by
  induction hnodes with
  | nil => exact .nil
  | @cons argument node _ _ hnode _ ih =>
    rw [argumentFunctions, List.mem_append, not_or] at hset
    have hkept : (eval inputs argument cache).2 = cache :=
      compositional_keepsCache.eval inputs argument
        (fun _ hmem heq => hset.1 (heq ▸ hmem)) cache
    exact .cons (Prod.ext hnode hkept) (ih hset.2)

/-- The first argument that is not null. -/
theorem YieldNodes.evalFirst_eq (h : YieldNodes inputs cache arguments nodes) :
    evalFirst inputs arguments cache = (.ok (coalesceCall nodes), cache) := by
  induction h with
  | nil =>
    rw [evalFirst]
    rfl
  | @cons argument node arguments nodes hnode _ ih =>
    rw [evalFirst, bind_of_eq_ok hnode]
    cases hnull : node.isPlaceholder with
    | true =>
      have hlater : coalesceCall (node :: nodes) = coalesceCall nodes := by
        simp [coalesceCall, hnull]
      rw [if_pos rfl, ih, hlater]
    | false =>
      have hfirst : coalesceCall (node :: nodes) = node := by simp [coalesceCall, hnull]
      rw [if_neg Bool.false_ne_true, hfirst]
      rfl

/-- The branch that the condition selects. -/
theorem YieldNodes.evalChoice_eq (h : YieldNodes inputs cache arguments nodes)
    (hadmits : Function.choose.arity.admits arguments.length = true) :
    evalChoice inputs arguments cache = (.ok (chooseCall nodes), cache) := by
  cases h with
  | nil => cases hadmits
  | @cons condition node _ _ hcondition hbranches =>
    cases hbranches with
    | nil => cases hadmits
    | @cons branch yes _ _ hbranch hrest =>
      cases hrest with
      | nil =>
        rw [evalChoice, bind_of_eq_ok hcondition]
        cases htruthy : node.truthy with
        | true =>
          have hchosen : chooseCall [node, yes] = yes := by simp [chooseCall, htruthy]
          rw [if_pos rfl, hbranch, hchosen]
        | false =>
          have hchosen : chooseCall [node, yes] = .placeholder := by simp [chooseCall, htruthy]
          rw [if_neg Bool.false_ne_true, hchosen]
          rfl
      | @cons otherwise no _ rest hotherwise _ =>
        rw [evalChoice, bind_of_eq_ok hcondition]
        cases htruthy : node.truthy with
        | true =>
          have hchosen : chooseCall (node :: yes :: no :: rest) = yes := by
            simp [chooseCall, htruthy]
          rw [if_pos rfl, hbranch, hchosen]
        | false =>
          have hchosen : chooseCall (node :: yes :: no :: rest) = no := by
            simp [chooseCall, htruthy]
          rw [if_neg Bool.false_ne_true, hotherwise, hchosen]

/-- A lazy function gives what it would give for its evaluated arguments. -/
theorem YieldNodes.eval_lazy (h : YieldNodes inputs cache arguments nodes) {function : Function}
    (hlazy : function.isLazy = true) (hadmits : function.arity.admits arguments.length = true) :
    eval inputs (.call function arguments) cache = function.call nodes cache := by
  cases function
  case choose =>
    rw [eval, h.evalChoice_eq hadmits]
    rfl
  case coalesce =>
    rw [eval, h.evalFirst_eq]
    rfl
  all_goals cases hlazy

end

end Expression

open Expression

/-- The choice of a first value is an operator and a function and can be grouped either way, the
logical operators are conditionals over truth values, an inequality is a negated equality, and a
property is the item under its name. A call of a lazy function with an admitted number of arguments
gives what the function gives for their values, and leaves the same cache, when every argument has a
value and none of them stores. -/
theorem spellings_mean_the_same :
    (∀ a b, SameMeaning (.binary .coalesce a b) (.call .coalesce [a, b])) ∧
    (∀ a b c, SameMeaning (.binary .coalesce (.binary .coalesce a b) c)
      (.binary .coalesce a (.binary .coalesce b c))) ∧
    (∀ a b, SameMeaning (.binary .and a b)
      (.call .choose [a, .unary .not (.unary .not b), .literal (.boolean false)])) ∧
    (∀ a b, SameMeaning (.binary .or a b)
      (.call .choose [a, .literal (.boolean true), .unary .not (.unary .not b)])) ∧
    (∀ a b, SameMeaning (.binary .notEqual a b) (.unary .not (.binary .equal a b))) ∧
    (∀ a name, SameMeaning (.member a name) (.index a (.literal (.string name)))) ∧
    ∀ (function : Function) (arguments : List Expression) (inputs : Inputs) (cache : Cache)
      (nodes : List Node), function.isLazy = true →
      function.arity.admits arguments.length = true → .set ∉ argumentFunctions arguments →
      List.Forall₂ (fun argument node => (argument.evaluate inputs cache).1 = .ok node)
        arguments nodes →
      (Expression.call function arguments).evaluate inputs cache = function.call nodes cache := by
  refine ⟨fun a b => .of_eval fun inputs => eval_coalesce_eq_call inputs a b,
    fun a b c => .of_eval fun inputs => eval_coalesce_assoc inputs a b c,
    fun a b => .of_eval fun inputs => eval_and_eq_choice inputs a b,
    fun a b => .of_eval fun inputs => eval_or_eq_choice inputs a b,
    fun a b => .of_eval fun inputs => eval_notEqual_eq_not inputs a b,
    fun a name => .of_eval fun inputs => eval_member_eq_index inputs a name, ?_⟩
  intro function arguments inputs cache nodes hlazy hadmits hset hnodes
  exact (yieldNodes_of_results hset hnodes).eval_lazy hlazy hadmits

/-- A conditional whose condition looks up a key. -/
theorem spellings_mean_the_same_of_lookup :
    let inputs : Inputs := ⟨.placeholder, .placeholder, .placeholder⟩
    let arguments : List Expression := [.call .has [.literal (.string "rate")],
      .call .get [.literal (.string "rate")], .literal (.integer 1)]
    let cache : Cache := [("rate", .scalar (.integer 3))]
    let nodes : List Node := [ofBool true, .scalar (.integer 3), .scalar (.integer 1)]
    (Expression.call .choose arguments).evaluate inputs cache = Function.choose.call nodes cache ∧
      Function.choose.call nodes cache = (.ok (.scalar (.integer 3)), cache) := by
  intro inputs arguments cache nodes
  obtain ⟨-, -, -, -, -, -, hlazy⟩ := spellings_mean_the_same
  refine ⟨hlazy .choose arguments inputs cache nodes rfl rfl (by decide) ?_, rfl⟩
  exact .cons rfl (.cons rfl (.cons rfl .nil))

end DocumentMapping
