import DocumentMapping.Proofs.Expression.Composition
import DocumentMapping.Proofs.Expression.Properness
import DocumentMapping.Proofs.Sequencing

/-!
# Evaluation finds its arguments

Some functions take an argument without asking whether it is there. A call in a proper expression
has as many arguments as its function admits, and each argument is evaluated to one node, so none of
them is ever missing: the evaluation ends in a node, or in a fault of another kind.
-/

namespace DocumentMapping.Expression

/-- A problem that is not a missing argument. -/
def FunctionProblem.IsOrdinary (problem : FunctionProblem) : Prop :=
  ∀ place, problem ≠ .missingArgument place

/-- A fault that is not a missing argument. -/
def Fault.IsOrdinary (fault : Fault) : Prop :=
  ∀ function place, fault ≠ .function function (.missingArgument place)

/-! ## Calls -/

/-- A result of a function, or a problem that is not a missing argument. -/
abbrev FindsArguments {α : Type} (result : Except FunctionProblem α) : Prop :=
  Except.FailsOnly FunctionProblem.IsOrdinary result

section

variable (arguments : List Node) (place : Nat)

theorem scalarAt_findsArguments : FindsArguments (scalarAt arguments place) := by
  unfold scalarAt
  split
  · exact .ok _
  · exact .ok _
  · exact .error nofun

theorem textAt_findsArguments : FindsArguments (textAt arguments place) :=
  (scalarAt_findsArguments arguments place).map _

theorem integerOf_findsArguments (value : Scalar) : FindsArguments (integerOf place value) := by
  unfold integerOf
  split
  · exact .ok _
  · exact .ok _
  · split
    · split
      · exact .ok _
      · exact .error nofun
    · exact .error nofun
  · exact .error nofun

theorem integerAt_findsArguments : FindsArguments (integerAt arguments place) :=
  (scalarAt_findsArguments arguments place).bind fun value _ => integerOf_findsArguments place value

theorem numberOf_findsArguments (value : Scalar) : FindsArguments (numberOf place value) := by
  unfold numberOf
  split
  · exact .ok _
  · split
    · exact .ok _
    · exact .error nofun

theorem numberAt_findsArguments : FindsArguments (numberAt arguments place) :=
  (scalarAt_findsArguments arguments place).bind fun value _ => numberOf_findsArguments place value

theorem needed_findsArguments (h : place < arguments.length) :
    FindsArguments (needed arguments place) := by
  rw [needed, List.getElem?_eq_getElem h]
  exact .ok _

end

section

variable (arguments : List Node)

theorem substringCall_findsArguments : FindsArguments (substringCall arguments) := by
  refine (textAt_findsArguments arguments 0).bind fun text _ => ?_
  cases text with
  | none => exact .ok _
  | some text =>
    exact (integerAt_findsArguments arguments 1).bind fun _ _ =>
      (integerAt_findsArguments arguments 2).bind fun _ _ => .ok _

theorem replaceCall_findsArguments : FindsArguments (replaceCall arguments) := by
  refine (textAt_findsArguments arguments 0).bind fun text _ => ?_
  cases text with
  | none => exact .ok _
  | some text =>
    exact (textAt_findsArguments arguments 1).bind fun _ _ =>
      (textAt_findsArguments arguments 2).bind fun _ _ => .ok _

theorem testCall_findsArguments (test : List Char → List Char → Bool) :
    FindsArguments (testCall test arguments) := by
  refine (textAt_findsArguments arguments 0).bind fun text _ =>
    (textAt_findsArguments arguments 1).bind fun pattern _ => ?_
  cases text <;> cases pattern <;> exact .ok _

theorem textCall_findsArguments (change : String → String) :
    FindsArguments (textCall change arguments) :=
  (textAt_findsArguments arguments 0).map _

theorem joinCall_findsArguments (h : 0 < arguments.length) :
    FindsArguments (joinCall arguments) :=
  (textAt_findsArguments arguments 1).bind fun _ _ =>
    (needed_findsArguments arguments 0 h).bind fun _ _ => .ok _

theorem formatCall_findsArguments : FindsArguments (formatCall arguments) := by
  refine (textAt_findsArguments arguments 0).bind fun template _ =>
    (scalarAt_findsArguments arguments 1).bind fun value _ => ?_
  split
  · exact .ok _
  · exact .error nofun

theorem roundCall_findsArguments : FindsArguments (roundCall arguments) := by
  refine (numberAt_findsArguments arguments 0).bind fun number _ => ?_
  cases number with
  | none => exact .ok _
  | some number =>
    refine (integerAt_findsArguments arguments 1).bind fun digits _ => ?_
    dsimp only
    split
    · exact .ok _
    · exact .error nofun

theorem numericCall_findsArguments (change : Numeric → Numeric) :
    FindsArguments (numericCall change arguments) :=
  (numberAt_findsArguments arguments 0).map _

theorem toNumber_findsArguments (value : Scalar) : FindsArguments (toNumber value) := by
  unfold toNumber
  split
  · exact .ok _
  · exact .ok _
  · split
    · exact .ok _
    · exact .error nofun
  · split
    · exact .ok _
    · exact .error nofun

theorem toInteger_findsArguments (number : Numeric) : FindsArguments (toInteger number) := by
  unfold toInteger
  split
  · exact .ok _
  · split
    · exact .ok _
    · exact .error nofun

theorem numberCall_findsArguments : FindsArguments (numberCall arguments) := by
  refine ((scalarAt_findsArguments arguments 0).bind fun value _ =>
    toNumber_findsArguments value).bind fun number _ => ?_
  cases number <;> exact .ok _

theorem integerCall_findsArguments : FindsArguments (integerCall arguments) := by
  refine (scalarAt_findsArguments arguments 0).bind fun value _ =>
    Except.FailsOnly.bind ?_ fun number _ => ?_
  · refine (toNumber_findsArguments value).changeError fun problem hproblem => ?_
    unfold FunctionProblem.forInteger
    split
    · nofun
    · nofun
    · exact hproblem
  · cases number with
    | none => exact .ok _
    | some number => exact toInteger_findsArguments number

theorem addTo_findsArguments (total : Numeric) (node : Node) :
    FindsArguments (addTo total node) := by
  unfold addTo
  split
  · exact .ok _
  · split
    · exact .error nofun
    · split
      · exact .ok _
      · exact .error nofun
  · exact .error nofun

theorem sumOf_findsArguments (nodes : List Node) : FindsArguments (sumOf nodes) :=
  .foldlM addTo_findsArguments _ nodes

theorem entryOf_findsArguments : FindsArguments (entryOf arguments) := by
  refine (textAt_findsArguments arguments 0).bind fun key _ => ?_
  cases key with
  | none => exact .error nofun
  | some key => exact .ok _

theorem getCall_findsArguments (cache : Cache) : FindsArguments (getCall cache arguments) :=
  (textAt_findsArguments arguments 0).bind fun _ _ => .ok _

theorem hasCall_findsArguments (cache : Cache) : FindsArguments (hasCall cache arguments) :=
  (textAt_findsArguments arguments 0).bind fun _ _ => .ok _

theorem Arity.least_le_of_admits {arity : Arity} {count : Nat} (h : arity.admits count = true) :
    arity.least ≤ count := by
  rw [admits, Bool.and_eq_true] at h
  exact of_decide_eq_true h.1

/-- A function that is called with as many arguments as it admits finds them. -/
theorem pureCall_findsArguments {function : Function}
    (h : function.arity.admits arguments.length = true) :
    FindsArguments (pureCall function arguments) := by
  have hlength := Arity.least_le_of_admits h
  have hneeded (hleast : 0 < function.arity.least) : FindsArguments (needed arguments 0) :=
    needed_findsArguments arguments 0 (Nat.lt_of_lt_of_le hleast hlength)
  cases function with
  | choose => exact .ok _
  | coalesce => exact .ok _
  | concat => exact .ok _
  | upper => exact textCall_findsArguments arguments _
  | lower => exact textCall_findsArguments arguments _
  | trim => exact textCall_findsArguments arguments _
  | length => exact (hneeded (by decide)).map _
  | substring => exact substringCall_findsArguments arguments
  | replace => exact replaceCall_findsArguments arguments
  | contains => exact testCall_findsArguments arguments _
  | startsWith => exact testCall_findsArguments arguments _
  | endsWith => exact testCall_findsArguments arguments _
  | round => exact roundCall_findsArguments arguments
  | abs => exact numericCall_findsArguments arguments _
  | floor => exact numericCall_findsArguments arguments _
  | ceiling => exact numericCall_findsArguments arguments _
  | number => exact numberCall_findsArguments arguments
  | integer => exact integerCall_findsArguments arguments
  | string => exact (hneeded (by decide)).map _
  | count => exact (hneeded (by decide)).map _
  | sum =>
    exact ((hneeded (by decide)).bind fun node _ => sumOf_findsArguments node.listed).map _
  | first => exact (hneeded (by decide)).map _
  | last => exact (hneeded (by decide)).map _
  | join => exact joinCall_findsArguments arguments hlength
  | format => exact formatCall_findsArguments arguments
  | get => exact getCall_findsArguments arguments []
  | set => exact (entryOf_findsArguments arguments).map _
  | has => exact hasCall_findsArguments arguments []

theorem readingCall_findsArguments (cache : Cache) {function : Function}
    (h : function.arity.admits arguments.length = true) :
    FindsArguments (readingCall cache function arguments) := by
  unfold readingCall
  split
  · exact getCall_findsArguments arguments cache
  · exact hasCall_findsArguments arguments cache
  · exact pureCall_findsArguments arguments h

end

/-! ## Evaluations -/

/-- Whatever the cache, a computation ends with a result or with a fault that is not a missing
argument. -/
def Safe {α : Type} (computation : Evaluation α) : Prop :=
  ∀ cache, Except.FailsOnly Fault.IsOrdinary (computation cache).1

namespace Safe

variable {α β : Type}

theorem pure (value : α) : Safe (pure value : Evaluation α) :=
  fun _ => .ok value

theorem throw {fault : Fault} (h : fault.IsOrdinary) : Safe (throw fault : Evaluation α) :=
  fun _ => .error h

/-- A computation in sequence is safe when its second part is for the results of the first. -/
theorem bind {first : Evaluation α} {next : α → Evaluation β} (hfirst : Safe first)
    (hnext : ∀ value cache, (first cache).1 = .ok value → Safe (next value)) :
    Safe (first >>= next) := by
  intro cache
  cases hresult : (first cache).1 with
  | error fault =>
    rw [bind_of_error hresult]
    exact .error (hfirst cache fault hresult)
  | ok value =>
    rw [bind_of_ok hresult]
    exact hnext value cache hresult _

theorem ite {condition : Prop} [Decidable condition] {yes no : Evaluation α} (hyes : Safe yes)
    (hno : Safe no) : Safe (if condition then yes else no) := by
  split
  · exact hyes
  · exact hno

theorem ofExcept {result : Except Fault Node} (h : Except.FailsOnly Fault.IsOrdinary result) :
    Safe (Evaluation.ofExcept result) :=
  fun _ => h

theorem call {function : Function} {nodes : List Node}
    (h : function.arity.admits nodes.length = true) : Safe (Evaluation.call function nodes) :=
  fun cache => (readingCall_findsArguments nodes cache h).changeError fun problem hproblem =>
    fun _ place heq => by
      cases heq
      exact hproblem place rfl

end Safe

theorem applyUnary_ordinary (op : UnaryOperator) (operand : Node) :
    Except.FailsOnly Fault.IsOrdinary (applyUnary op operand) := by
  unfold applyUnary
  split
  · exact .ok _
  · split
    · exact .ok _
    · exact .ok _
    · exact .ok _
    · exact .error nofun

theorem applyNumeric_ordinary (op : BinaryOperator) (x y : Numeric) :
    Except.FailsOnly Fault.IsOrdinary (applyNumeric op x y) := by
  unfold applyNumeric
  split
  · exact .error nofun
  · split
    · exact .ok _
    · exact .error nofun

theorem applyArithmetic_ordinary (op : BinaryOperator) (left right : Node) :
    Except.FailsOnly Fault.IsOrdinary (applyArithmetic op left right) := by
  unfold applyArithmetic
  split
  · split
    · exact .ok _
    · split
      · exact .ok _
      · split
        · exact applyNumeric_ordinary _ _ _
        · exact .error nofun
  · exact .error nofun

theorem applyBinary_ordinary (op : BinaryOperator) (left right : Node) :
    Except.FailsOnly Fault.IsOrdinary (applyBinary op left right) := by
  unfold applyBinary
  split
  · exact .ok _
  · exact .ok _
  · exact .ok _
  · exact .ok _
  · exact .ok _
  · exact .ok _
  · exact applyArithmetic_ordinary _ _ _

section

variable (inputs : Inputs)

/-- Arguments are evaluated to as many nodes. -/
theorem length_of_evalAll {arguments : List Expression} {nodes : List Node} {cache : Cache}
    (h : (evalAll inputs arguments cache).1 = .ok nodes) : nodes.length = arguments.length := by
  induction arguments generalizing nodes cache with
  | nil =>
    rw [evalAll] at h
    cases h
    rfl
  | cons first rest ih =>
    rw [evalAll] at h
    obtain ⟨node, -, h⟩ := exists_of_bind_eq_ok h
    obtain ⟨more, hmore, h⟩ := exists_of_bind_eq_ok h
    cases h
    rw [List.length_cons, List.length_cons, ih hmore]

theorem Safe.evalAll {arguments : List Expression}
    (h : ∀ argument ∈ arguments, Safe (eval inputs argument)) :
    Safe (evalAll inputs arguments) := by
  induction arguments with
  | nil =>
    rw [Expression.evalAll]
    exact .pure _
  | cons first rest ih =>
    obtain ⟨hfirst, hrest⟩ := List.forall_mem_cons.mp h
    rw [Expression.evalAll]
    exact hfirst.bind fun _ _ _ => (ih hrest).bind fun _ _ _ => .pure _

theorem Safe.evalFirst {arguments : List Expression}
    (h : ∀ argument ∈ arguments, Safe (eval inputs argument)) :
    Safe (evalFirst inputs arguments) := by
  induction arguments with
  | nil =>
    rw [Expression.evalFirst]
    exact .pure _
  | cons first rest ih =>
    obtain ⟨hfirst, hrest⟩ := List.forall_mem_cons.mp h
    rw [Expression.evalFirst]
    exact hfirst.bind fun _ _ _ => .ite (ih hrest) (.pure _)

theorem Safe.evalChoice {arguments : List Expression}
    (hcount : Function.choose.arity.admits arguments.length = true)
    (h : ∀ argument ∈ arguments, Safe (eval inputs argument)) :
    Safe (evalChoice inputs arguments) := by
  match arguments, hcount, h with
  | [], hcount, _ => cases hcount
  | [_], hcount, _ => cases hcount
  | [condition, branch], _, h =>
    rw [Expression.evalChoice]
    exact (h condition (by simp)).bind fun _ _ _ => .ite (h branch (by simp)) (.pure _)
  | condition :: branch :: otherwise :: rest, _, h =>
    rw [Expression.evalChoice]
    exact (h condition (by simp)).bind fun _ _ _ =>
      .ite (h branch (by simp)) (h otherwise (by simp))

/-- A proper expression never misses an argument. -/
theorem Proper.safe {expression : Expression} (h : Proper expression) :
    Safe (eval inputs expression) := by
  induction h with
  | literal =>
    rw [eval]
    exact .pure _
  | input =>
    rw [eval]
    exact .pure _
  | member _ _ ih =>
    rw [eval]
    exact ih.bind fun _ _ _ => .pure _
  | index _ _ ihbase ihposition =>
    rw [eval]
    exact ihbase.bind fun _ _ _ => ihposition.bind fun _ _ _ => .pure _
  | negate _ _ ih =>
    rw [eval]
    exact ih.bind fun _ _ _ => .ofExcept (applyUnary_ordinary _ _)
  | not _ ih =>
    rw [eval]
    exact ih.bind fun _ _ _ => .ofExcept (applyUnary_ordinary _ _)
  | @binary left right op _ _ ihleft ihright =>
    cases op
    case and =>
      rw [eval]
      exact ihleft.bind fun _ _ _ => .ite (ihright.bind fun _ _ _ => .pure _) (.pure _)
    case or =>
      rw [eval]
      exact ihleft.bind fun _ _ _ => .ite (.pure _) (ihright.bind fun _ _ _ => .pure _)
    case coalesce =>
      rw [eval]
      exact ihleft.bind fun _ _ _ => .ite ihright (.pure _)
    all_goals
      rw [eval_binary rfl]
      exact ihleft.bind fun _ _ _ => ihright.bind fun _ _ _ =>
        .ofExcept (applyBinary_ordinary _ _ _)
  | @call function arguments hcount _ ih =>
    cases function
    case choose =>
      rw [eval]
      exact .evalChoice inputs hcount ih
    case coalesce =>
      rw [eval]
      exact .evalFirst inputs ih
    all_goals
      rw [eval_call rfl]
      refine (Safe.evalAll inputs ih).bind fun nodes cache hnodes => .call ?_
      rwa [length_of_evalAll inputs hnodes]

end

/-! ## Expressions that have been read -/

/-- In an expression that has been read, every call has as many arguments as its function admits and
every integer literal can be negated, as could every one that the reader has put a minus in front
of. So an evaluation ends in a node, or in a fault that is not a missing argument. -/
theorem read_expressions_find_arguments {source : String} {expression : Expression}
    (h : read source = .ok expression) :
    (∀ function arguments, .call function arguments ∈ expression.parts →
      function.arity.admits arguments.length = true) ∧
    (∀ value, .literal (.integer value) ∈ expression.parts →
      -(2 ^ 63 - 1) ≤ value.toInt ∧ value.toInt ≤ 2 ^ 63 - 1) ∧
    (∀ lexemes, tokens source.toList = .ok lexemes → ∀ suffix, suffix <:+ lexemes →
      ∀ fuel level value rest,
        Expression.expression fuel level suffix = .ok (.literal (.integer value), rest) →
        (-value).toInt = -value.toInt) ∧
    ∀ inputs cache, (∃ node, (expression.evaluate inputs cache).1 = .ok node) ∨
      ∃ fault, (expression.evaluate inputs cache).1 = .error fault ∧ fault.IsOrdinary := by
  have hproper := proper_of_read h
  have hparts := hproper.of_mem_parts
  refine ⟨fun function arguments hmem => ?_, fun value hmem => (hparts _ hmem).toInt_bounds,
    fun lexemes htokens suffix hsuffix fuel level value rest hread => ?_, fun inputs cache => ?_⟩
  · cases hparts _ hmem with
    | call hcount => exact hcount
  · have hlexemes : AllProper lexemes := (tokensFrom_eq_ok_iff.mp htokens).allProper
    have hbehind : AllProper suffix := fun lexeme hmem => hlexemes lexeme (hsuffix.mem hmem)
    exact ((readersProper fuel).expression level hbehind _ _ hread).1.toInt_neg
  · have hsafe := hproper.safe inputs cache
    cases hresult : (expression.evaluate inputs cache).1 with
    | ok node => exact .inl ⟨node, rfl⟩
    | error fault => exact .inr ⟨fault, rfl, hsafe fault hresult⟩

theorem negated_sum_finds_arguments :
    ∃ expression, read "sum(-5)" = .ok expression ∧
      (.call .sum [.literal (.integer (-5))] ∈ expression.parts) ∧
      ∀ inputs cache, (∃ node, (expression.evaluate inputs cache).1 = .ok node) ∨
        ∃ fault, (expression.evaluate inputs cache).1 = .error fault ∧ fault.IsOrdinary := by
  have hword : isWord "sum".toList = true := isWord_of_letters (by decide)
  have hnumber : TakesNumber ['5'] [] [')'] :=
    ⟨by decide, forall_mem_of_all (by decide), .inl rfl, halts_cons.mpr rfl, nofun⟩
  have hlexed : Lexed 0 "sum(-5)".toList _ :=
    .token (reads_word hword (halts_cons.mpr (not_continuesIdentifier_of_mem (by decide))))
      (.token (reads_leftParen _) (.token (reads_minus _)
        (.token (.number hnumber) (.token (reads_rightParen _) (.nil _)))))
  have hread : read "sum(-5)" = .ok (.call .sum [.literal (.integer (-5))]) := by
    rw [read, tokens, tokensFrom_eq_ok_iff.mpr hlexed]
    rfl
  exact ⟨_, hread, List.mem_cons_self, (read_expressions_find_arguments hread).2.2.2⟩

end DocumentMapping.Expression
