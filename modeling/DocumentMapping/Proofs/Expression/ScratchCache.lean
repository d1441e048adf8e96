import DocumentMapping.Proofs.Expression.Composition

/-!
# What touches the scratch cache

An evaluation changes the cache by its calls of one function, and looks into it by those of two
others. An expression without such calls leaves the cache as it is, or gives the same for every cache.
The entries that an evaluation stores are listed here in the order of the calls: the cache afterwards
is the cache before with these entries merged into it.
-/

namespace DocumentMapping.Expression

/-! ## Evaluations that leave the cache alone -/

/-- A computation that leaves the cache as it is, whether it succeeds or not. -/
def KeepsCache {α : Type} (computation : Evaluation α) : Prop :=
  ∀ cache, (computation cache).2 = cache

/-- A computation whose result or fault is the same for every cache. -/
def IgnoresCache {α : Type} (computation : Evaluation α) : Prop :=
  ∃ result, ∀ cache, (computation cache).1 = result

theorem compositional_keepsCache : Compositional @KeepsCache (· ≠ .set) where
  pure _ _ := rfl
  throw _ _ := rfl
  bind {α β first next} hfirst hnext cache := by
    cases hresult : (first cache).1 with
    | error fault => rw [bind_of_error hresult, hfirst cache]
    | ok value => rw [bind_of_ok hresult, hfirst cache, hnext value cache]
  call {function} hset nodes cache := by
    have hcache : (Evaluation.call function nodes cache).2 = cacheAfter cache function nodes := rfl
    rw [hcache]
    unfold cacheAfter
    split
    · contradiction
    · rfl

theorem compositional_ignoresCache :
    Compositional @IgnoresCache fun function => function ≠ .get ∧ function ≠ .has where
  pure value := ⟨.ok value, fun _ => rfl⟩
  throw fault := ⟨.error fault, fun _ => rfl⟩
  bind {α β first next} hfirst hnext := by
    obtain ⟨result, hresult⟩ := hfirst
    cases result with
    | error fault => exact ⟨.error fault, fun cache => by rw [bind_of_error (hresult cache)]⟩
    | ok value =>
      obtain ⟨last, hlast⟩ := hnext value
      exact ⟨last, fun cache => by rw [bind_of_ok (hresult cache), hlast]⟩
  call {function} hreads nodes := by
    refine ⟨(pureCall function nodes).mapError (.function function), fun cache => ?_⟩
    have hresult : (Evaluation.call function nodes cache).1 =
        (readingCall cache function nodes).mapError (.function function) := rfl
    rw [hresult]
    unfold readingCall
    split
    · exact absurd rfl hreads.1
    · exact absurd rfl hreads.2
    · rfl

/-! ## What an evaluation stores -/

/-- The entry that a call stores. -/
def storedByCall (function : Function) (nodes : List Node) : List (String × Node) :=
  match function with
  | .set => (entryOf nodes).toOption.toList
  | _ => []

/-- What is stored behind a part of a computation that has the given outcome. -/
def storedBehind {α : Type} (outcome : Except Fault α × Cache)
    (next : α → Cache → List (String × Node)) : List (String × Node) :=
  match outcome.1 with
  | .ok value => next value outcome.2
  | .error _ => []

mutual

/-- The entries that the evaluation of an expression stores, in the order of its calls. -/
def stored (inputs : Inputs) : Expression → Cache → List (String × Node)
  | .literal _, _ => []
  | .input _, _ => []
  | .member base _, cache => stored inputs base cache
  | .index base position, cache =>
    stored inputs base cache ++
      storedBehind (eval inputs base cache) fun _ after => stored inputs position after
  | .unary _ operand, cache => stored inputs operand cache
  | .binary .and left right, cache =>
    stored inputs left cache ++ storedBehind (eval inputs left cache) fun node after =>
      if node.truthy then stored inputs right after else []
  | .binary .or left right, cache =>
    stored inputs left cache ++ storedBehind (eval inputs left cache) fun node after =>
      if node.truthy then [] else stored inputs right after
  | .binary .coalesce left right, cache =>
    stored inputs left cache ++ storedBehind (eval inputs left cache) fun node after =>
      if node.isPlaceholder then stored inputs right after else []
  | .binary _ left right, cache =>
    stored inputs left cache ++
      storedBehind (eval inputs left cache) fun _ after => stored inputs right after
  | .call .choose arguments, cache => storedByChoice inputs arguments cache
  | .call .coalesce arguments, cache => storedByFirst inputs arguments cache
  | .call function arguments, cache =>
    storedByAll inputs arguments cache ++
      storedBehind (evalAll inputs arguments cache) fun nodes _ => storedByCall function nodes

/-- What is stored by expressions that are evaluated one after the other. -/
def storedByAll (inputs : Inputs) : List Expression → Cache → List (String × Node)
  | [], _ => []
  | first :: rest, cache =>
    stored inputs first cache ++
      storedBehind (eval inputs first cache) fun _ after => storedByAll inputs rest after

/-- What is stored by expressions that are evaluated up to the first that is not null. -/
def storedByFirst (inputs : Inputs) : List Expression → Cache → List (String × Node)
  | [], _ => []
  | first :: rest, cache =>
    stored inputs first cache ++ storedBehind (eval inputs first cache) fun node after =>
      if node.isPlaceholder then storedByFirst inputs rest after else []

/-- What is stored by a condition and then by one of its two branches. -/
def storedByChoice (inputs : Inputs) : List Expression → Cache → List (String × Node)
  | [], _ => []
  | [condition], cache => stored inputs condition cache
  | [condition, branch], cache =>
    stored inputs condition cache ++ storedBehind (eval inputs condition cache) fun node after =>
      if node.truthy then stored inputs branch after else []
  | condition :: branch :: otherwise :: _, cache =>
    stored inputs condition cache ++ storedBehind (eval inputs condition cache) fun node after =>
      if node.truthy then stored inputs branch after else stored inputs otherwise after

end

/-- A computation that does nothing to the cache but store the given entries. -/
def Stores {α : Type} (computation : Evaluation α) (entries : Cache → List (String × Node)) :
    Prop :=
  ∀ cache, (computation cache).2 = cache.merge (entries cache)

namespace Stores

variable {α β : Type}

theorem pure (value : α) : Stores (pure value) fun _ => [] := fun _ => rfl

theorem throw (fault : Fault) : Stores (throw fault : Evaluation α) fun _ => [] := fun _ => rfl

theorem ofExcept (result : Except Fault Node) :
    Stores (Evaluation.ofExcept result) fun _ => [] := fun _ => rfl

theorem call (function : Function) (nodes : List Node) :
    Stores (Evaluation.call function nodes) fun _ => storedByCall function nodes := by
  intro cache
  have hcache : (Evaluation.call function nodes cache).2 = cacheAfter cache function nodes := rfl
  rw [hcache]
  cases function with
  | set =>
    rw [cacheAfter, storedByCall]
    cases entryOf nodes <;> rfl
  | _ => rfl

theorem ite {condition : Prop} [Decidable condition] {yes no : Evaluation α}
    {entries others : Cache → List (String × Node)} (hyes : Stores yes entries)
    (hno : Stores no others) :
    Stores (if condition then yes else no) fun cache =>
      if condition then entries cache else others cache := by
  split
  · exact hyes
  · exact hno

variable {first : Evaluation α} {next : α → Evaluation β}
  {entries : Cache → List (String × Node)}

theorem bind {more : α → Cache → List (String × Node)} (hfirst : Stores first entries)
    (hnext : ∀ value, Stores (next value) (more value)) :
    Stores (first >>= next) fun cache => entries cache ++ storedBehind (first cache) more := by
  intro cache
  rw [OrderedMap.merge_append, ← hfirst cache]
  unfold storedBehind
  cases hresult : (first cache).1 with
  | error fault =>
    rw [bind_of_error hresult]
    rfl
  | ok value =>
    rw [bind_of_ok hresult]
    exact hnext value _

/-- A second part that stores nothing adds nothing. -/
theorem bind_silent (hfirst : Stores first entries)
    (hnext : ∀ value, Stores (next value) fun _ => []) : Stores (first >>= next) entries := by
  intro cache
  have hnothing : storedBehind (first cache) (fun _ _ => []) = [] := by
    unfold storedBehind
    split <;> rfl
  have hstored : ((first >>= next) cache).2 =
      cache.merge (entries cache ++ storedBehind (first cache) fun _ _ => []) :=
    hfirst.bind hnext cache
  rw [hstored, hnothing, List.append_nil]

variable (inputs : Inputs)

mutual

/-- The cache after an evaluation is the cache before, with the stored entries merged into it. -/
theorem eval : ∀ expression : Expression,
    Stores (Expression.eval inputs expression) (stored inputs expression)
  | .literal value => fun cache => by
    rw [Expression.eval, stored]
    exact pure _ cache
  | .input root => fun cache => by
    rw [Expression.eval, stored]
    exact pure _ cache
  | .member base name => fun cache => by
    rw [Expression.eval, stored]
    exact (eval base).bind_silent (fun _ => pure _) cache
  | .index base position => fun cache => by
    rw [Expression.eval, stored]
    exact (eval base).bind (fun _ => (eval position).bind_silent fun _ => pure _) cache
  | .unary op operand => fun cache => by
    rw [Expression.eval, stored]
    exact (eval operand).bind_silent (fun _ => ofExcept _) cache
  | .binary op left right => fun cache => by
    have hleft := eval left
    have hright := eval right
    cases op
    case and =>
      rw [Expression.eval, stored]
      exact hleft.bind (fun _ => ite (hright.bind_silent fun _ => pure _) (pure _)) cache
    case or =>
      rw [Expression.eval, stored]
      exact hleft.bind (fun _ => ite (pure _) (hright.bind_silent fun _ => pure _)) cache
    case coalesce =>
      rw [Expression.eval, stored]
      exact hleft.bind (fun _ => ite hright (pure _)) cache
    all_goals
      rw [eval_binary rfl, stored]
      · exact hleft.bind (fun _ => hright.bind_silent fun _ => ofExcept _) cache
      all_goals exact nofun
  | .call function arguments => fun cache => by
    cases function
    case choose =>
      rw [Expression.eval, stored]
      exact evalChoice arguments cache
    case coalesce =>
      rw [Expression.eval, stored]
      exact evalFirst arguments cache
    all_goals
      rw [eval_call rfl, stored]
      · exact (evalAll arguments).bind (fun _ => call _ _) cache
      all_goals exact nofun

theorem evalAll : ∀ arguments : List Expression,
    Stores (Expression.evalAll inputs arguments) (storedByAll inputs arguments)
  | [] => fun cache => by
    rw [Expression.evalAll, storedByAll]
    exact pure _ cache
  | first :: rest => fun cache => by
    rw [Expression.evalAll, storedByAll]
    exact (eval first).bind (fun _ => (evalAll rest).bind_silent fun _ => pure _) cache

theorem evalFirst : ∀ arguments : List Expression,
    Stores (Expression.evalFirst inputs arguments) (storedByFirst inputs arguments)
  | [] => fun cache => by
    rw [Expression.evalFirst, storedByFirst]
    exact pure _ cache
  | first :: rest => fun cache => by
    rw [Expression.evalFirst, storedByFirst]
    exact (eval first).bind (fun _ => ite (evalFirst rest) (pure _)) cache

theorem evalChoice : ∀ arguments : List Expression,
    Stores (Expression.evalChoice inputs arguments) (storedByChoice inputs arguments)
  | [] => fun cache => by
    rw [Expression.evalChoice, storedByChoice]
    exact throw _ cache
  | [condition] => fun cache => by
    rw [Expression.evalChoice, storedByChoice]
    exact (eval condition).bind_silent (fun _ => throw _) cache
  | [condition, branch] => fun cache => by
    rw [Expression.evalChoice, storedByChoice]
    exact (eval condition).bind (fun _ => ite (eval branch) (pure _)) cache
  | condition :: branch :: otherwise :: _ => fun cache => by
    rw [Expression.evalChoice, storedByChoice]
    exact (eval condition).bind (fun _ => ite (eval branch) (eval otherwise)) cache

end

end Stores

end DocumentMapping.Expression

namespace DocumentMapping

open Expression

/-- Only stores change the scratch cache, and only calls that store, look up or ask for a key have to
do with it. An expression that stores nothing leaves the cache as it is, whether it succeeds or not.
One that neither looks up a key nor asks for one has the same result or fault with every cache. And
in any case each key holds what was stored last under it, or else what it held before; all keys stay
where they are, and new ones follow in the order of their first stores. -/
theorem only_stores_change_cache (inputs : Inputs) (expression : Expression) :
    (.set ∉ expression.functions → ∀ cache, (expression.evaluate inputs cache).2 = cache) ∧
    (.get ∉ expression.functions → .has ∉ expression.functions →
      ∀ cache other,
        (expression.evaluate inputs cache).1 = (expression.evaluate inputs other).1) ∧
    ∀ cache,
      let entries := stored inputs expression cache
      let after := (expression.evaluate inputs cache).2
      (∀ key, after.get? key = (OrderedMap.last? entries key).or (cache.get? key)) ∧
      after.keys =
        cache.keys ++ ((OrderedMap.keys entries).filter (· ∉ cache.keys)).eraseDups := by
  refine ⟨fun hset => ?_, fun hget hhas => ?_, fun cache => ?_⟩
  · exact compositional_keepsCache.eval inputs expression fun _ hmem heq => hset (heq ▸ hmem)
  · obtain ⟨result, hresult⟩ := compositional_ignoresCache.eval inputs expression
      fun _ hmem => ⟨fun heq => hget (heq ▸ hmem), fun heq => hhas (heq ▸ hmem)⟩
    exact fun cache other => (hresult cache).trans (hresult other).symm
  · intro entries after
    have hafter : after = cache.merge entries := Stores.eval inputs expression cache
    rw [hafter]
    exact ⟨fun key => OrderedMap.get?_merge cache entries key,
      OrderedMap.keys_merge cache entries⟩

/-- A call that stores a number. -/
def storingCall (key : String) (number : Int64) : Expression :=
  .call .set [.literal (.string key), .literal (.integer number)]

/-- Of three stores under two keys the first one makes a new key, and a sum without calls leaves the
cache alone. -/
theorem only_stores_change_cache_of_texts :
    let inputs : Inputs := ⟨.placeholder, .placeholder, .scalar (.integer 2)⟩
    let texts := Expression.call .concat [storingCall "b" 1, storingCall "a" 2, storingCall "b" 3]
    let sum := Expression.binary .add (.input .value) (.literal (.integer 1))
    let cache : Cache := [("a", .placeholder)]
    OrderedMap.keys (texts.evaluate inputs cache).2 = ["a", "b"] ∧
    .set ∉ sum.functions ∧ (sum.evaluate inputs cache).2 = cache := by
  intro inputs texts sum cache
  have hentries : OrderedMap.keys (stored inputs texts cache) = ["b", "a", "b"] := rfl
  have hkeys := ((only_stores_change_cache inputs texts).2.2 cache).2
  rw [hentries] at hkeys
  have hset : .set ∉ sum.functions := by decide
  exact ⟨hkeys, hset, (only_stores_change_cache inputs sum).1 hset cache⟩

end DocumentMapping
