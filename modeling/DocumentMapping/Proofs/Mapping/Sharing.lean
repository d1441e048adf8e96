import Mathlib.Data.Finset.Card
import DocumentMapping.Proofs.Mapping.Compilation
import DocumentMapping.Proofs.Mapping.Runs

/-!
# Shared modules

Mappings that follow each other may share what they have compiled. Sharing cannot be observed as
long as equal keys stand for equal expressions: by induction over the mappings, the shared modules
are always the ones that the mappings so far would have compiled alone, each of them once. The
results depend on a module's expressions and its key only, not on when it was compiled.
-/

namespace DocumentMapping

/-! ## Mappings one after the other -/

/-- What a mapping is given. -/
structure MappingRun where
  settings : EngineSettings
  source : Node
  rules : List Rule
  lookups : Lookups
  options : MappingOptions

namespace MappingRun

/-- The key of the mapping's expressions. -/
def key (run : MappingRun) : String :=
  moduleKey run.rules run.options

/-- The mapping's expressions by their names. -/
def sources (run : MappingRun) : OrderedMap String :=
  expressionSources run.rules run.options

/-- The plans of the mapping's rules. -/
def plans (run : MappingRun) : Except MappingError (List RulePlan) :=
  (planRules run.lookups run.options run.settings run.rules).result

/-- The target or the error of the mapping with some modules, and the modules afterwards. -/
def mapWith (run : MappingRun) (modules : ModuleCache Expression) :
    Except MappingError Node × ModuleCache Expression :=
  ((mapSource run.settings modules run.source run.rules run.lookups run.options).1.result,
    (mapSource run.settings modules run.source run.rules run.lookups run.options).2)

/-- Whether the mapping can be planned and has expressions, all of which can be compiled. -/
def compiles (run : MappingRun) : Bool :=
  run.plans.isOk && !run.sources.isEmpty &&
    run.sources.all fun entry => Expression.isReadable entry.2

/-- The results of mappings that share their modules, and the modules afterwards. -/
def mapAll : List MappingRun → ModuleCache Expression →
    List (Except MappingError Node) × ModuleCache Expression
  | [], modules => ([], modules)
  | run :: rest, modules =>
    ((run.mapWith modules).1 :: (mapAll rest (run.mapWith modules).2).1,
      (mapAll rest (run.mapWith modules).2).2)

/-- The keys of the mappings that compile their expressions. -/
def compiledKeys (runs : List MappingRun) : Finset String :=
  ((runs.filter compiles).map key).toFinset

/-- Equal keys stand for equal expressions. -/
def KeysIdentify (runs : List MappingRun) : Prop :=
  ∀ run ∈ runs, ∀ other ∈ runs, run.key = other.key → run.sources = other.sources

end MappingRun

/-! ## What does not depend on sharing -/

/-- A mapping does not depend on when its module was compiled. -/
theorem runPasses_serial (rules : List Rule) (options : MappingOptions) (plans : List RulePlan)
    (source : Node) (settings : EngineSettings) (key : String)
    (expressions : OrderedMap Expression) (first second : Nat) :
    runPasses rules options plans ⟨source, some ⟨key, expressions, first⟩, settings⟩ =
      runPasses rules options plans ⟨source, some ⟨key, expressions, second⟩, settings⟩ :=
  -- the number of a module is read nowhere, so both sides unfold to the same computation
  rfl

namespace MappingRun

variable {run : MappingRun} {modules : ModuleCache Expression}

/-- A mapping that cannot be planned leaves the modules as they are. -/
theorem mapWith_of_plans_error {error : MappingError} (h : run.plans = .error error)
    (modules : ModuleCache Expression) : run.mapWith modules = (.error error, modules) := by
  unfold plans at h
  simp only [mapWith, mapSource, h]

/-- A mapping that can be planned compiles its expressions and goes on with them. -/
theorem mapWith_of_plans_ok {plans : List RulePlan} (h : run.plans = .ok plans)
    (modules : ModuleCache Expression) :
    run.mapWith modules =
      ((compileRules modules run.rules run.options).1.bind fun module =>
        (runPasses run.rules run.options plans ⟨run.source, module, run.settings⟩).result,
      (compileRules modules run.rules run.options).2) := by
  unfold MappingRun.plans at h
  simp only [mapWith, mapSource, h, Logged.result_bind, Logged.result_ofExcept]
  rfl

/-- Without expressions nothing is compiled. -/
theorem compileRules_of_isEmpty (h : run.sources.isEmpty = true)
    (modules : ModuleCache Expression) :
    compileRules modules run.rules run.options = (.ok none, modules) :=
  if_pos h

theorem compileRules_of_not_isEmpty (h : run.sources.isEmpty = false)
    (modules : ModuleCache Expression) :
    compileRules modules run.rules run.options =
      ((modules.getOrCompile Expression.compile run.key run.sources).1.map some,
        (modules.getOrCompile Expression.compile run.key run.sources).2) := by
  unfold sources at h
  rw [compileRules, h, if_neg Bool.false_ne_true]
  rfl

/-- What a mapping compiles when it is planned and has expressions. -/
theorem compiles_of_plans_ok {plans : List RulePlan} (hplans : run.plans = .ok plans)
    (h : run.sources.isEmpty = false) :
    run.compiles = run.sources.all fun entry => Expression.isReadable entry.2 := by
  rw [compiles, hplans, h]
  rfl

theorem compiledKeys_append_singleton (runs : List MappingRun) (run : MappingRun) :
    compiledKeys (runs ++ [run]) =
      if run.compiles then insert run.key (compiledKeys runs) else compiledKeys runs := by
  unfold compiledKeys
  cases hcompiles : run.compiles with
  | true => simp [hcompiles]
  | false => simp [hcompiles]

/-! ## What shared modules hold -/

/-- The modules that some mappings have left: one for each key under which some mapping compiles,
with the expressions of the mappings that have this key. -/
structure Reflects (runs : List MappingRun) (modules : ModuleCache Expression) : Prop where
  nodup : modules.modules.keys.Nodup
  keys : modules.modules.keys.toFinset = compiledKeys runs
  count : modules.compilations = modules.size
  compiled : ∀ key module, modules.get? key = some module →
    module.key = key ∧ ∃ run ∈ runs, run.key = key ∧
      ModuleCache.compileAll Expression.compile key run.sources = .ok module.expressions

theorem reflects_empty : Reflects [] .empty where
  nodup := List.nodup_nil
  keys := rfl
  count := rfl
  compiled := by
    intro key module h
    cases h

variable {runs : List MappingRun}

/-- The number of modules is that of the compiled keys. -/
theorem Reflects.size_eq (h : Reflects runs modules) : modules.size = (compiledKeys runs).card := by
  rw [← h.keys, List.toFinset_card_of_nodup h.nodup, OrderedMap.keys, List.length_map,
    ModuleCache.size]

/-- A mapping gets its own expressions from the shared modules: those that would be compiled. -/
theorem Reflects.getOrCompile_eq (h : Reflects runs modules)
    (hsame : ∀ other ∈ runs, other.key = run.key → other.sources = run.sources) :
    ∃ serial, (modules.getOrCompile Expression.compile run.key run.sources).1 =
      (ModuleCache.compileAll Expression.compile run.key run.sources).map
        (⟨run.key, ·, serial⟩) := by
  unfold ModuleCache.getOrCompile
  cases hget : modules.get? run.key with
  | some module =>
    obtain ⟨hkey, other, hmem, hother, hcompiled⟩ := h.compiled _ _ hget
    rw [hsame other hmem hother] at hcompiled
    obtain ⟨key, expressions, serial⟩ := module
    obtain rfl : key = run.key := hkey
    exact ⟨serial, by rw [hcompiled]; rfl⟩
  | none =>
    refine ⟨modules.compilations, ?_⟩
    cases ModuleCache.compileAll Expression.compile run.key run.sources with
    | error error => rfl
    | ok expressions => rfl

/-- A mapping gives with the shared modules what it gives alone. -/
theorem Reflects.mapWith_eq (h : Reflects runs modules)
    (hsame : ∀ other ∈ runs, other.key = run.key → other.sources = run.sources) :
    (run.mapWith modules).1 = (run.mapWith .empty).1 := by
  cases hplans : run.plans with
  | error error => rw [mapWith_of_plans_error hplans, mapWith_of_plans_error hplans]
  | ok plans =>
    rw [mapWith_of_plans_ok hplans, mapWith_of_plans_ok hplans]
    cases hempty : run.sources.isEmpty with
    | true => rw [compileRules_of_isEmpty hempty, compileRules_of_isEmpty hempty]
    | false =>
      obtain ⟨shared, hshared⟩ := h.getOrCompile_eq hsame
      obtain ⟨alone, halone⟩ := @Reflects.getOrCompile_eq run _ _ reflects_empty (by simp)
      rw [compileRules_of_not_isEmpty hempty, compileRules_of_not_isEmpty hempty, hshared, halone]
      cases ModuleCache.compileAll Expression.compile run.key run.sources with
      | error error => rfl
      | ok expressions =>
        exact congrArg Logged.result (runPasses_serial ..)

/-- A mapping that does not compile, or whose key is known, adds nothing to what is held. -/
theorem Reflects.append (h : Reflects runs modules)
    (hkeys : compiledKeys (runs ++ [run]) = compiledKeys runs) :
    Reflects (runs ++ [run]) modules where
  nodup := h.nodup
  keys := h.keys.trans hkeys.symm
  count := h.count
  compiled := by
    intro key module hget
    obtain ⟨hkey, other, hmem, hother⟩ := h.compiled key module hget
    exact ⟨hkey, other, List.mem_append_left _ hmem, hother⟩

/-- A newly compiled module is added to what is held. -/
theorem Reflects.add (h : Reflects runs modules) (hget : modules.get? run.key = none)
    (hkeys : compiledKeys (runs ++ [run]) = insert run.key (compiledKeys runs))
    {expressions : OrderedMap Expression}
    (hcompiled : ModuleCache.compileAll Expression.compile run.key run.sources = .ok expressions) :
    Reflects (runs ++ [run]) (modules.add ⟨run.key, expressions, modules.compilations⟩) := by
  have hnew : run.key ∉ modules.modules.keys := OrderedMap.get?_eq_none_iff.mp hget
  have hadded := OrderedMap.keys_insert modules.modules run.key
    ⟨run.key, expressions, modules.compilations⟩
  rw [if_neg hnew] at hadded
  refine ⟨OrderedMap.nodup_keys_insert h.nodup _ _, ?_, ?_, ?_⟩
  · show List.toFinset (OrderedMap.keys _) = _
    rw [ModuleCache.add, hadded, hkeys, ← h.keys]
    simp [Finset.union_comm]
  · have hlength := congrArg List.length hadded
    rw [List.length_append, OrderedMap.keys, OrderedMap.keys, List.length_map, List.length_map]
      at hlength
    show modules.compilations + 1 = List.length _
    rw [ModuleCache.add, hlength, h.count]
    rfl
  · intro key module hfound
    rw [ModuleCache.get?, ModuleCache.add, OrderedMap.get?_insert] at hfound
    split at hfound
    · rename_i hkey
      cases hfound
      exact ⟨hkey, run, by simp, hkey, hkey ▸ hcompiled⟩
    · obtain ⟨hkey, other, hmem, hother⟩ := h.compiled key module hfound
      exact ⟨hkey, other, List.mem_append_left _ hmem, hother⟩

/-- A mapping leaves the modules that the mappings so far and it would have compiled. -/
theorem Reflects.mapWith (h : Reflects runs modules) :
    Reflects (runs ++ [run]) (run.mapWith modules).2 := by
  have hidle : run.compiles = false → Reflects (runs ++ [run]) modules := by
    intro hcompiles
    refine h.append ?_
    rw [compiledKeys_append_singleton, hcompiles, if_neg Bool.false_ne_true]
  cases hplans : run.plans with
  | error error =>
    rw [mapWith_of_plans_error hplans]
    exact hidle (by rw [compiles, hplans]; rfl)
  | ok plans =>
    rw [mapWith_of_plans_ok hplans]
    cases hempty : run.sources.isEmpty with
    | true =>
      rw [compileRules_of_isEmpty hempty]
      exact hidle (by rw [compiles, hempty, Bool.not_true, Bool.and_false, Bool.false_and])
    | false =>
      have hcompiles := compiles_of_plans_ok hplans hempty
      rw [compileRules_of_not_isEmpty hempty]
      unfold ModuleCache.getOrCompile
      cases hget : modules.get? run.key with
      | some module =>
        -- the key is known, so that compiling under it adds no key
        refine h.append ?_
        have hknown : run.key ∈ compiledKeys runs := by
          rw [← h.keys, List.mem_toFinset]
          by_contra hnew
          rw [← OrderedMap.get?_eq_none_iff] at hnew
          cases hget.symm.trans hnew
        rw [compiledKeys_append_singleton, Finset.insert_eq_of_mem hknown, ite_self]
      | none =>
        cases hcompiled : ModuleCache.compileAll Expression.compile run.key run.sources with
        | error error =>
          refine hidle (hcompiles.trans (Bool.eq_false_iff.mpr fun hall => ?_))
          obtain ⟨expressions, hok⟩ := ModuleCache.exists_compileAll_iff.mpr hall
          cases hcompiled.symm.trans hok
        | ok expressions =>
          refine h.add hget ?_ hcompiled
          rw [ModuleCache.exists_compileAll_iff.mp ⟨expressions, hcompiled⟩] at hcompiles
          rw [compiledKeys_append_singleton, hcompiles, if_pos rfl]

/-- Mappings that go on with shared modules give what they give alone, and leave the modules of all
mappings. -/
theorem Reflects.mapAll (h : Reflects runs modules) {more : List MappingRun}
    (hkeys : KeysIdentify (runs ++ more)) :
    (mapAll more modules).1 = more.map (fun run => (run.mapWith .empty).1) ∧
      Reflects (runs ++ more) (mapAll more modules).2 := by
  induction more generalizing runs modules with
  | nil => exact ⟨rfl, by rwa [List.append_nil]⟩
  | cons run rest ih =>
    have hsame : ∀ other ∈ runs, other.key = run.key → other.sources = run.sources :=
      fun other hmem => hkeys other (List.mem_append_left _ hmem) run (by simp)
    rw [List.append_cons] at hkeys ⊢
    obtain ⟨hresults, hreflects⟩ := ih h.mapWith hkeys
    exact ⟨congrArg₂ List.cons (h.mapWith_eq hsame) hresults, hreflects⟩

end MappingRun

/-- Sharing modules cannot be observed: mappings that follow each other, and among which equal keys
stand for equal expressions, give each the target or the error that they give alone. Each key under
which a mapping compiles has then been compiled once and has one module. -/
theorem sharing_is_transparent {runs : List MappingRun}
    (hkeys : MappingRun.KeysIdentify runs) :
    (MappingRun.mapAll runs .empty).1 = runs.map (fun run => (run.mapWith .empty).1) ∧
      (MappingRun.mapAll runs .empty).2.compilations = (MappingRun.compiledKeys runs).card ∧
      (MappingRun.mapAll runs .empty).2.size = (MappingRun.compiledKeys runs).card := by
  obtain ⟨hresults, hreflects⟩ :=
    @MappingRun.Reflects.mapAll _ _ MappingRun.reflects_empty runs hkeys
  rw [List.nil_append] at hreflects
  exact ⟨hresults, hreflects.count.trans hreflects.size_eq, hreflects.size_eq⟩

/-- A mapping that writes the value of an expression, whose module has a given key. -/
def computingRun (key text : String) : MappingRun where
  settings := .default
  source := .placeholder
  rules := [{ Rule.empty with
    id := "r", destinationField := some "out", usesExpression := true,
    expressionText := some text }]
  lookups := ⟨[], [("out", ⟨"out", "$.out"⟩)], []⟩
  options := ⟨false, none, some key⟩

/-- A sum is computed twice, and between that an expression is refused. -/
def sumTwice : List MappingRun :=
  [computingRun "sum" "1 + 1", computingRun "broken" "1 +", computingRun "sum" "1 + 1"]

/-- The sum is compiled once, whatever comes between its two uses. -/
theorem sharing_is_transparent_for_sums :
    MappingRun.KeysIdentify sumTwice ∧
      (MappingRun.mapAll sumTwice .empty).1 = sumTwice.map (fun run => (run.mapWith .empty).1) ∧
      (MappingRun.mapAll sumTwice .empty).2.compilations = 1 ∧
      (MappingRun.mapAll sumTwice .empty).2.size = 1 := by
  have hkeys : MappingRun.KeysIdentify sumTwice := by
    intro run hrun other hother hkey
    simp only [sumTwice, List.mem_cons, List.not_mem_nil, or_false] at hrun hother
    rcases hrun with rfl | rfl | rfl <;> rcases hother with rfl | rfl | rfl <;>
      first | rfl | exact absurd hkey (by decide)
  have hsum : (computingRun "sum" "1 + 1").compiles = true := by decide +kernel
  have hbroken : (computingRun "broken" "1 +").compiles = false := by decide +kernel
  have hcard : (MappingRun.compiledKeys sumTwice).card = 1 := by
    simp only [MappingRun.compiledKeys, sumTwice, List.filter_cons, hsum, hbroken, if_true,
      Bool.false_eq_true, if_false, List.filter_nil]
    rfl
  obtain ⟨hresults, hcount, hsize⟩ := sharing_is_transparent hkeys
  exact ⟨hkeys, hresults, hcount.trans hcard, hsize.trans hcard⟩

end DocumentMapping
