import Mathlib.Data.Finmap
import DocumentMapping.Expression.Slots
import DocumentMapping.Proofs.Sequencing

/-!
# A cache of modules is a keyed store

A keyed store is a finite map from keys to modules with a number of compilations, and its calls are
described by rules. A table of slots answers every sequence of calls as such a store does: after
each call all its slots are filled, because a slot that a call reserves is either filled or given up
by that call.
-/

namespace DocumentMapping

variable {Code : Type} {compile : String → String → Except String Code}

/-! ## Keyed stores -/

/-- Modules by key and how many of them have been compiled. -/
structure KeyedStore (Code : Type) where
  modules : Finmap fun _ : String => CompiledModule Code
  compilations : Nat

namespace KeyedStore

/-- A store without modules. -/
def empty : KeyedStore Code := ⟨∅, 0⟩

/-- Texts have compiled to the expressions under their names, in order. -/
def Compiles (compile : String → String → Except String Code) (sources : OrderedMap String)
    (expressions : OrderedMap Code) : Prop :=
  List.Forall₂ (fun source compiled =>
    compiled.1 = source.1 ∧ compile source.1 source.2 = .ok compiled.2) sources expressions

/-- A text is refused after all texts before it have compiled. -/
def Refuses (compile : String → String → Except String Code) (sources : OrderedMap String)
    (name message : String) : Prop :=
  ∃ before source after expressions, sources = before ++ (name, source) :: after ∧
    Compiles compile before expressions ∧ compile name source = .error message

/-- How a store answers a call, and the store afterwards. -/
inductive Answers (compile : String → String → Except String Code) (store : KeyedStore Code) :
    ModuleCall → ModuleAnswer Code → KeyedStore Code → Prop where
  /-- A module that is present is returned, whatever the texts. -/
  | known {key : String} {sources : OrderedMap String} {module : CompiledModule Code}
      (hfound : store.modules.lookup key = some module) :
      Answers compile store (.getOrCompile key sources) (.module (.ok module)) store
  /-- A new module is compiled, stored and counted. -/
  | compiled {key : String} {sources : OrderedMap String} {expressions : OrderedMap Code}
      (hmissing : store.modules.lookup key = none)
      (hcompiles : Compiles compile sources expressions) :
      Answers compile store (.getOrCompile key sources)
        (.module (.ok ⟨key, expressions, store.compilations⟩))
        ⟨store.modules.insert key ⟨key, expressions, store.compilations⟩, store.compilations + 1⟩
  /-- The first text that is refused is reported, and nothing changes. -/
  | refused {key name message : String} {sources : OrderedMap String}
      (hmissing : store.modules.lookup key = none)
      (hrefuses : Refuses compile sources name message) :
      Answers compile store (.getOrCompile key sources)
        (.module (.error (.expressionCompile key name message))) store
  | get (key : String) :
      Answers compile store (.get key) (.found (store.modules.lookup key)) store
  | evict (key : String) :
      Answers compile store (.evict key) (.evicted (decide (key ∈ store.modules)))
        { store with modules := store.modules.erase key }
  | clear : Answers compile store .clear .cleared { store with modules := ∅ }
  | size : Answers compile store .size (.number store.modules.keys.card) store
  | compilations : Answers compile store .compilations (.number store.compilations) store

/-- How a store answers calls one after the other. -/
inductive AnswersAll (compile : String → String → Except String Code) :
    KeyedStore Code → List ModuleCall → List (ModuleAnswer Code) → KeyedStore Code → Prop where
  | done (store : KeyedStore Code) : AnswersAll compile store [] [] store
  | step {store next last : KeyedStore Code} {call : ModuleCall} {rest : List ModuleCall}
      {answer : ModuleAnswer Code} {answers : List (ModuleAnswer Code)}
      (hanswers : Answers compile store call answer next)
      (hrest : AnswersAll compile next rest answers last) :
      AnswersAll compile store (call :: rest) (answer :: answers) last

/-- The number of compilations never decreases. -/
theorem Answers.compilations_le {store next : KeyedStore Code} {call : ModuleCall}
    {answer : ModuleAnswer Code} (h : Answers compile store call answer next) :
    store.compilations ≤ next.compilations := by
  cases h with
  | compiled => exact Nat.le_succ _
  | _ => exact Nat.le_refl _

theorem AnswersAll.compilations_le {store last : KeyedStore Code} {calls : List ModuleCall}
    {answers : List (ModuleAnswer Code)} (h : AnswersAll compile store calls answers last) :
    store.compilations ≤ last.compilations := by
  induction h with
  | done store => exact Nat.le_refl _
  | step hanswers _ ih => exact hanswers.compilations_le.trans ih

end KeyedStore

/-! ## Compiling in order -/

namespace ModuleCache

/-- Texts are compiled together when they compile one after the other. -/
theorem compileAll_eq_ok {key : String} {sources : OrderedMap String}
    {expressions : OrderedMap Code} (h : compileAll compile key sources = .ok expressions) :
    KeyedStore.Compiles compile sources expressions := by
  induction sources generalizing expressions with
  | nil =>
    cases h
    exact .nil
  | cons entry rest ih =>
    obtain ⟨name, source⟩ := entry
    rw [compileAll] at h
    cases hcode : compile name source with
    | error message =>
      rw [hcode] at h
      cases h
    | ok code =>
      rw [hcode] at h
      obtain ⟨more, hmore, rfl⟩ := Except.map_eq_ok_iff.mp h
      exact .cons ⟨rfl, hcode⟩ (ih hmore)

/-- When texts are not compiled together, one of them is refused, and none before it is. -/
theorem compileAll_eq_error {key : String} {sources : OrderedMap String} {error : MappingError}
    (h : compileAll compile key sources = .error error) :
    ∃ name message, error = .expressionCompile key name message ∧
      KeyedStore.Refuses compile sources name message := by
  induction sources with
  | nil => cases h
  | cons entry rest ih =>
    obtain ⟨name, source⟩ := entry
    rw [compileAll] at h
    cases hcode : compile name source with
    | error message =>
      rw [hcode] at h
      cases h
      exact ⟨name, message, rfl, [], source, rest, [], rfl, .nil, hcode⟩
    | ok code =>
      rw [hcode] at h
      cases hrest : compileAll compile key rest with
      | ok expressions =>
        rw [hrest] at h
        cases h
      | error found =>
        rw [hrest] at h
        cases h
        obtain ⟨refused, message, rfl, before, text, after, compiled, rfl, hcompiles, hrefused⟩ :=
          ih hrest
        exact ⟨refused, message, rfl, (name, source) :: before, text, after,
          (name, code) :: compiled, rfl, .cons ⟨rfl, hcode⟩ hcompiles, hrefused⟩

/-! ## Slots between calls -/

/-- The slots of a cache between calls: one for each module, and filled. -/
def filledSlots (modules : OrderedMap (CompiledModule Code)) :
    OrderedMap (Option (CompiledModule Code)) :=
  modules.map fun entry => (entry.1, some entry.2)

/-- The table of slots that a cache is. -/
def toSlots (cache : ModuleCache Code) : SlotTable Code :=
  ⟨filledSlots cache.modules, cache.compilations⟩

theorem get?_filledSlots (modules : OrderedMap (CompiledModule Code)) (key : String) :
    (filledSlots modules).get? key = (modules.get? key).map some := by
  induction modules with
  | nil => rfl
  | cons entry rest ih =>
    have hcons : filledSlots (entry :: rest) = (entry.1, some entry.2) :: filledSlots rest := rfl
    rw [hcons, OrderedMap.get?, OrderedMap.get?, ih]
    split <;> rfl

theorem contains_filledSlots (modules : OrderedMap (CompiledModule Code)) (key : String) :
    (filledSlots modules).contains key = (modules.get? key).isSome := by
  rw [OrderedMap.contains, get?_filledSlots, Option.isSome_map]

theorem erase_filledSlots (modules : OrderedMap (CompiledModule Code)) (key : String) :
    (filledSlots modules).erase key = filledSlots (modules.erase key) := by
  induction modules with
  | nil => rfl
  | cons entry rest ih =>
    have hcons : filledSlots (entry :: rest) = (entry.1, some entry.2) :: filledSlots rest := rfl
    rw [hcons, OrderedMap.erase, OrderedMap.erase, ih]
    split <;> rfl

theorem insert_filledSlots (modules : OrderedMap (CompiledModule Code)) (key : String)
    (module : CompiledModule Code) :
    (filledSlots modules).insert key (some module) = filledSlots (modules.insert key module) := by
  induction modules with
  | nil => rfl
  | cons entry rest ih =>
    have hcons : filledSlots (entry :: rest) = (entry.1, some entry.2) :: filledSlots rest := rfl
    rw [hcons, OrderedMap.insert, OrderedMap.insert, ih]
    split <;> rfl

theorem countP_filledSlots (modules : OrderedMap (CompiledModule Code)) :
    (filledSlots modules).countP (fun slot => slot.2.isSome) = modules.length := by
  rw [filledSlots, List.countP_map]
  exact List.countP_eq_length.mpr fun _ _ => rfl

/-- Under a key without a module a call reserves an empty slot. -/
theorem reserve_toSlots {cache : ModuleCache Code} {key : String} (h : cache.get? key = none) :
    cache.toSlots.reserve key =
      ⟨(filledSlots cache.modules).insert key none, cache.compilations⟩ := by
  unfold ModuleCache.get? at h
  rw [SlotTable.reserve, toSlots, contains_filledSlots, h]
  rfl

/-- A slot that is reserved by a call and given up by the same call leaves no trace. -/
theorem release_reserve {cache : ModuleCache Code} {key : String} (h : cache.get? key = none) :
    (cache.toSlots.reserve key).release key = cache.toSlots := by
  have hnone : (filledSlots cache.modules).get? key = none := by
    rw [get?_filledSlots]
    exact congrArg (Option.map some) h
  rw [reserve_toSlots h, SlotTable.release, OrderedMap.get?_insert, if_pos rfl]
  dsimp only
  rw [OrderedMap.erase_insert hnone]
  rfl

/-- A slot that is reserved by a call and filled by the same call is one for the module. -/
theorem fill_reserve {cache : ModuleCache Code} (module : CompiledModule Code)
    (h : cache.get? module.key = none) :
    (cache.toSlots.reserve module.key).fill module = (cache.add module).toSlots := by
  rw [reserve_toSlots h, SlotTable.fill, OrderedMap.insert_insert, insert_filledSlots]
  rfl

/-- The slots of a cache give the module that the cache gives for a key and texts. -/
theorem getOrCompile_toSlots (cache : ModuleCache Code) (key : String)
    (sources : OrderedMap String) :
    cache.toSlots.getOrCompile compile key sources =
      ((cache.getOrCompile compile key sources).1,
        (cache.getOrCompile compile key sources).2.toSlots) := by
  rw [SlotTable.getOrCompile, ModuleCache.getOrCompile]
  cases hget : cache.get? key with
  | some module =>
    have hslot : cache.toSlots.slots.get? key = some (some module) := by
      rw [toSlots, get?_filledSlots]
      exact congrArg (Option.map some) hget
    have hreserve : cache.toSlots.reserve key = cache.toSlots :=
      if_pos (OrderedMap.contains_of_get? hslot)
    rw [hreserve, SlotTable.get?, hslot]
    rfl
  | none =>
    have hempty : (cache.toSlots.reserve key).get? key = none := by
      rw [reserve_toSlots hget, SlotTable.get?, OrderedMap.get?_insert, if_pos rfl]
      rfl
    rw [hempty]
    dsimp only
    cases compileAll compile key sources with
    | error error =>
      dsimp only
      rw [release_reserve hget]
    | ok expressions =>
      have hcount : (cache.toSlots.reserve key).compilations = cache.compilations := by
        rw [reserve_toSlots hget]
      have hfill := fill_reserve ⟨key, expressions, cache.compilations⟩ hget
      dsimp only at hfill ⊢
      rw [hcount, hfill]

/-- The slots of a cache answer each call as the cache does, and all of them are filled again
afterwards. -/
theorem answer_toSlots (cache : ModuleCache Code) (call : ModuleCall) :
    cache.toSlots.answer compile call =
      ((cache.answer compile call).1, (cache.answer compile call).2.toSlots) := by
  cases call with
  | getOrCompile key sources =>
    rw [SlotTable.answer, getOrCompile_toSlots]
    rfl
  | get key =>
    rw [SlotTable.answer, SlotTable.get?, toSlots, get?_filledSlots, ModuleCache.answer,
      ModuleCache.get?]
    cases cache.modules.get? key <;> rfl
  | evict key =>
    rw [SlotTable.answer, SlotTable.evict, toSlots, contains_filledSlots, erase_filledSlots]
    rfl
  | clear => rfl
  | size =>
    rw [SlotTable.answer, SlotTable.size, toSlots, countP_filledSlots]
    rfl
  | compilations => rfl

/-- The slots of a cache answer any calls as the cache does. -/
theorem answerAll_toSlots (compile : String → String → Except String Code)
    (cache : ModuleCache Code) (calls : List ModuleCall) :
    ModuleCall.answerAll (SlotTable.answer compile) calls cache.toSlots =
      ((ModuleCall.answerAll (ModuleCache.answer compile) calls cache).1,
        (ModuleCall.answerAll (ModuleCache.answer compile) calls cache).2.toSlots) := by
  induction calls generalizing cache with
  | nil => rfl
  | cons call rest ih =>
    rw [ModuleCall.answerAll, answer_toSlots, ih]
    rfl

/-! ## Modules as a store -/

/-- A cache holds what a keyed store holds. Each module has its own key and was counted when it was
compiled, so that the number of a new module differs from those of all modules before. -/
structure Holds (cache : ModuleCache Code) (store : KeyedStore Code) : Prop where
  nodup : cache.modules.keys.Nodup
  lookup : ∀ key, cache.get? key = store.modules.lookup key
  compilations : cache.compilations = store.compilations
  counted : ∀ key module, cache.get? key = some module →
    module.key = key ∧ module.serial < cache.compilations

theorem holds_empty : Holds (empty : ModuleCache Code) .empty where
  nodup := List.nodup_nil
  lookup := fun _ => rfl
  compilations := rfl
  counted := nofun

variable {cache : ModuleCache Code} {store : KeyedStore Code}

/-- The number of modules is that of the keys of the store. -/
theorem Holds.size_eq (h : Holds cache store) : cache.size = store.modules.keys.card := by
  have hkeys : cache.modules.keys.toFinset = store.modules.keys := by
    ext key
    rw [List.mem_toFinset, Finmap.mem_keys, ← Finmap.lookup_isSome, ← h.lookup]
    show key ∈ cache.modules.keys ↔ (cache.modules.get? key).isSome = true
    rw [← not_iff_not, ← OrderedMap.get?_eq_none_iff, Bool.not_eq_true,
      Option.isSome_eq_false_iff, Option.isNone_iff_eq_none]
  rw [← hkeys, List.toFinset_card_of_nodup h.nodup, OrderedMap.keys, List.length_map, size]

/-- A newly compiled module is held under its key. -/
theorem Holds.add (h : Holds cache store) (key : String) (expressions : OrderedMap Code) :
    Holds (cache.add ⟨key, expressions, cache.compilations⟩)
      ⟨store.modules.insert key ⟨key, expressions, cache.compilations⟩,
        store.compilations + 1⟩ where
  nodup := OrderedMap.nodup_keys_insert h.nodup _ _
  lookup := by
    intro other
    show (cache.modules.insert key _).get? other = _
    rw [OrderedMap.get?_insert]
    split
    · rename_i heq
      rw [heq, Finmap.lookup_insert]
    · rename_i hne
      rw [Finmap.lookup_insert_of_ne _ (Ne.symm hne)]
      exact h.lookup other
  compilations := congrArg (· + 1) h.compilations
  counted := by
    intro other module hfound
    replace hfound : (cache.modules.insert key _).get? other = some module := hfound
    rw [OrderedMap.get?_insert] at hfound
    split at hfound
    · rename_i heq
      cases hfound
      exact ⟨heq, Nat.lt_succ_self _⟩
    · obtain ⟨hkey, hserial⟩ := h.counted other module hfound
      exact ⟨hkey, Nat.lt_succ_of_lt hserial⟩

/-- What is evicted is not held any more. -/
theorem Holds.evict (h : Holds cache store) (key : String) :
    Holds (cache.evict key) { store with modules := store.modules.erase key } where
  nodup := by
    show (cache.modules.erase key).keys.Nodup
    rw [OrderedMap.keys_erase]
    exact h.nodup.erase key
  lookup := by
    intro other
    show (cache.modules.erase key).get? other = _
    rw [OrderedMap.get?_erase h.nodup]
    split
    · rename_i heq
      rw [← heq, Finmap.lookup_erase]
    · rename_i hne
      rw [Finmap.lookup_erase_ne (Ne.symm hne)]
      exact h.lookup other
  compilations := h.compilations
  counted := by
    intro other module hfound
    replace hfound : (cache.modules.erase key).get? other = some module := hfound
    rw [OrderedMap.get?_erase h.nodup] at hfound
    split at hfound
    · cases hfound
    · exact h.counted other module hfound

/-- A cache answers each call as the store does that it holds, and holds the store afterwards. -/
theorem Holds.answer (h : Holds cache store) (compile : String → String → Except String Code)
    (call : ModuleCall) :
    ∃ next, KeyedStore.Answers compile store call (cache.answer compile call).1 next ∧
      Holds (cache.answer compile call).2 next := by
  cases call with
  | getOrCompile key sources =>
    rw [ModuleCache.answer, getOrCompile]
    cases hget : cache.get? key with
    | some module => exact ⟨store, .known ((h.lookup key).symm.trans hget), h⟩
    | none =>
      have hmissing := (h.lookup key).symm.trans hget
      cases hcompiled : compileAll compile key sources with
      | error error =>
        obtain ⟨name, message, rfl, hrefuses⟩ := compileAll_eq_error hcompiled
        exact ⟨store, .refused hmissing hrefuses, h⟩
      | ok expressions =>
        have hadd := h.add key expressions
        have hanswers := KeyedStore.Answers.compiled hmissing (compileAll_eq_ok hcompiled)
        rw [← h.compilations] at hanswers
        exact ⟨_, hanswers, h.compilations ▸ hadd⟩
  | get key =>
    have hanswers : KeyedStore.Answers compile store (.get key) _ store := .get key
    rw [← h.lookup] at hanswers
    exact ⟨store, hanswers, h⟩
  | evict key =>
    have hpresent : (cache.get? key).isSome = decide (key ∈ store.modules) := by
      rw [h.lookup, Bool.eq_iff_iff, decide_eq_true_iff, Finmap.lookup_isSome]
    rw [ModuleCache.answer, hpresent]
    exact ⟨_, .evict key, h.evict key⟩
  | clear =>
    exact ⟨_, .clear, ⟨List.nodup_nil, fun _ => rfl, h.compilations, nofun⟩⟩
  | size =>
    rw [ModuleCache.answer, h.size_eq]
    exact ⟨store, .size, h⟩
  | compilations =>
    rw [ModuleCache.answer, h.compilations]
    exact ⟨store, .compilations, h⟩

/-- A cache answers any calls as the store does that it holds. -/
theorem Holds.answerAll (h : Holds cache store) (compile : String → String → Except String Code)
    (calls : List ModuleCall) :
    ∃ last, KeyedStore.AnswersAll compile store calls
        (ModuleCall.answerAll (ModuleCache.answer compile) calls cache).1 last ∧
      Holds (ModuleCall.answerAll (ModuleCache.answer compile) calls cache).2 last := by
  induction calls generalizing cache store with
  | nil => exact ⟨store, .done store, h⟩
  | cons call rest ih =>
    obtain ⟨next, hanswer, hnext⟩ := h.answer compile call
    obtain ⟨last, hanswers, hlast⟩ := ih hnext
    exact ⟨last, .step hanswer hanswers, hlast⟩

end ModuleCache

/-- Calls after others go on from where these have led. -/
theorem ModuleCall.answerAll_append {State : Type}
    (answer : State → ModuleCall → ModuleAnswer Code × State) (calls more : List ModuleCall)
    (state : State) :
    (answerAll answer (calls ++ more) state).2 =
      (answerAll answer more (answerAll answer calls state).2).2 := by
  induction calls generalizing state with
  | nil => rfl
  | cons call rest ih => exact ih (answer state call).2

/-- Whatever compiles the texts, slots answer any calls as a keyed store does and as the cache of
modules does. Afterwards each key of the store has a filled slot and no other key has a slot, the
compilations agree, and a module's number is below theirs, so that a module to come is a new one.
The compilations never decrease. -/
theorem slots_refine_keyed_store (compile : String → String → Except String Code)
    (calls : List ModuleCall) :
    (∃ store, KeyedStore.AnswersAll compile .empty calls
        (ModuleCall.answerAll (SlotTable.answer compile) calls .empty).1 store ∧
      (∀ key, (ModuleCall.answerAll (SlotTable.answer compile) calls .empty).2.slots.get? key =
        (store.modules.lookup key).map some) ∧
      (ModuleCall.answerAll (SlotTable.answer compile) calls .empty).2.compilations =
        store.compilations ∧
      ∀ key module, store.modules.lookup key = some module →
        module.key = key ∧ module.serial < store.compilations) ∧
    (ModuleCall.answerAll (SlotTable.answer compile) calls .empty).1 =
      (ModuleCall.answerAll (ModuleCache.answer compile) calls .empty).1 ∧
    ∀ more, (ModuleCall.answerAll (SlotTable.answer compile) calls .empty).2.compilations ≤
      (ModuleCall.answerAll (SlotTable.answer compile) (calls ++ more) .empty).2.compilations := by
  have hslots (calls : List ModuleCall) :=
    ModuleCache.answerAll_toSlots compile .empty calls
  have hempty : (ModuleCache.empty : ModuleCache Code).toSlots = .empty := rfl
  simp only [hempty] at hslots
  obtain ⟨store, hanswers, hholds⟩ :=
    ModuleCache.holds_empty.answerAll compile calls
  refine ⟨⟨store, ?_, ?_, ?_, ?_⟩, ?_, ?_⟩
  · rwa [hslots]
  · intro key
    rw [hslots, ModuleCache.toSlots, ModuleCache.get?_filledSlots, ← hholds.lookup]
    rfl
  · rw [hslots]
    exact hholds.compilations
  · intro key module hfound
    rw [← hholds.lookup] at hfound
    rw [← hholds.compilations]
    exact hholds.counted key module hfound
  · rw [hslots]
  · intro more
    obtain ⟨last, hmore, hlast⟩ := hholds.answerAll compile more
    rw [hslots calls, hslots (calls ++ more), ModuleCall.answerAll_append]
    show ModuleCache.compilations _ ≤ ModuleCache.compilations _
    rw [hholds.compilations, hlast.compilations]
    exact hmore.compilations_le

/-- A refused text, a retry, an eviction and a second compilation under one key. -/
example : (ModuleCall.answerAll (SlotTable.answer fun _ source =>
      if source = "?" then Except.error "refused" else .ok source)
    [.getOrCompile "k" [("a", "?")], .size, .getOrCompile "k" [("a", "1")], .evict "k", .evict "k",
      .getOrCompile "k" [("a", "2")], .compilations] .empty).1 =
    [.module (.error (.expressionCompile "k" "a" "refused")), .number 0,
      .module (.ok ⟨"k", [("a", "1")], 0⟩), .evicted true, .evicted false,
      .module (.ok ⟨"k", [("a", "2")], 1⟩), .number 2] := rfl

end DocumentMapping
