import DocumentMapping.Expression.Module

/-!
# Slots for modules

A cache of modules can hand out slots. Whoever asks for the module of a key gets the slot under that
key, which is reserved if there is none. A slot that is still empty is filled by compiling; when the
texts are refused, the slot is given up again. So there are empty slots while a module is being
compiled, and keys with a slot are not the same as keys with a module then.
-/

namespace DocumentMapping

/-- The slots by key, filled or still empty, and how many modules have been compiled. -/
structure SlotTable (Code : Type) where
  slots : OrderedMap (Option (CompiledModule Code))
  compilations : Nat
deriving Repr

namespace SlotTable

variable {Code : Type}

/-- A table without slots. -/
def empty : SlotTable Code := ⟨[], 0⟩

/-- Reserves an empty slot under a key that has none. -/
def reserve (table : SlotTable Code) (key : String) : SlotTable Code :=
  if table.slots.contains key then table
  else { table with slots := table.slots.insert key none }

/-- Puts a newly compiled module into the slot under its key. -/
def fill (table : SlotTable Code) (module : CompiledModule Code) : SlotTable Code :=
  ⟨table.slots.insert module.key (some module), table.compilations + 1⟩

/-- Gives up the slot under a key if it is empty. -/
def release (table : SlotTable Code) (key : String) : SlotTable Code :=
  match table.slots.get? key with
  | some none => { table with slots := table.slots.erase key }
  | _ => table

/-- The module in the slot under a key. -/
def get? (table : SlotTable Code) (key : String) : Option (CompiledModule Code) :=
  (table.slots.get? key).join

/-- The number of filled slots. -/
def size (table : SlotTable Code) : Nat :=
  table.slots.countP fun slot => slot.2.isSome

/-- The module under a key, compiled from the given texts if its slot is empty, and the table
afterwards. -/
def getOrCompile (compile : String → String → Except String Code) (table : SlotTable Code)
    (key : String) (sources : OrderedMap String) :
    Except MappingError (CompiledModule Code) × SlotTable Code :=
  let reserved := table.reserve key
  match reserved.get? key with
  | some module => (.ok module, reserved)
  | none =>
    match ModuleCache.compileAll compile key sources with
    | .error error => (.error error, reserved.release key)
    | .ok expressions =>
      (.ok ⟨key, expressions, reserved.compilations⟩,
        reserved.fill ⟨key, expressions, reserved.compilations⟩)

/-- Drops the slot under a key, and tells whether there was one. -/
def evict (table : SlotTable Code) (key : String) : Bool × SlotTable Code :=
  (table.slots.contains key, { table with slots := table.slots.erase key })

/-- Drops all slots. -/
def clear (table : SlotTable Code) : SlotTable Code :=
  { table with slots := [] }

end SlotTable

/-! ## Calls -/

/-- A call of a cache of modules. -/
inductive ModuleCall where
  | getOrCompile (key : String) (sources : OrderedMap String)
  | get (key : String)
  | evict (key : String)
  | clear
  | size
  | compilations
deriving Repr

/-- What a call is answered. -/
inductive ModuleAnswer (Code : Type) where
  | module (result : Except MappingError (CompiledModule Code))
  | found (module : Option (CompiledModule Code))
  | evicted (wasPresent : Bool)
  | cleared
  | number (count : Nat)
deriving Repr

/-- Answers a call from the slots of a table. -/
def SlotTable.answer {Code : Type} (compile : String → String → Except String Code)
    (table : SlotTable Code) : ModuleCall → ModuleAnswer Code × SlotTable Code
  | .getOrCompile key sources =>
    (.module (table.getOrCompile compile key sources).1,
      (table.getOrCompile compile key sources).2)
  | .get key => (.found (table.get? key), table)
  | .evict key => (.evicted (table.evict key).1, (table.evict key).2)
  | .clear => (.cleared, table.clear)
  | .size => (.number table.size, table)
  | .compilations => (.number table.compilations, table)

/-- Answers a call from the modules of a cache. -/
def ModuleCache.answer {Code : Type} (compile : String → String → Except String Code)
    (cache : ModuleCache Code) : ModuleCall → ModuleAnswer Code × ModuleCache Code
  | .getOrCompile key sources =>
    (.module (cache.getOrCompile compile key sources).1,
      (cache.getOrCompile compile key sources).2)
  | .get key => (.found (cache.get? key), cache)
  | .evict key => (.evicted (cache.get? key).isSome, cache.evict key)
  | .clear => (.cleared, cache.clear)
  | .size => (.number cache.size, cache)
  | .compilations => (.number cache.compilations, cache)

/-- Answers calls one after the other. -/
def ModuleCall.answerAll {Code State : Type}
    (answer : State → ModuleCall → ModuleAnswer Code × State) :
    List ModuleCall → State → List (ModuleAnswer Code) × State
  | [], state => ([], state)
  | call :: rest, state =>
    ((answer state call).1 :: (answerAll answer rest (answer state call).2).1,
      (answerAll answer rest (answer state call).2).2)

end DocumentMapping
