import DocumentMapping.Expression.Evaluation
import DocumentMapping.Mapping.Error
import DocumentMapping.Text.Quoted

/-!
# Modules of compiled expressions

The expressions of a configuration are compiled together into a module, which is kept under the key
of the configuration. A key that is known is not compiled again. When one of the expressions cannot
be compiled, nothing is kept.

The kind of compiled code is left open: what compiles a text and what runs the code are given where
they are needed.
-/

namespace DocumentMapping

open Expression (Inputs Cache)

/-- The compiled expressions of a configuration by their names. -/
structure CompiledModule (Code : Type) where
  key : String
  expressions : OrderedMap Code
  /-- How many modules had been compiled before this one. -/
  serial : Nat
deriving Repr

/-- A failure of compiled code while it runs. -/
inductive RunFailure where
  | fault (message : String)
  /-- The code broke off, with a text where there is one. -/
  | panicked (text : Option String)
deriving Repr

/-- The wording of a failure. -/
def RunFailure.message : RunFailure → String
  | .fault message => message
  | .panicked (some text) => "expression panicked: " ++ text
  | .panicked none => "expression panicked"

namespace CompiledModule

/-- The code of an expression. -/
def get? {Code : Type} (module : CompiledModule Code) (name : String) : Option Code :=
  module.expressions.get? name

/-- Whether the module has an expression. -/
def contains {Code : Type} (module : CompiledModule Code) (name : String) : Bool :=
  module.expressions.contains name

/-- A module as listings show it, with the names of its expressions in order. -/
def description {Code : Type} (module : CompiledModule Code) : String :=
  "CompiledModule \x7b key: ModuleKey(" ++ Text.quoted module.key ++ "), expressions: [" ++
    ", ".intercalate ((module.expressions.keys.mergeSort (· ≤ ·)).map Text.quoted) ++ "] \x7d"

/-- The record of a failure of an expression. -/
def failure (key name : String) (inputs : Inputs) (cache : Cache) (failure : RunFailure) :
    ExpressionFailure where
  moduleKey := key
  expression := name
  message := failure.message
  request := inputs.request.toJson
  item := inputs.item.toJson
  value := inputs.value.toJson
  cache := (Node.object cache).toJson

/-- Runs an expression of a module: its result and the scratch cache afterwards. -/
def invoke {Code : Type} (run : Code → Inputs → Cache → Except RunFailure Node × Cache)
    (module : CompiledModule Code) (name : String) (inputs : Inputs) (cache : Cache) :
    Except MappingError Node × Cache :=
  match module.get? name with
  | none => (.error (.unknownExpression module.key name), cache)
  | some code =>
    match run code inputs cache with
    | (.ok node, after) => (.ok node, after)
    | (.error reason, after) =>
      (.error (.expressionFailed (failure module.key name inputs after reason)), after)

end CompiledModule

/-- The modules that have been compiled, by key, and how often that was done. -/
structure ModuleCache (Code : Type) where
  modules : OrderedMap (CompiledModule Code)
  compilations : Nat
deriving Repr

namespace ModuleCache

variable {Code : Type}

/-- A cache without modules. -/
def empty : ModuleCache Code := ⟨[], 0⟩

instance : Inhabited (ModuleCache Code) := ⟨empty⟩

/-- Compiles texts in order, up to the first that is refused; `compile` takes the name and the text
of an expression. -/
def compileAll (compile : String → String → Except String Code) (key : String) :
    List (String × String) → Except MappingError (List (String × Code))
  | [] => .ok []
  | (name, source) :: rest =>
    match compile name source with
    | .error message => .error (.expressionCompile key name message)
    | .ok code => (compileAll compile key rest).map ((name, code) :: ·)

/-- The module under a key. -/
def get? (cache : ModuleCache Code) (key : String) : Option (CompiledModule Code) :=
  cache.modules.get? key

/-- The number of modules. -/
def size (cache : ModuleCache Code) : Nat :=
  cache.modules.length

/-- Keeps a newly compiled module. -/
def add (cache : ModuleCache Code) (module : CompiledModule Code) : ModuleCache Code :=
  ⟨cache.modules.insert module.key module, cache.compilations + 1⟩

/-- The module under a key, compiled from the given texts if there is none yet, and the cache
afterwards. -/
def getOrCompile (compile : String → String → Except String Code) (cache : ModuleCache Code)
    (key : String) (sources : OrderedMap String) :
    Except MappingError (CompiledModule Code) × ModuleCache Code :=
  match cache.get? key with
  | some module => (.ok module, cache)
  | none =>
    match compileAll compile key sources with
    | .error error => (.error error, cache)
    | .ok expressions =>
      (.ok ⟨key, expressions, cache.compilations⟩,
        cache.add ⟨key, expressions, cache.compilations⟩)

/-- Drops the module under a key. -/
def evict (cache : ModuleCache Code) (key : String) : ModuleCache Code :=
  { cache with modules := cache.modules.erase key }

/-- Drops all modules. -/
def clear (cache : ModuleCache Code) : ModuleCache Code :=
  { cache with modules := [] }

end ModuleCache

end DocumentMapping
