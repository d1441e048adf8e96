import DocumentMapping.Expression.Module
import DocumentMapping.Expression.Parser
import DocumentMapping.Mapping.Fingerprint
import DocumentMapping.Mapping.Plan

/-!
# Mappings

A mapping plans all rules, compiles their expressions, runs the preprocessor and applies the rules
in order to an empty target. Tables are mapped in two passes over the same target, so that single
values reach the rows that later rules have added.
-/

namespace DocumentMapping

open Expression (Inputs Cache)

/-! ## Compiled expressions -/

/-- A module of expressions. -/
abbrev ExpressionModule := CompiledModule Expression

/-- Compiles the text of an expression. -/
def Expression.compile (_name source : String) : Except String Expression :=
  (Expression.read source).mapError (·.message)

/-- Runs a compiled expression. -/
def Expression.run (code : Expression) (inputs : Inputs) (cache : Cache) :
    Except RunFailure Node × Cache :=
  match code.evaluate inputs cache with
  | (.ok node, after) => (.ok node, after)
  | (.error fault, after) => (.error (.fault fault.message), after)

/-- The name of the preprocessor among the expressions of a configuration. -/
def preprocessorName : String := "$preprocessor"

/-- The key of the scratch cache under which a preprocessor's result is stored that is no object. -/
def preprocessorKey : String := "preprocessor"

/-- The expressions of a configuration by their names. Of rules with one id the last one counts. -/
def expressionSources (rules : List Rule) (options : MappingOptions) : OrderedMap String :=
  OrderedMap.ofList (
    (rules.filter (!·.isDisabled)).filterMap (fun rule => rule.expression?.map (rule.id, ·)) ++
    options.preprocessor?.toList.map (preprocessorName, ·))

/-- The key under which the expressions of a configuration are compiled. -/
def moduleKey (rules : List Rule) (options : MappingOptions) : String :=
  options.fingerprint.getD (Fingerprint.ofConfiguration rules options.preprocessor?)

/-- The module of a configuration, if it has expressions, and the modules afterwards. -/
def compileRules (modules : ModuleCache Expression) (rules : List Rule)
    (options : MappingOptions) :
    Except MappingError (Option ExpressionModule) × ModuleCache Expression :=
  if (expressionSources rules options).isEmpty then (.ok none, modules)
  else
    match modules.getOrCompile Expression.compile (moduleKey rules options)
      (expressionSources rules options) with
    | (result, after) => (result.map some, after)

/-- The notices about expressions that are compiled, up to the first that is refused. -/
def compiledNotices : List (String × String) → List Notice
  | [] => []
  | (name, source) :: rest =>
    match Expression.read source with
    | .error _ => []
    | .ok expression =>
      ⟨.trace, "compiled expression '" ++ name ++ "': " ++ expression.text⟩ :: compiledNotices rest

/-- The notices about the compilation of a configuration. -/
def compilationNotices (modules : ModuleCache Expression) (rules : List Rule)
    (options : MappingOptions) : List Notice :=
  let sources := expressionSources rules options
  let key := moduleKey rules options
  if sources.isEmpty || modules.modules.contains key then []
  else
    ⟨.debug, "compiling module " ++ key ++ " with " ++ toString sources.length ++ " expressions"⟩ ::
      compiledNotices sources

/-- The notices about the outcome of an expression. -/
def invocationNotices : Except MappingError Node → List Notice
  | .error (.expressionFailed failure) =>
    [⟨.debug, "expression '" ++ failure.expression ++ "' in module " ++ failure.moduleKey ++
      " failed: " ++ failure.message⟩]
  | _ => []

/-- Runs an expression of a module: its result, and the scratch cache afterwards. -/
def invoke (module : ExpressionModule) (name : String) (inputs : Inputs) (cache : Cache) :
    Logged (Node × Cache) :=
  match module.invoke Expression.run name inputs cache with
  | (result, after) => ⟨result.map (·, after), invocationNotices result⟩

/-- Stores what a preprocessor gives in the scratch cache: the properties of an object, or another
value under a key of its own; null is not stored. -/
def seed (cache : Cache) : Node → Cache
  | .object properties => cache.merge properties
  | .scalar .null => cache
  | result => cache.insert preprocessorKey result

/-- The notices about what a preprocessor gives. -/
def seedNotices : Node → List Notice
  | .object properties =>
    [⟨.debug, "preprocessor seeded " ++ toString properties.length ++ " cache entries"⟩]
  | _ => []

/-- The scratch cache that every pass starts from. -/
def baseCache (source : Node) (module : Option ExpressionModule) : Logged Cache :=
  match module with
  | none => pure []
  | some module =>
    if module.contains preprocessorName then do
      let (result, cache) ←
        invoke module preprocessorName ⟨source, .placeholder, .placeholder⟩ []
      Logged.notes (seedNotices result)
      return seed cache result
    else pure []

/-! ## Values -/

/-- What a value is computed from. -/
structure ValueInputs where
  request : Node
  item : Node
  value : Scalar
deriving Repr

namespace RulePlan

/-- The value of a rule before it is formatted, and the scratch cache afterwards. -/
def rawValue (plan : RulePlan) (module : Option ExpressionModule) (inputs : ValueInputs)
    (cache : Cache) : Logged (Scalar × Cache) :=
  match plan.mode with
  | .constant value => pure (value, cache)
  | .formattedConstant value => pure (value, cache)
  | .passthrough => pure (inputs.value, cache)
  | .expression =>
    match module with
    | none => Logged.fail (.unknownExpression "(none)" plan.rule.id)
    | some module => do
      let (node, cache) ←
        invoke module plan.rule.id ⟨inputs.request, inputs.item, .scalar inputs.value⟩ cache
      let value ← Logged.ofExcept node.toScalar
      return (value, cache)

/-- A value in the rule's format, if it has one. -/
def formatted (plan : RulePlan) (value : Scalar) : Except MappingError Scalar :=
  match plan.format with
  | none => .ok value
  | some format => format.apply value

/-- The value that a rule writes, and the scratch cache afterwards. -/
def value (plan : RulePlan) (module : Option ExpressionModule) (inputs : ValueInputs)
    (cache : Cache) : Logged (Scalar × Cache) := do
  let (raw, cache) ← plan.rawValue module inputs cache
  let value ← Logged.ofExcept (plan.formatted raw)
  return (value, cache)

end RulePlan

/-! ## Writing -/

/-- The next position under each open tag of a rule. -/
abbrev Counters := List (String × Nat)

namespace Counters

/-- All tags start at the first item. -/
def start (tags : List String) : Counters := tags.map (·, 0)

/-- All tags go on to the next item together. -/
def next (counters : Counters) : Counters :=
  counters.map fun (tag, count) => (tag, count + 1)

/-- The positions as hints. -/
def placement (counters : Counters) : Placement :=
  counters.map fun (tag, count) => (tag, .position count)

end Counters

/-- How a value of a rule is written. -/
structure WriteTask where
  plan : RulePlan
  value : Scalar
  /-- The hints of the rule and those that follow from the place of the value. -/
  placement : Placement
  /-- Whether the open tags are filled one item after the other. -/
  fansOut : Bool
  /-- Whether the value is one of several, so that it is written only once. -/
  isOneOfMany : Bool
deriving Repr

namespace WriteTask

/-- The hints of a write. -/
def placementAt (task : WriteTask) (counters : Counters) : Placement :=
  if task.fansOut then task.placement.merge counters.placement else task.placement

/-- The tags of which further items count. -/
def tags (task : WriteTask) : List String :=
  if task.fansOut then task.plan.openTags else []

/-- The counters after a write. -/
def countersAfter (task : WriteTask) (counters : Counters) : Counters :=
  if task.fansOut then counters.next else counters

/-- The notice about a write. -/
def writeNotice (task : WriteTask) (placement : Placement) : Notice :=
  ⟨.trace, "rule '" ++ task.plan.rule.id ++ "': writing " ++ task.value.text ++ " to " ++
    task.plan.destination.text ++ " with hints " ++ placement.text⟩

/-- The notices about the items that a write goes to. -/
def stepNotices (task : WriteTask) (placement : Placement) (target : Node) : List Notice :=
  (task.plan.destination.walk placement target).steps.filterMap fun
    | .property _ => none
    | .item element position length =>
      some ⟨.trace, task.plan.destination.text ++ ": '" ++ element.name ++ "' resolved to item " ++
        toString position ++ " of " ++ toString (max length (position + 1))⟩

/-- Writes the value once. -/
def writeOnce (task : WriteTask) (counters : Counters) (target : Node) : Logged Written := do
  let placement := task.placementAt counters
  Logged.notes (task.writeNotice placement :: task.stepNotices placement target)
  Logged.ofExcept ((task.plan.destination.write placement task.tags task.value target).mapError
    (.pathConflict task.plan.destination))

/-- The error of a rule that has reached its ceiling. -/
def runaway (task : WriteTask) (ceiling iterations : Nat) (counters : Counters) : RunawayWrite where
  rule := task.plan.rule.id
  destination := task.plan.destination
  iterations := iterations
  ceiling := ceiling
  placement := task.placementAt counters
  counters := task.countersAfter counters

/-- The notice about a rule that has reached its ceiling. -/
def runawayNotice (task : WriteTask) (ceiling : Nat) : Notice :=
  ⟨.warn, "rule '" ++ task.plan.rule.id ++ "' hit the write ceiling of " ++ toString ceiling ++
    " at " ++ task.plan.destination.text⟩

/-- What the writes of a value leave: how many there were, the counters and the target. -/
structure Outcome where
  writes : Nat
  counters : Counters
  target : Node
deriving Repr

/-- Writes the value until no further item is left or the ceiling is reached. `writes` counts the
writes so far, and `left` those that may still follow the next one. -/
def writeFrom (task : WriteTask) (ceiling : Nat) :
    Nat → Nat → Counters → Node → Logged Outcome
  | left, writes, counters, target => do
    let written ← task.writeOnce counters target
    if task.isOneOfMany || !written.more then
      return ⟨writes + 1, task.countersAfter counters, written.node⟩
    else
      match left with
      | 0 =>
        Logged.notes [task.runawayNotice ceiling]
        Logged.fail (.runawayWrite (task.runaway ceiling (writes + 1) counters))
      | left + 1 =>
        writeFrom task ceiling left (writes + 1) (task.countersAfter counters) written.node

/-- Writes the value; a ceiling of zero admits one write like a ceiling of one. -/
def write (task : WriteTask) (ceiling : Nat) (counters : Counters) (target : Node) :
    Logged Outcome :=
  task.writeFrom ceiling (ceiling - 1) 0 counters target

end WriteTask

/-! ## Rules and passes -/

/-- What rules change: the scratch cache and the target. -/
structure PassState where
  cache : Cache
  target : Node
deriving Repr

/-- What the values of one rule change. -/
structure RuleState where
  writes : Nat
  counters : Counters
  cache : Cache
  target : Node
deriving Repr

/-- What does not change during a mapping. -/
structure MappingContext where
  source : Node
  module : Option ExpressionModule
  settings : EngineSettings
deriving Repr

namespace RulePlan

/-- The task of writing a value, which may come from a place in the source. -/
def task (plan : RulePlan) (value : Scalar) (located : Option SelectedValue)
    (isOneOfMany : Bool) : WriteTask where
  plan := plan
  value := value
  placement := plan.placement.merge ((located.map plan.steer).getD [])
  fansOut := ((located.map plan.steer).getD []).isEmpty && !plan.openTags.isEmpty
  isOneOfMany := isOneOfMany

/-- Computes a value and writes it. -/
def writeValue (plan : RulePlan) (context : MappingContext) (item : Node) (value : Scalar)
    (located : Option SelectedValue) (isOneOfMany : Bool) (state : RuleState) :
    Logged RuleState := do
  let (result, cache) ← plan.value context.module ⟨context.source, item, value⟩ state.cache
  let outcome ← (plan.task result located isOneOfMany).write context.settings.writeCeiling
    state.counters state.target
  return ⟨state.writes + outcome.writes, outcome.counters, cache, outcome.target⟩

/-- Computes and writes a value of the source. -/
def writeSelected (plan : RulePlan) (context : MappingContext) (isOneOfMany : Bool)
    (state : RuleState) (selected : SelectedValue) : Logged RuleState :=
  plan.writeValue context ((context.source.enclosingItem? selected.path).getD context.source)
    selected.value (some selected) isOneOfMany state

/-- Writes all values of a rule. -/
def writeAll (plan : RulePlan) (context : MappingContext) (state : RuleState) :
    Logged RuleState :=
  match plan.source with
  | none => plan.writeValue context .placeholder .null none false state
  | some path => do
    let values := path.select context.source
    if values.isEmpty then
      Logged.note .debug ("rule '" ++ plan.rule.id ++ "': no values at " ++ path.text)
      return state
    else values.foldlM (plan.writeSelected context (decide (1 < values.length))) state

/-- Applies a rule. -/
def apply (plan : RulePlan) (context : MappingContext) (pass : Nat) (state : PassState) :
    Logged PassState := do
  let result ← plan.writeAll context ⟨0, .start plan.openTags, state.cache, state.target⟩
  Logged.note .debug ("pass " ++ toString pass ++ ": rule '" ++ plan.rule.id ++ "' (" ++
    plan.mode.name ++ ") wrote " ++ toString result.writes ++ " value(s) to " ++
    plan.destination.text)
  return ⟨result.cache, result.target⟩

end RulePlan

/-- Applies all rules in order, from the cache that passes start from. -/
def applyPass (plans : List RulePlan) (context : MappingContext) (cache : Cache)
    (target : Node) (pass : Nat) : Logged Node := do
  let state ← plans.foldlM (fun state plan => plan.apply context pass state) ⟨cache, target⟩
  return state.target

/-- The numbers of the passes. -/
def passes (options : MappingOptions) : List Nat :=
  if options.isTabular then [1, 2] else [1]

/-- Runs the passes of a mapping on an empty target. -/
def runPasses (rules : List Rule) (options : MappingOptions) (plans : List RulePlan)
    (context : MappingContext) : Logged Node := do
  let cache ← baseCache context.source context.module
  Logged.note .info ("mapping document with " ++ toString rules.length ++ " rules (" ++
    toString plans.length ++ " enabled), " ++ toString (passes options).length ++ " pass(es)")
  (passes options).foldlM (applyPass plans context cache) (.object [])

/-- Maps a source by rules: the target, and the modules afterwards. -/
def mapSource (settings : EngineSettings) (modules : ModuleCache Expression) (source : Node)
    (rules : List Rule) (lookups : Lookups) (options : MappingOptions) :
    Logged Node × ModuleCache Expression :=
  let planned := planRules lookups options settings rules
  match planned.result with
  | .error error => (⟨.error error, planned.notices⟩, modules)
  | .ok plans =>
    match compileRules modules rules options with
    | (module, after) =>
      (do
        Logged.notes (planned.notices ++ compilationNotices modules rules options)
        let module ← Logged.ofExcept module
        runPasses rules options plans ⟨source, module, settings⟩, after)

/-- Maps a source by a mapping document: the target, and the modules afterwards. -/
def MappingDocument.map (document : MappingDocument) (modules : ModuleCache Expression)
    (source : Node) : Logged Node × ModuleCache Expression :=
  mapSource document.engine modules source document.rules document.lookups document.options

end DocumentMapping
