import DocumentMapping.Mapping.Formatting
import DocumentMapping.Mapping.Notice
import DocumentMapping.Path.Parser
import DocumentMapping.Placement.Correlation
import DocumentMapping.Tree.Selection

/-!
# Plans of rules

A plan is everything about a rule that does not depend on the values of the source: its paths, its
hints, which indexes of the source steer which of the destination, and how its values come about.
-/

namespace DocumentMapping

/-- How a rule comes to its values. -/
inductive ValueMode where
  | constant (value : Scalar)
  /-- The values of the source. -/
  | passthrough
  | expression
  /-- A constant that is written in the rule's format. -/
  | formattedConstant (value : Scalar)
deriving DecidableEq, Repr

namespace ValueMode

/-- The name of a mode. -/
def name : ValueMode → String
  | .constant _ => "constant"
  | .passthrough => "passthrough"
  | .expression => "expression"
  | .formattedConstant _ => "formatted-constant"

end ValueMode

namespace Rule

/-- The constant of a rule as a scalar. -/
def constantScalar (rule : Rule) : Except MappingError (Option Scalar) :=
  match rule.constant with
  | none => .ok none
  | some json =>
    match Scalar.ofJson? json with
    | some value => .ok (some value)
    | none => .error (.unsupportedValue (Node.ofJson json).kind)

/-- The mode of a rule with the given constant. An expression comes before a source, and a source
before a constant with a format; a constant without a format needs that there is no expression. -/
def modeFor (rule : Rule) (constant : Option Scalar) : Except MappingError ValueMode :=
  match constant, rule.format, rule.expression? with
  | some value, none, none => .ok (.constant value)
  | _, _, some _ => .ok .expression
  | some value, some _, none =>
    if rule.sourceField.isSome then .ok .passthrough else .ok (.formattedConstant value)
  | none, _, none =>
    if rule.sourceField.isSome then .ok .passthrough else .error (.unsupportedMapping rule.id)

/-- The mode of a rule. -/
def mode (rule : Rule) : Except MappingError ValueMode :=
  rule.constantScalar.bind rule.modeFor

end Rule

/-- Reads the path of a field. -/
def Path.read (text : String) : Except MappingError Path :=
  (Path.ofString text).mapError (.grammar text)

/-- A planned rule. -/
structure RulePlan where
  rule : Rule
  destination : Path
  source : Option Path
  placement : Placement
  /-- The source tags that steer an element of the destination, in source order. -/
  matched : List (String × CorrelationTarget)
  correlation : Correlation
  mode : ValueMode
  format : Option ValueFormat
deriving Repr

namespace RulePlan

/-- The path that a rule writes to. -/
def destinationOf (rule : Rule) (lookups : Lookups) (options : MappingOptions)
    (settings : EngineSettings) : Except MappingError Path :=
  match rule.destinationField with
  | some id =>
    match lookups.destinationFields.get? id with
    | none => .error (.unknownField rule.id id)
    | some field =>
      if Text.allBlank field.path then .error (.missingDestination rule.id)
      else Path.read field.path
  | none =>
    match rule.headerTitle with
    | some title =>
      if options.isTabular && !title.isEmpty then
        .ok (Path.tabularColumn settings.rowProperty title)
      else .error (.missingDestination rule.id)
    | none => .error (.missingDestination rule.id)

/-- The path that a rule reads from, if it has a source. -/
def sourceOf (rule : Rule) (lookups : Lookups) : Except MappingError (Option Path) :=
  match rule.sourceField with
  | none => .ok none
  | some id =>
    match lookups.sourceFields.get? id with
    | none => .error (.unknownField rule.id id)
    | some field => (Path.read field.path).map some

/-- The format of a rule, if it has one. -/
def formatOf (rule : Rule) (lookups : Lookups) : Except MappingError (Option ValueFormat) :=
  match rule.format with
  | none => .ok none
  | some id =>
    match lookups.formats.get? id with
    | none => .error (.unknownFormat rule.id id)
    | some format => .ok (some format)

/-- The hints of a rule. -/
def hintsOf (rule : Rule) : Except MappingError Hints :=
  (Hints.readOptional rule.placementHint).mapError
    (.invalidHint (rule.placementHint.getD ""))

/-- Plans a rule. -/
def ofRule (rule : Rule) (lookups : Lookups) (options : MappingOptions)
    (settings : EngineSettings) : Except MappingError RulePlan := do
  let destination ← destinationOf rule lookups options settings
  let source ← sourceOf rule lookups
  let mode ← rule.mode
  let format ← formatOf rule lookups
  let hints ← hintsOf rule
  let matched := Correlation.matchedOptional destination source hints.renames
  return {
    rule, destination, source, mode, format, matched
    placement := hints.placement
    correlation := Correlation.ofMatched destination matched }

/-- The tags of the destination that neither the source steers nor a hint pins. A single value is
written under them again and again, as long as there are further items. -/
def openTags (plan : RulePlan) : List String :=
  plan.destination.dynamicTags.filter fun tag =>
    !plan.correlation.isCorrelated tag && !plan.placement.contains tag

/-- The notices about hints for tags that the destination does not have. -/
def unusedHints (plan : RulePlan) : List Notice :=
  (plan.placement.sorted.filter fun (tag, _) => !plan.destination.tags.contains tag).map
    fun (tag, _) =>
      ⟨.warn, "rule '" ++ plan.rule.id ++ "': placement hint '" ++ tag ++
        "' does not occur in " ++ plan.destination.text⟩

/-- The notices about the tags that are steered by the source. -/
def correlations (plan : RulePlan) : List Notice :=
  plan.matched.map fun (tag, target) =>
    ⟨.trace, "correlated source [" ++ tag ++ "] with " ++ target.element ++ "[" ++ target.tag ++
      "]"⟩

/-- The hints of the destination that follow from the place of a value in the source: for each tag
that is steered and not pinned, the position of the last source element that steers it. -/
def steer (plan : RulePlan) (value : SelectedValue) : Placement :=
  match plan.source with
  | none => []
  | some source =>
    source.indexed.foldl (fun placement (place, element) =>
      match element.tag?.bind plan.correlation.get?, value.position? place with
      | some target, some position =>
        if plan.placement.contains target.tag then placement
        else placement.insert target.tag (.position position)
      | _, _ => placement) []

end RulePlan

/-- Plans the rules that are not disabled, in order. -/
def planRules (lookups : Lookups) (options : MappingOptions) (settings : EngineSettings) :
    List Rule → Logged (List RulePlan)
  | [] => pure []
  | rule :: rest => do
    if rule.isDisabled then
      Logged.note .debug ("rule '" ++ rule.id ++ "' is disabled, skipping")
      planRules lookups options settings rest
    else
      let plan ← Logged.ofExcept (RulePlan.ofRule rule lookups options settings)
      Logged.notes (plan.unusedHints ++ plan.correlations)
      let plans ← planRules lookups options settings rest
      return plan :: plans

end DocumentMapping
