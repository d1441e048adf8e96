import DocumentMapping.Format.Template
import DocumentMapping.Path.Error
import DocumentMapping.Placement.Hints
import DocumentMapping.Tree.Writing

/-!
# Errors of mappings

Why a mapping fails. Every error ends the mapping it arises in; its category tells what has to be
corrected.
-/

namespace DocumentMapping

/-- What kind of thing an error is about. -/
inductive ErrorCategory where
  | grammar
  | configuration
  | expression
  | loopGuard
deriving DecidableEq, Repr

/-- The name of a category. -/
def ErrorCategory.name : ErrorCategory → String
  | .grammar => "grammar"
  | .configuration => "configuration"
  | .expression => "expression"
  | .loopGuard => "loop-guard"

/-- The circumstances in which an expression failed. -/
structure ExpressionFailure where
  /-- The key of the module the expression belongs to. -/
  moduleKey : String
  expression : String
  message : String
  request : Json
  item : Json
  value : Json
  /-- The scratch cache after the failure. -/
  cache : Json
deriving Repr

/-- The wording of a failure. -/
def ExpressionFailure.text (failure : ExpressionFailure) : String :=
  "expression '" ++ failure.expression ++ "' in module " ++ failure.moduleKey ++ " failed: " ++
    failure.message ++ " (value: " ++ failure.value.text ++ ", item: " ++ failure.item.text ++
    ", cache: " ++ failure.cache.text ++ ")"

/-- The circumstances in which a rule was stopped because it kept writing one value. -/
structure RunawayWrite where
  rule : String
  destination : Path
  iterations : Nat
  ceiling : Nat
  /-- The hints of the last write. -/
  placement : Placement
  /-- The next position under each tag that is filled. -/
  counters : List (String × Nat)
deriving Repr

/-- The listing of counters in the order of their tags. -/
def countersText (counters : List (String × Nat)) : String :=
  Placement.listing
    ((counters.mergeSort fun x y => x.1 ≤ y.1).map fun (tag, count) => (tag, toString count))

/-- The wording of the circumstances. -/
def RunawayWrite.text (write : RunawayWrite) : String :=
  "rule '" ++ write.rule ++ "' exceeded " ++ toString write.ceiling ++ " writes to " ++
    write.destination.text ++ " (iterations: " ++ toString write.iterations ++ ", hints: " ++
    write.placement.text ++ ", counters: " ++ countersText write.counters ++ ")"

/-- Why a mapping fails. -/
inductive MappingError where
  | grammar (path : String) (error : PathError)
  | missingDestination (rule : String)
  /-- A rule has neither a source, nor a constant, nor an expression. -/
  | unsupportedMapping (rule : String)
  /-- A container would have to be written as a scalar. -/
  | unsupportedValue (kind : String)
  | unknownField (rule field : String)
  | unknownFormat (rule format : String)
  | invalidHint (hint : String) (problem : HintProblem)
  | invalidTemplate (template : String) (fault : Format.TemplateFault)
  | pathConflict (path : Path) (conflict : Conflict)
  | conversion (value : Scalar) (target : SourceType)
  | expressionCompile (moduleKey expression message : String)
  | unknownExpression (moduleKey expression : String)
  | expressionFailed (failure : ExpressionFailure)
  | runawayWrite (write : RunawayWrite)
deriving Repr

namespace MappingError

/-- The category of an error. -/
def category : MappingError → ErrorCategory
  | .grammar .. => .grammar
  | .expressionCompile .. => .expression
  | .unknownExpression .. => .expression
  | .expressionFailed .. => .expression
  | .runawayWrite .. => .loopGuard
  | _ => .configuration

/-- The wording of an error. -/
def message : MappingError → String
  | .grammar path error => "Grammar error in path '" ++ path ++ "': " ++ error.message
  | .missingDestination rule => "Rule '" ++ rule ++ "' has no destination path"
  | .unsupportedMapping rule =>
    "Rule '" ++ rule ++ "' has no source field, constant value or value expression"
  | .unsupportedValue kind => "Unsupported value type for a leaf write: " ++ kind
  | .unknownField rule field =>
    "Rule '" ++ rule ++ "' references unknown field '" ++ field ++ "'"
  | .unknownFormat rule format =>
    "Rule '" ++ rule ++ "' references unknown format '" ++ format ++ "'"
  | .invalidHint hint problem =>
    "Invalid placement hint '" ++ hint ++ "': " ++ problem.message
  | .invalidTemplate template fault => fault.refusal template
  | .pathConflict path conflict =>
    "Path conflict at " ++ path.text ++ ": " ++ conflict.message
  | .conversion value target =>
    "Conversion error: cannot convert " ++ value.text ++ " to " ++ target.name
  | .expressionCompile moduleKey expression message =>
    "Expression '" ++ expression ++ "' in module " ++ moduleKey ++ " failed to compile: " ++ message
  | .unknownExpression moduleKey expression =>
    "Expression '" ++ expression ++ "' not found in module " ++ moduleKey
  | .expressionFailed failure => "Expression error: " ++ failure.text
  | .runawayWrite write => "Loop guard triggered: " ++ write.text

end MappingError

end DocumentMapping
