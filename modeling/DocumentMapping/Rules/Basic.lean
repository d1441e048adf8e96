import DocumentMapping.Coercion
import DocumentMapping.Format.Template

/-!
# Mapping documents

A mapping document holds the rules of a mapping, the fields and formats that the rules refer to by
their ids, and options. A rule takes a value from a source field, a constant or an expression, and
writes it to a destination field or to a column of a table.
-/

namespace DocumentMapping

/-- A rule of a mapping. -/
structure Rule where
  /-- The id; the rule's expression is compiled under it. -/
  id : String
  isDisabled : Bool
  sourceField : Option String
  destinationField : Option String
  /-- The title of a column, for tables. -/
  headerTitle : Option String
  placementHint : Option String
  constant : Option Json
  format : Option String
  usesExpression : Bool
  expressionText : Option String
deriving Repr, Inhabited

namespace Rule

/-- A rule without anything. -/
def empty : Rule := ⟨"", false, none, none, none, none, none, none, false, none⟩

/-- The expression that computes the rule's values, unless it is blank or not used. -/
def expression? (rule : Rule) : Option String :=
  if rule.usesExpression then rule.expressionText.filter fun text => !Text.allBlank text else none

end Rule

/-- A named place in source or destination documents. -/
structure FieldDefinition where
  id : String
  path : String
deriving DecidableEq, Repr, Inhabited

/-- A named way to write values: a type to convert to, and a template for the converted value. -/
structure ValueFormat where
  id : String
  sourceType : SourceType
  template : Option String
deriving DecidableEq, Repr, Inhabited

/-- The options of a mapping. -/
structure MappingOptions where
  /-- Whether the target is a table, whose columns are named by header titles. -/
  isTabular : Bool
  /-- An expression that runs once, before all rules. -/
  preprocessor : Option String
  /-- A key for the compiled expressions, instead of one computed from the rules. -/
  fingerprint : Option String
deriving DecidableEq, Repr, Inhabited

/-- The options without any choice. -/
def MappingOptions.default : MappingOptions := ⟨false, none, none⟩

/-- The expression that runs before all rules, unless it is blank. -/
def MappingOptions.preprocessor? (options : MappingOptions) : Option String :=
  options.preprocessor.filter fun text => !Text.allBlank text

/-- The settings of the engine. -/
structure EngineSettings where
  /-- How often a rule may write one value. -/
  writeCeiling : Nat
  /-- The property that holds the rows of a table. -/
  rowProperty : String
deriving DecidableEq, Repr, Inhabited

namespace EngineSettings

/-- The usual settings. -/
def default : EngineSettings := ⟨1000, "row"⟩

/-- What is suspicious about the ceiling. -/
def ceilingWarnings (settings : EngineSettings) : List String :=
  if settings.writeCeiling = 0 then
    ["max_write_iterations is 0: every fan-out write will trip the loop guard"]
  else if 1000000 < settings.writeCeiling then
    ["max_write_iterations of " ++ toString settings.writeCeiling ++
      " is very high and may hide runaway loops"]
  else []

/-- What is suspicious about the row property. -/
def rowWarnings (settings : EngineSettings) : List String :=
  if Text.allBlank settings.rowProperty then ["tabular_row_property is empty"] else []

/-- What is suspicious about the settings. -/
def warnings (settings : EngineSettings) : List String :=
  settings.ceilingWarnings ++ settings.rowWarnings

end EngineSettings

/-- Fields and formats by their ids. -/
structure Lookups where
  sourceFields : OrderedMap FieldDefinition
  destinationFields : OrderedMap FieldDefinition
  formats : OrderedMap ValueFormat
deriving Repr, Inhabited

/-- Everything that describes a mapping. -/
structure MappingDocument where
  rules : List Rule
  sourceFields : List FieldDefinition
  destinationFields : List FieldDefinition
  formats : List ValueFormat
  options : MappingOptions
  engine : EngineSettings
deriving Repr, Inhabited

namespace MappingDocument

/-- A document without rules. -/
def empty : MappingDocument := ⟨[], [], [], [], .default, .default⟩

/-- The fields and formats of a document by their ids. Of repeated ids the last definition holds. -/
def lookups (document : MappingDocument) : Lookups where
  sourceFields := OrderedMap.ofList (document.sourceFields.map fun field => (field.id, field))
  destinationFields :=
    OrderedMap.ofList (document.destinationFields.map fun field => (field.id, field))
  formats := OrderedMap.ofList (document.formats.map fun format => (format.id, format))

end MappingDocument

end DocumentMapping
