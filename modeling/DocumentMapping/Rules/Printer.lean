import DocumentMapping.Json.Printer
import DocumentMapping.Rules.Basic

/-!
# Written mapping documents

A document is written with all its fields in order, except for options that are absent.
-/

namespace DocumentMapping

/-- A member that is left out when there is nothing to write. -/
def optionalMember (name : String) (value : Option Json) : List (String × Json) :=
  match value with
  | some value => [(name, value)]
  | none => []

/-- The JSON form of a rule. -/
def Rule.toJson (rule : Rule) : Json :=
  .object (
    [("id", .string rule.id), ("disabled", .boolean rule.isDisabled)] ++
    optionalMember "sourceFieldId" (rule.sourceField.map .string) ++
    optionalMember "destinationFieldId" (rule.destinationField.map .string) ++
    optionalMember "destinationHeaderTitle" (rule.headerTitle.map .string) ++
    optionalMember "destinationPlacementHint" (rule.placementHint.map .string) ++
    optionalMember "destinationConstantValue" rule.constant ++
    optionalMember "destinationFormatId" (rule.format.map .string) ++
    [("usesValueExpression", .boolean rule.usesExpression)] ++
    optionalMember "valueExpression" (rule.expressionText.map .string))

/-- The JSON form of a field. -/
def FieldDefinition.toJson (field : FieldDefinition) : Json :=
  .object [("id", .string field.id), ("path", .string field.path)]

/-- The JSON form of a format. -/
def ValueFormat.toJson (format : ValueFormat) : Json :=
  .object (
    [("id", .string format.id), ("sourceType", .string format.sourceType.name)] ++
    optionalMember "template" (format.template.map .string))

/-- The JSON form of the options. -/
def MappingOptions.toJson (options : MappingOptions) : Json :=
  .object (
    [("isTabularTarget", .boolean options.isTabular)] ++
    optionalMember "preprocessorExpression" (options.preprocessor.map .string) ++
    optionalMember "fingerprint" (options.fingerprint.map .string))

/-- The JSON form of the settings. -/
def EngineSettings.toJson (settings : EngineSettings) : Json :=
  .object [
    ("maxWriteIterations", .number (.integer settings.writeCeiling)),
    ("tabularRowProperty", .string settings.rowProperty)]

/-- The JSON form of a document. -/
def MappingDocument.toJson (document : MappingDocument) : Json :=
  .object [
    ("rules", .array (document.rules.map Rule.toJson)),
    ("sourceFields", .array (document.sourceFields.map FieldDefinition.toJson)),
    ("destinationFields", .array (document.destinationFields.map FieldDefinition.toJson)),
    ("formats", .array (document.formats.map ValueFormat.toJson)),
    ("options", document.options.toJson),
    ("engine", document.engine.toJson)]

/-- The text of a document. -/
def MappingDocument.text (document : MappingDocument) : String :=
  document.toJson.text

end DocumentMapping
