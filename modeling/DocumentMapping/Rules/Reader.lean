import DocumentMapping.Json.Shape
import DocumentMapping.Rules.Basic

/-!
# Reading mapping documents

The JSON shapes of rules, fields, formats, options and settings. Only the ids and paths of fields
and the ids of formats are required.
-/

namespace DocumentMapping

open Json (RecordKind Shape optionalField requiredField textShape booleanShape countShape
  optionShape anyShape listShape choiceShape)

/-- The shape of a rule. -/
def Rule.kind : RecordKind Rule where
  name := "FieldMappingRule"
  fields := [
    optionalField "id" textShape fun rule value => { rule with id := value },
    optionalField "disabled" booleanShape fun rule value => { rule with isDisabled := value },
    optionalField "sourceFieldId" (optionShape textShape)
      fun rule value => { rule with sourceField := value },
    optionalField "destinationFieldId" (optionShape textShape)
      fun rule value => { rule with destinationField := value },
    optionalField "destinationHeaderTitle" (optionShape textShape)
      fun rule value => { rule with headerTitle := value },
    optionalField "destinationPlacementHint" (optionShape textShape)
      fun rule value => { rule with placementHint := value },
    optionalField "destinationConstantValue" (optionShape anyShape)
      fun rule value => { rule with constant := value },
    optionalField "destinationFormatId" (optionShape textShape)
      fun rule value => { rule with format := value },
    optionalField "usesValueExpression" booleanShape
      fun rule value => { rule with usesExpression := value },
    optionalField "valueExpression" (optionShape textShape)
      fun rule value => { rule with expressionText := value }]
  start := .empty

/-- The shape of a field. -/
def FieldDefinition.kind : RecordKind FieldDefinition where
  name := "FieldDefinition"
  fields := [
    requiredField "id" textShape fun field value => { field with id := value },
    requiredField "path" textShape fun field value => { field with path := value }]
  start := ⟨"", ""⟩

/-- The shape of a format. -/
def ValueFormat.kind : RecordKind ValueFormat where
  name := "FormatDescriptor"
  fields := [
    requiredField "id" textShape fun format value => { format with id := value },
    optionalField "sourceType" (choiceShape (SourceType.all.map fun type => (type.name, type)))
      fun format value => { format with sourceType := value },
    optionalField "template" (optionShape textShape)
      fun format value => { format with template := value }]
  start := ⟨"", .string, none⟩

/-- The shape of the options. -/
def MappingOptions.kind : RecordKind MappingOptions where
  name := "MappingOptions"
  fields := [
    optionalField "isTabularTarget" booleanShape
      fun options value => { options with isTabular := value },
    optionalField "preprocessorExpression" (optionShape textShape)
      fun options value => { options with preprocessor := value },
    optionalField "fingerprint" (optionShape textShape)
      fun options value => { options with fingerprint := value }]
  start := .default

/-- The shape of the settings. -/
def EngineSettings.kind : RecordKind EngineSettings where
  name := "EngineConfig"
  fields := [
    optionalField "maxWriteIterations" countShape
      fun settings value => { settings with writeCeiling := value },
    optionalField "tabularRowProperty" textShape
      fun settings value => { settings with rowProperty := value }]
  start := .default

/-- The shape of a document. -/
def MappingDocument.kind : RecordKind MappingDocument where
  name := "MappingDocument"
  fields := [
    optionalField "rules" (listShape Rule.kind.shape)
      fun document value => { document with rules := value },
    optionalField "sourceFields" (listShape FieldDefinition.kind.shape)
      fun document value => { document with sourceFields := value },
    optionalField "destinationFields" (listShape FieldDefinition.kind.shape)
      fun document value => { document with destinationFields := value },
    optionalField "formats" (listShape ValueFormat.kind.shape)
      fun document value => { document with formats := value },
    optionalField "options" MappingOptions.kind.shape
      fun document value => { document with options := value },
    optionalField "engine" EngineSettings.kind.shape
      fun document value => { document with engine := value }]
  start := .empty

/-- Reads a document. -/
def MappingDocument.read (text : String) : Except Json.Fault MappingDocument :=
  Json.readShape kind.shape text.toList

/-- Reads a rule. -/
def Rule.read (text : String) : Except Json.Fault Rule :=
  Json.readShape kind.shape text.toList

/-- Reads a format. -/
def ValueFormat.read (text : String) : Except Json.Fault ValueFormat :=
  Json.readShape kind.shape text.toList

end DocumentMapping
