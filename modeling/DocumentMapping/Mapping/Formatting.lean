import DocumentMapping.Mapping.Error
import DocumentMapping.Rules.Basic

/-!
# Conversion and formatting of values

A format converts a value to its type, and writes it by its template if it has one.
-/

namespace DocumentMapping

namespace Scalar

/-- Converts a value to a type, or reports the failure. -/
def coerce (value : Scalar) (target : SourceType) : Except MappingError Scalar :=
  match value.coerce? target with
  | some result => .ok result
  | none => .error (.conversion value target)

/-- Writes a value by a template. -/
def format (value : Scalar) (template : String) : Except MappingError String :=
  (Format.renderTemplate template value).mapError (.invalidTemplate template)

end Scalar

/-- The scalar that a node is; a container cannot be written as one. -/
def Node.toScalar : Node → Except MappingError Scalar
  | .scalar value => .ok value
  | other => .error (.unsupportedValue other.kind)

/-- Writes a value in a format. -/
def ValueFormat.apply (format : ValueFormat) (value : Scalar) : Except MappingError Scalar :=
  match value.coerce format.sourceType with
  | .error error => .error error
  | .ok converted =>
    match format.template with
    | none => .ok converted
    | some template => (converted.format template).map .string

end DocumentMapping
