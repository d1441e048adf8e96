import DocumentMapping.Json.Printer
import DocumentMapping.Mapping.WordHash
import DocumentMapping.Rules.Basic

/-!
# Fingerprints of configurations

The fingerprint of rules and a preprocessor is a hash of everything they contain. What is hashed is
a list of words, bytes and texts, in which each option is announced by a word.
-/

namespace DocumentMapping.Fingerprint

/-- A truth value as a byte. -/
def ofBool (value : Bool) : List HashItem := [.byte (if value then 1 else 0)]

/-- A text. -/
def ofText (value : String) : List HashItem := [.text value]

/-- An optional text, announced by zero or one. -/
def ofOption (value : Option String) : List HashItem :=
  match value with
  | none => [.word 0]
  | some text => [.word 1, .text text]

/-- The content of a rule. -/
def ofRule (rule : Rule) : List HashItem :=
  ofText rule.id ++ ofBool rule.isDisabled ++ ofOption rule.sourceField ++
    ofOption rule.destinationField ++ ofOption rule.headerTitle ++ ofOption rule.placementHint ++
    ofOption (rule.constant.map Json.text) ++ ofOption rule.format ++ ofBool rule.usesExpression ++
    ofOption rule.expressionText

/-- The content of a configuration. -/
def items (rules : List Rule) (preprocessor : Option String) : List HashItem :=
  .word (UInt64.ofNat rules.length) :: rules.flatMap ofRule ++ ofOption preprocessor

/-- The fingerprint of a configuration. -/
def ofConfiguration (rules : List Rule) (preprocessor : Option String) : String :=
  WordHash.digits (WordHash.hash (items rules preprocessor))

end DocumentMapping.Fingerprint
