import DocumentMapping.Expression.Fault
import DocumentMapping.Expression.Value
import DocumentMapping.Text.LetterCase

/-!
# Calls of functions

What a function gives for evaluated arguments. Only three functions know the scratch cache: one
looks a key up, one asks whether it is there, and one stores a node under it.
-/

namespace DocumentMapping.Expression

/-- The scratch cache: nodes that expressions store for later ones. -/
abbrev Cache := OrderedMap Node

/-! ## Arguments -/

/-- An argument that must be there; places are counted from zero. -/
def needed (arguments : List Node) (place : Nat) : Except FunctionProblem Node :=
  match arguments[place]? with
  | some node => .ok node
  | none => .error (.missingArgument (place + 1))

/-- An argument that must be a scalar; one that is left out is null. -/
def scalarAt (arguments : List Node) (place : Nat) : Except FunctionProblem Scalar :=
  match arguments[place]? with
  | none => .ok .null
  | some (.scalar value) => .ok value
  | some other => .error (.notScalar (place + 1) other.kind)

/-- An argument as a text; absent for null. -/
def textAt (arguments : List Node) (place : Nat) : Except FunctionProblem (Option String) :=
  (scalarAt arguments place).map fun value =>
    if value = .null then none else some value.text

/-- A scalar as an integer; absent for null. -/
def integerOf (place : Nat) (value : Scalar) : Except FunctionProblem (Option Int64) :=
  match value with
  | .null => .ok none
  | .integer value => .ok (some value)
  | .decimal value =>
    if value.isIntegral then
      match value.toInt64? with
      | some result => .ok (some result)
      | none => .error (.outOfRange value)
    else .error (.notInteger (place + 1) (Scalar.decimal value).kind)
  | other => .error (.notInteger (place + 1) other.kind)

/-- An argument as an integer; absent for null. -/
def integerAt (arguments : List Node) (place : Nat) : Except FunctionProblem (Option Int64) :=
  (scalarAt arguments place).bind (integerOf place)

/-- A scalar as a number; absent for null. -/
def numberOf (place : Nat) (value : Scalar) : Except FunctionProblem (Option Numeric) :=
  if value = .null then .ok none
  else
    match Numeric.ofScalar? value with
    | some number => .ok (some number)
    | none => .error (.notNumber (place + 1) value.kind)

/-- An argument as a number; absent for null. -/
def numberAt (arguments : List Node) (place : Nat) : Except FunctionProblem (Option Numeric) :=
  (scalarAt arguments place).bind (numberOf place)

/-! ## Results -/

/-- A text as a node. -/
def ofText (text : String) : Node := .scalar (.string text)

/-- A text as a node, or null. -/
def ofText? (text : Option String) : Node :=
  match text with
  | some text => ofText text
  | none => .placeholder

/-- A truth value as a node. -/
def ofBool (value : Bool) : Node := .scalar (.boolean value)

/-- A number as a node. -/
def ofNumeric (value : Numeric) : Node := .scalar value.toScalar

/-- A count as a node. -/
def ofCount (count : Nat) : Node := .scalar (.integer (Int64.ofNat count))

/-! ## Texts -/

/-- The number of characters, items or properties of a node. -/
def lengthOf : Node → Nat
  | .array items => items.length
  | .object properties => properties.length
  | .scalar .null => 0
  | .scalar value => value.text.length

/-- A count given as an integer; negative ones are zero. -/
def countOf (count : Option Int64) : Nat :=
  ((count.map Int64.toInt).getD 0).toNat

/-- A part of a text: from a start, and of a length if it is given. -/
def substring (text : String) (start : Nat) (length : Option Nat) : String :=
  let rest := text.toList.drop start
  String.ofList (match length with
    | some length => rest.take length
    | none => rest)

/-- Whether a text stands somewhere in another one. -/
def occursIn (pattern : List Char) : List Char → Bool
  | [] => pattern.isEmpty
  | c :: rest => pattern.isPrefixOf (c :: rest) || occursIn pattern rest

/-- A text in which every occurrence of a pattern is replaced, from left to right. -/
def replaceAll (pattern replacement : List Char) : List Char → List Char
  | [] => []
  | c :: rest =>
    if !pattern.isEmpty && pattern.isPrefixOf (c :: rest) then
      replacement ++ replaceAll pattern replacement (rest.drop (pattern.length - 1))
    else c :: replaceAll pattern replacement rest
termination_by text => text.length

/-- A part of the first argument. -/
def substringCall (arguments : List Node) : Except FunctionProblem Node := do
  match ← textAt arguments 0 with
  | none => .ok .placeholder
  | some text =>
    let start ← integerAt arguments 1
    let length ← integerAt arguments 2
    .ok (ofText (substring text (countOf start) (length.map fun n => countOf (some n))))

/-- The first argument with the second one replaced by the third. -/
def replaceCall (arguments : List Node) : Except FunctionProblem Node := do
  match ← textAt arguments 0 with
  | none => .ok .placeholder
  | some text =>
    let pattern := (← textAt arguments 1).getD ""
    let replacement := (← textAt arguments 2).getD ""
    .ok (ofText (String.ofList (replaceAll pattern.toList replacement.toList text.toList)))

/-- A test of the first argument with the second one; null passes none. -/
def testCall (test : List Char → List Char → Bool) (arguments : List Node) :
    Except FunctionProblem Node := do
  let text ← textAt arguments 0
  let pattern ← textAt arguments 1
  match text, pattern with
  | some text, some pattern => .ok (ofBool (test pattern.toList text.toList))
  | _, _ => .ok (ofBool false)

/-- The first argument changed as a text. -/
def textCall (change : String → String) (arguments : List Node) : Except FunctionProblem Node :=
  (textAt arguments 0).map fun text => ofText? (text.map change)

/-- The items of the first argument as texts with a separator between them; null items are left
out. -/
def joinCall (arguments : List Node) : Except FunctionProblem Node := do
  let separator := (← textAt arguments 1).getD ","
  let list ← needed arguments 0
  .ok (ofText (separator.intercalate
    ((list.listed.filter (!·.isPlaceholder)).map Node.embedded)))

/-- The second argument written by the template that the first one is. -/
def formatCall (arguments : List Node) : Except FunctionProblem Node := do
  let template := (← textAt arguments 0).getD ""
  let value ← scalarAt arguments 1
  match Format.renderTemplate template value with
  | .ok text => .ok (ofText text)
  | .error fault => .error (.template template fault)

/-! ## Numbers -/

/-- A number rounded to places; an integer stays as it is. -/
def roundTo (places : Nat) : Numeric → Numeric
  | .integer value => .integer value
  | .decimal value => .decimal (value.roundHalfAway places)

/-- The first argument rounded to the places that the second one gives. -/
def roundCall (arguments : List Node) : Except FunctionProblem Node := do
  match ← numberAt arguments 0 with
  | none => .ok .placeholder
  | some number =>
    let digits := (← integerAt arguments 1).getD 0
    if 0 ≤ digits.toInt ∧ digits.toInt ≤ 28 then
      .ok (ofNumeric (roundTo digits.toInt.toNat number))
    else .error (.invalidDigits digits)

/-- The first argument changed as a number. -/
def numericCall (change : Numeric → Numeric) (arguments : List Node) :
    Except FunctionProblem Node :=
  (numberAt arguments 0).map fun
    | some number => ofNumeric (change number)
    | none => .placeholder

/-- A number changed as a decimal; the result is an integer where that is possible. -/
def throughDecimal (change : Decimal → Decimal) : Numeric → Numeric
  | .integer value => .integer value
  | .decimal value => (Numeric.decimal (change value)).toIntegral

/-- The number of a truth value. -/
def ofTruth (value : Bool) : Numeric :=
  .integer (if value then 1 else 0)

/-- A scalar as a number; absent for null. -/
def toNumber (value : Scalar) : Except FunctionProblem (Option Numeric) :=
  match value with
  | .null => .ok none
  | .boolean value => .ok (some (ofTruth value))
  | .string text =>
    match Numeric.read? (Text.trimChars text.toList) with
    | some number => .ok (some number)
    | none => .error (.textToNumber text)
  | other =>
    match Numeric.ofScalar? other with
    | some number => .ok (some number)
    | none => .error (.kindToNumber other.kind)

/-- The problem of a conversion in the words for integers. -/
def FunctionProblem.forInteger : FunctionProblem → FunctionProblem
  | .textToNumber text => .textToInteger text
  | .kindToNumber kind => .kindToInteger kind
  | problem => problem

/-- A number cut off after the point. -/
def toInteger : Numeric → Except FunctionProblem Node
  | .integer value => .ok (.scalar (.integer value))
  | .decimal value =>
    match value.toInt64? with
    | some result => .ok (.scalar (.integer result))
    | none => .error (.outOfRange value)

/-- The first argument as a number. -/
def numberCall (arguments : List Node) : Except FunctionProblem Node := do
  match ← (scalarAt arguments 0).bind toNumber with
  | none => .ok .placeholder
  | some number => .ok (ofNumeric number)

/-- The first argument as an integer. -/
def integerCall (arguments : List Node) : Except FunctionProblem Node := do
  let value ← scalarAt arguments 0
  match ← (toNumber value).mapError .forInteger with
  | none => .ok .placeholder
  | some number => toInteger number

/-- Adds a node to a total; null adds nothing. -/
def addTo (total : Numeric) (node : Node) : Except FunctionProblem Numeric :=
  match node with
  | .scalar .null => .ok total
  | .scalar value =>
    match Numeric.ofScalar? value with
    | none => .error (.notSummable value.kind)
    | some number =>
      match total.add? number with
      | some sum => .ok sum
      | none => .error .overflow
  | other => .error (.notSummable other.kind)

/-- The sum of nodes, from the first on. -/
def sumOf (nodes : List Node) : Except FunctionProblem Numeric :=
  nodes.foldlM addTo (.integer 0)

/-! ## Choices and the cache -/

/-- The second argument when the first one is true, and the third one otherwise. -/
def chooseCall (arguments : List Node) : Node :=
  (arguments[if (arguments.head?.map Node.truthy).getD false then 1 else 2]?).getD .placeholder

/-- The first argument that is not null. -/
def coalesceCall (arguments : List Node) : Node :=
  (arguments.find? (!·.isPlaceholder)).getD .placeholder

/-- The key and the node that a call stores. -/
def entryOf (arguments : List Node) : Except FunctionProblem (String × Node) := do
  match ← textAt arguments 0 with
  | none => .error .nullKey
  | some key => .ok (key, arguments[1]?.getD .placeholder)

/-- The node under a key of the cache, or else the second argument. -/
def getCall (cache : Cache) (arguments : List Node) : Except FunctionProblem Node := do
  let key := (← textAt arguments 0).getD ""
  .ok ((cache.get? key).getD (arguments[1]?.getD .placeholder))

/-- Whether a key is in the cache. -/
def hasCall (cache : Cache) (arguments : List Node) : Except FunctionProblem Node := do
  let key := (← textAt arguments 0).getD ""
  .ok (ofBool (cache.contains key))

/-- The result of a function that does not know the cache. -/
def pureCall (function : Function) (arguments : List Node) : Except FunctionProblem Node :=
  match function with
  | .choose => .ok (chooseCall arguments)
  | .coalesce => .ok (coalesceCall arguments)
  | .concat => .ok (ofText (String.join (arguments.map Node.embedded)))
  | .upper => textCall Text.upper arguments
  | .lower => textCall Text.lower arguments
  | .trim => textCall Text.trim arguments
  | .length => (needed arguments 0).map fun node => ofCount (lengthOf node)
  | .substring => substringCall arguments
  | .replace => replaceCall arguments
  | .contains => testCall occursIn arguments
  | .startsWith => testCall (fun pattern text => pattern.isPrefixOf text) arguments
  | .endsWith => testCall (fun pattern text => pattern.isSuffixOf text) arguments
  | .round => roundCall arguments
  | .abs => numericCall Numeric.abs arguments
  | .floor => numericCall (throughDecimal Decimal.floor) arguments
  | .ceiling => numericCall (throughDecimal Decimal.ceiling) arguments
  | .number => numberCall arguments
  | .integer => integerCall arguments
  | .string => (needed arguments 0).map fun node =>
    if node.isPlaceholder then .placeholder else ofText node.embedded
  | .count => (needed arguments 0).map fun node => ofCount node.listed.length
  | .sum => ((needed arguments 0).bind (sumOf ·.listed)).map ofNumeric
  | .first => (needed arguments 0).map fun node => node.listed.head?.getD .placeholder
  | .last => (needed arguments 0).map fun node => node.listed.getLast?.getD .placeholder
  | .join => joinCall arguments
  | .format => formatCall arguments
  | .get => getCall [] arguments
  | .set => (entryOf arguments).map Prod.snd
  | .has => hasCall [] arguments

/-- The result of a function that reads the cache. -/
def readingCall (cache : Cache) (function : Function) (arguments : List Node) :
    Except FunctionProblem Node :=
  match function with
  | .get => getCall cache arguments
  | .has => hasCall cache arguments
  | other => pureCall other arguments

/-- The cache after a call. -/
def cacheAfter (cache : Cache) (function : Function) (arguments : List Node) : Cache :=
  match function with
  | .set =>
    match entryOf arguments with
    | .ok (key, node) => cache.insert key node
    | .error _ => cache
  | _ => cache

/-- Calls a function: its result and the cache afterwards. -/
def Function.call (function : Function) (arguments : List Node) (cache : Cache) :
    Except Fault Node × Cache :=
  ((readingCall cache function arguments).mapError (.function function),
    cacheAfter cache function arguments)

end DocumentMapping.Expression
