import DocumentMapping.Expression.Call

/-!
# Evaluation

An expression is evaluated from left to right. A member or an item that is not there is null. The
logical operators, the choice of a first value and the conditional evaluate only what they need.
What has been stored in the cache before a fault stays there.
-/

namespace DocumentMapping.Expression

/-- The nodes that an expression is given. -/
structure Inputs where
  request : Node
  item : Node
  value : Node
deriving Repr, Inhabited

/-- The node of an input. -/
def Inputs.get (inputs : Inputs) : Root → Node
  | .request => inputs.request
  | .item => inputs.item
  | .value => inputs.value

/-- A computation that may use the cache and may stop with a fault. -/
abbrev Evaluation (α : Type) := ExceptT Fault (StateM Cache) α

/-- A result or a fault that does not depend on the cache. -/
def Evaluation.ofExcept (result : Except Fault Node) : Evaluation Node :=
  fun cache => (result, cache)

/-- Calls a function inside an evaluation. -/
def Evaluation.call (function : Function) (arguments : List Node) : Evaluation Node :=
  fun cache => function.call arguments cache

/-- The result of an operator in front of its operand. -/
def applyUnary (op : UnaryOperator) (operand : Node) : Except Fault Node :=
  match op with
  | .not => .ok (ofBool !operand.truthy)
  | .negate =>
    match operand with
    | .scalar .null => .ok .placeholder
    | .scalar (.integer value) => .ok (ofNumeric (Numeric.integer value).neg)
    | .scalar (.decimal value) => .ok (ofNumeric (Numeric.decimal value).neg)
    | other => .error (.cannotNegate other.kind)

/-- Whether a scalar is a text. -/
def isText : Scalar → Bool
  | .string _ => true
  | _ => false

/-- The operation of an arithmetic operator. -/
def operation? : BinaryOperator → Option (Numeric → Numeric → Option Numeric)
  | .add => some Numeric.add?
  | .subtract => some Numeric.subtract?
  | .multiply => some Numeric.multiply?
  | .divide => some Numeric.divide?
  | .modulo => some Numeric.remainder?
  | _ => none

/-- Whether an operator cannot be used with zero on its right. -/
def needsDivisor (op : BinaryOperator) : Bool :=
  op = .divide || op = .modulo

/-- The result of an arithmetic operator on numbers. -/
def applyNumeric (op : BinaryOperator) (x y : Numeric) : Except Fault Node :=
  if needsDivisor op && y.isZero then .error .divisionByZero
  else
    match (operation? op).bind fun f => f x y with
    | some result => .ok (ofNumeric result)
    | none => .error (.overflow op)

/-- The result of an arithmetic operator. A text on either side of a plus joins texts; otherwise
null on either side gives null. -/
def applyArithmetic (op : BinaryOperator) (left right : Node) : Except Fault Node :=
  match left, right with
  | .scalar x, .scalar y =>
    if op = .add && (isText x || isText y) then .ok (ofText (x.embedded ++ y.embedded))
    else if x = .null || y = .null then .ok .placeholder
    else
      match Numeric.ofScalar? x, Numeric.ofScalar? y with
      | some x, some y => applyNumeric op x y
      | _, _ => .error (.incompatible op left.kind right.kind)
  | _, _ => .error (.incompatible op left.kind right.kind)

/-- Whether an order satisfies a comparison. -/
def satisfies (op : BinaryOperator) (order : Ordering) : Bool :=
  match op with
  | .lessThan => order == .lt
  | .lessThanOrEqual => order != .gt
  | .greaterThan => order == .gt
  | _ => order != .lt

/-- The result of an operator whose operands are both evaluated. -/
def applyBinary (op : BinaryOperator) (left right : Node) : Except Fault Node :=
  match op with
  | .equal => .ok (ofBool (left.equal right))
  | .notEqual => .ok (ofBool !left.equal right)
  | .lessThan | .lessThanOrEqual | .greaterThan | .greaterThanOrEqual =>
    .ok (ofBool ((left.compare? right).any (satisfies op)))
  | op => applyArithmetic op left right

mutual

/-- Evaluates an expression. -/
def eval (inputs : Inputs) : Expression → Evaluation Node
  | .literal value => pure (.scalar value)
  | .input root => pure (inputs.get root)
  | .member base name => do
    let node ← eval inputs base
    pure ((node.get? name).getD .placeholder)
  | .index base position => do
    let node ← eval inputs base
    let index ← eval inputs position
    pure ((node.select? index).getD .placeholder)
  | .unary op operand => do
    let node ← eval inputs operand
    Evaluation.ofExcept (applyUnary op node)
  | .binary .and left right => do
    if (← eval inputs left).truthy then
      pure (ofBool (← eval inputs right).truthy)
    else pure (ofBool false)
  | .binary .or left right => do
    if (← eval inputs left).truthy then pure (ofBool true)
    else pure (ofBool (← eval inputs right).truthy)
  | .binary .coalesce left right => do
    let node ← eval inputs left
    if node.isPlaceholder then eval inputs right else pure node
  | .binary op left right => do
    let x ← eval inputs left
    let y ← eval inputs right
    Evaluation.ofExcept (applyBinary op x y)
  | .call .choose arguments => evalChoice inputs arguments
  | .call .coalesce arguments => evalFirst inputs arguments
  | .call function arguments => do
    let nodes ← evalAll inputs arguments
    Evaluation.call function nodes

/-- Evaluates expressions one after the other. -/
def evalAll (inputs : Inputs) : List Expression → Evaluation (List Node)
  | [] => pure []
  | first :: rest => do
    let node ← eval inputs first
    let nodes ← evalAll inputs rest
    pure (node :: nodes)

/-- Evaluates expressions up to the first that is not null. -/
def evalFirst (inputs : Inputs) : List Expression → Evaluation Node
  | [] => pure .placeholder
  | first :: rest => do
    let node ← eval inputs first
    if node.isPlaceholder then evalFirst inputs rest else pure node

/-- Evaluates a condition and then one of its two branches; a second branch that is left out is
null. -/
def evalChoice (inputs : Inputs) : List Expression → Evaluation Node
  | [] => throw (.function .choose (.missingArgument 1))
  | [condition] => do
    let _ ← eval inputs condition
    throw (.function .choose (.missingArgument 2))
  | [condition, branch] => do
    if (← eval inputs condition).truthy then eval inputs branch else pure .placeholder
  | condition :: branch :: otherwise :: _ => do
    if (← eval inputs condition).truthy then eval inputs branch else eval inputs otherwise

end

end DocumentMapping.Expression

namespace DocumentMapping

/-- Evaluates an expression with the given inputs and cache: its result and the cache afterwards. -/
def Expression.evaluate (expression : Expression) (inputs : Expression.Inputs)
    (cache : Expression.Cache) : Except Expression.Fault Node × Expression.Cache :=
  (Expression.eval inputs expression).run.run cache

end DocumentMapping
