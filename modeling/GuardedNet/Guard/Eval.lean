import GuardedNet.Guard.Function
import GuardedNet.Guard.Parse

/-!
# The value of a term

Evaluation goes from left to right and stops at the first error. The two logical operators
leave their right side alone when the left side decides. A text that holds a decimal integer
counts as that integer wherever integers are wanted.
-/

namespace GuardedNet.Guard

/-- The names a term may use: identifiers with their values, and functions. -/
structure Scope where
  bindings : Dictionary Value
  functions : FunctionTable

/-- Fails unless the value is a truth value. -/
def requireBool (op : String) (value : Value) : Except EvalError Bool :=
  match value.asBool? with
  | some b => .ok b
  | none => .error (.typeMismatch op ("expected bool, found " ++ value.kind))

/-- The integer views of both operands. -/
def intOperands (op : BinaryOp) (left right : Value) : Except EvalError (Int × Int) :=
  match left.asInt?, right.asInt? with
  | some l, some r => .ok (l, r)
  | _, _ => .error (.typeMismatch op.symbol
      ("expected integers, found " ++ left.kind ++ " and " ++ right.kind))

/-- Both operands as truth values. -/
def boolOperands (op : BinaryOp) (left right : Value) : Except EvalError (Bool × Bool) :=
  match left.asBool?, right.asBool? with
  | some l, some r => .ok (l, r)
  | _, _ => .error (.typeMismatch op.symbol "expected booleans")

/-- An integer result, unless it leaves the bounds. -/
def bounded (op : String) (n : Int) : Except EvalError Value :=
  match Number.fit? n with
  | some n => .ok (.int n)
  | none => .error (.overflow op)

/-- Equality of two values: of their integer views if both have one, else of two values of one
kind. -/
def valuesEqual (left right : Value) : Except EvalError Bool :=
  match left.asInt?, right.asInt? with
  | some l, some r => .ok (l == r)
  | _, _ =>
    match left, right with
    | .bool l, .bool r => .ok (l == r)
    | .str l, .str r => .ok (l == r)
    | .list _, .list _ => .ok (decide (left = right))
    | .map _, .map _ => .ok (decide (left = right))
    | _, _ => .error (.typeMismatch "=="
        ("cannot compare " ++ left.kind ++ " with " ++ right.kind))

/-- The order of two values: of their integer views if both have one, else of two texts. -/
def compareValues (op : BinaryOp) (left right : Value) : Except EvalError Ordering :=
  match left.asInt?, right.asInt? with
  | some l, some r => .ok (compare l r)
  | _, _ =>
    match left, right with
    | .str l, .str r => .ok (compareOfLessAndEq l r)
    | _, _ => .error (.typeMismatch op.symbol
        ("cannot order " ++ left.kind ++ " and " ++ right.kind))

/-- The sum of two values; two texts are joined unless both hold integers. -/
def addValues (left right : Value) : Except EvalError Value :=
  match left, right with
  | .str l, .str r =>
    match left.asInt?, right.asInt? with
    | some m, some n => bounded "+" (m + n)
    | _, _ => .ok (.str (l ++ r))
  | _, _ => do
    let (l, r) ← intOperands .add left right
    bounded "+" (l + r)

/-- The quotient or remainder of two values, toward zero. The remainder of the least integer
by minus one counts as an overflow, like the quotient. -/
def divideValues (op : BinaryOp) (left right : Value) : Except EvalError Value := do
  let (l, r) ← intOperands op left right
  if r = 0 then .error (.divisionByZero op.symbol)
  else if l = Number.least ∧ r = -1 then .error (.overflow op.symbol)
  else if op = .div then .ok (.int (l.tdiv r))
  else .ok (.int (l.tmod r))

/-- An operator applied to the values of both operands. -/
def BinaryOp.apply (op : BinaryOp) (left right : Value) : Except EvalError Value :=
  match op with
  | .eq => do return .bool (← valuesEqual left right)
  | .ne => do return .bool (!(← valuesEqual left right))
  | .lt => do return .bool ((← compareValues op left right) == .lt)
  | .le => do return .bool ((← compareValues op left right) != .gt)
  | .gt => do return .bool ((← compareValues op left right) == .gt)
  | .ge => do return .bool ((← compareValues op left right) != .lt)
  | .add => addValues left right
  | .sub => do
    let (l, r) ← intOperands op left right
    bounded "-" (l - r)
  | .mul => do
    let (l, r) ← intOperands op left right
    bounded "*" (l * r)
  | .div => divideValues op left right
  | .rem => divideValues op left right
  | .and => do
    let (l, r) ← boolOperands op left right
    return .bool (l && r)
  | .or => do
    let (l, r) ← boolOperands op left right
    return .bool (l || r)

/-- A sign applied to the value of its operand. -/
def UnaryOp.apply (op : UnaryOp) (value : Value) : Except EvalError Value :=
  match op with
  | .not => do return .bool (!(← requireBool "!" value))
  | .neg =>
    match value.asInt? with
    | none => .error (.typeMismatch "-" ("expected int, found " ++ value.kind))
    | some n => bounded "-" (-n)

/-- The entry of a list or map at a position. A key that a map lacks reads as zero. -/
def indexValue (target position : Value) : Except EvalError Value :=
  match target with
  | .map entries =>
    match position.asKey? with
    | none => .error (.typeMismatch "[]" ("cannot index with " ++ position.kind))
    | some key => .ok ((Dictionary.get? key entries).getD (.int 0))
  | .list items =>
    match position.asInt? with
    | none => .error (.typeMismatch "[]" ("list index must be int, found " ++ position.kind))
    | some n =>
      if n < 0 then .error (.indexOutOfBounds n items.length)
      else match items[n.toNat]? with
        | some value => .ok value
        | none => .error (.indexOutOfBounds n items.length)
  | other => .error (.typeMismatch "[]" ("cannot index into " ++ other.kind))

/-- The field of a map. A field that a map lacks reads as zero. -/
def fieldValue (target : Value) (name : String) : Except EvalError Value :=
  match target with
  | .map entries => .ok ((Dictionary.get? name entries).getD (.int 0))
  | other => .error (.typeMismatch "." ("cannot access field `" ++ name ++ "` on " ++ other.kind))

/-- The text that an aggregate gets for the value of its argument. -/
def startOf (name : String) (value : Value) : Except EvalError String :=
  match value.asKey? with
  | some start => .ok start
  | none => .error (.typeMismatch "aggregate" ("`" ++ name ++ "` expects a place prefix"))

namespace Term

mutual

/-- The value of a term with at most `room` levels. -/
def evalWithin (scope : Scope) (room : Nat) (t : Term) : Except EvalError Value :=
  match room with
  | 0 => .error .depthExceeded
  | room + 1 =>
    match t with
    | .binary .and lhs rhs => do
      let l ← lhs.evalWithin scope room
      if ← requireBool "&&" l then
        let r ← rhs.evalWithin scope room
        return .bool (← requireBool "&&" r)
      else return .bool false
    | .binary .or lhs rhs => do
      let l ← lhs.evalWithin scope room
      if ← requireBool "||" l then return .bool true
      else
        let r ← rhs.evalWithin scope room
        return .bool (← requireBool "||" r)
    | .binary op lhs rhs => do
      let l ← lhs.evalWithin scope room
      let r ← rhs.evalWithin scope room
      op.apply l r
    | .unary op operand => do
      let value ← operand.evalWithin scope room
      op.apply value
    | .ident name =>
      match Dictionary.get? name scope.bindings with
      | some value => .ok value
      | none => .error (.unknownIdentifier name)
    | .int n => .ok (.int n)
    | .str s => .ok (.str s)
    | .bool b => .ok (.bool b)
    | .index target position => do
      let value ← target.evalWithin scope room
      let key ← position.evalWithin scope room
      indexValue value key
    | .field target name => do
      let value ← target.evalWithin scope room
      fieldValue value name
    | .call name args =>
      match Dictionary.get? name scope.functions with
      | none => .error (.unknownFunction name)
      | some (.aggregate run) =>
        match args with
        | [.ident start] => run start
        | [.str start] => run start
        | [arg] => do
          let value ← arg.evalWithin scope room
          run (← startOf name value)
        | _ => .error (.arity name 1 args.length)
      | some (.native run) => do
        let values ← evalAll scope room args
        run values

/-- The values of terms from left to right. -/
def evalAll (scope : Scope) (room : Nat) : List Term → Except EvalError (List Value)
  | [] => .ok []
  | t :: ts => do
    let value ← t.evalWithin scope room
    let values ← evalAll scope room ts
    return value :: values

end

/-- The value of a term. -/
def eval (scope : Scope) (t : Term) : Except EvalError Value := t.evalWithin scope maxDepth

/-- The truth value of a term. -/
def evalBool (scope : Scope) (t : Term) : Except EvalError Bool := do
  let value ← t.eval scope
  requireBool "condition" value

end Term

/-! ### Conditions -/

/-- A text read once as a term; a blank text is the condition that always holds. -/
structure Condition where
  source : String
  term : Option Term
deriving DecidableEq, Inhabited

/-- Reads a condition. -/
def Condition.read (source : String) : Except ParseError Condition :=
  if Text.isBlankText source then .ok ⟨source, none⟩
  else do
    let t ← parse source
    return ⟨source, some t⟩

/-- The value of a condition. -/
def Condition.eval (scope : Scope) (condition : Condition) : Except EvalError Value :=
  match condition.term with
  | some t => t.eval scope
  | none => .ok (.bool true)

/-- The truth value of a condition. -/
def Condition.evalBool (scope : Scope) (condition : Condition) : Except EvalError Bool :=
  match condition.term with
  | some t => t.evalBool scope
  | none => .ok true

/-- The value of a text. -/
def evaluate (scope : Scope) (source : String) : Except Error Value :=
  match Condition.read source with
  | .error cause => .error (.parse cause)
  | .ok condition =>
    match condition.eval scope with
    | .error cause => .error (.eval cause)
    | .ok value => .ok value

end GuardedNet.Guard
