import GuardedNet.Guard.Token

/-!
# Functions of the guard language

A call `f(a, b)` is looked up in a table of functions. A plain function takes the values of its
arguments; an aggregate takes the text of its single argument as the start of place ids.
-/

namespace GuardedNet.Guard

/-- Why a term has no value. -/
inductive EvalError where
  | unknownIdentifier (name : String)
  | unknownFunction (name : String)
  | divisionByZero (op : String)
  | overflow (op : String)
  | typeMismatch (op detail : String)
  | indexOutOfBounds (position : Int) (length : Nat)
  | arity (name : String) (expected found : Nat)
  | function (name message : String)
  | depthExceeded
deriving DecidableEq, Inhabited

/-- The wording of an error. -/
def EvalError.message : EvalError → String
  | .unknownIdentifier name => "unknown identifier `" ++ name ++ "`"
  | .unknownFunction name => "unknown function `" ++ name ++ "`"
  | .divisionByZero op => "division by zero in `" ++ op ++ "`"
  | .overflow op => "integer overflow in `" ++ op ++ "`"
  | .typeMismatch op detail => "type mismatch in `" ++ op ++ "`: " ++ detail
  | .indexOutOfBounds position length =>
    "index " ++ Number.intText position ++ " out of bounds for list of length "
      ++ Number.natText length
  | .arity name expected found =>
    "function `" ++ name ++ "` expects " ++ Number.natText expected ++ " argument(s), got "
      ++ Number.natText found
  | .function name message => "function `" ++ name ++ "` failed: " ++ message
  | .depthExceeded =>
    "expression nesting exceeds the maximum depth of " ++ Number.natText maxDepth

/-- Why a text has no value: it is no expression, or its term has none. -/
inductive Error where
  | parse (cause : ParseError)
  | eval (cause : EvalError)
deriving DecidableEq, Inhabited

/-- The wording of the cause alone. -/
def Error.cause : Error → String
  | .parse cause => cause.message
  | .eval cause => cause.message

/-- The wording of an error. -/
def Error.message : Error → String
  | .parse cause => "parse error: " ++ cause.message
  | .eval cause => "evaluation error: " ++ cause.message

/-- A function of the guard language. -/
inductive Function where
  | native (run : List Value → Except EvalError Value)
  | aggregate (run : String → Except EvalError Value)

/-- Functions by name; of two with one name the first counts. -/
abbrev FunctionTable := Dictionary Function

/-- Fails unless there are exactly `expected` arguments. -/
def expectArity (name : String) (args : List Value) (expected : Nat) : Except EvalError Unit :=
  if args.length = expected then .ok () else .error (.arity name expected args.length)

/-- The account address with the given number: twenty bytes in base sixteen. -/
def addressText (n : Nat) : String :=
  let digits := Text.hexDigits n
  String.ofList (['0', 'x'] ++ List.replicate (40 - digits.length) '0' ++ digits)

/-- The function `address(n)`. -/
def address (args : List Value) : Except EvalError Value := do
  expectArity "address" args 1
  match args.head?.bind Value.asInt? with
  | none => .error (.typeMismatch "address" "expected an integer argument")
  | some n =>
    if n < 0 then .error (.function "address" ("negative address " ++ Number.intText n))
    else .ok (.str (addressText n.toNat))

/-- The functions that every guard may call. -/
def builtins : FunctionTable := [("address", .native address)]

/-! ### Aggregates over a snapshot of places -/

/-- The sum of a list of totals, all of which must exist. -/
def sumOfTotals (values : List Value) : Except EvalError Int :=
  match Value.totalItems? 0 values with
  | some n => .ok n
  | none => .error (.overflow "sum")

/-- The total of one value. -/
def totalOf (value : Value) : Except EvalError Int :=
  match value.total? with
  | some n => .ok n
  | none => .error (.overflow "sum")

/-- The values of the places whose ids start with the given text, in order of the ids. -/
def matching (places : Dictionary Value) (start : String) : List Value :=
  (places.filter fun place => start.toList.isPrefixOf place.1.toList).map (·.2)

/-- Whether the total of a value is other than zero, or too large to tell. -/
def isNonZero (value : Value) : Bool := value.total? != some 0

/-- The number of entries, items or scalars in a value that are not zero. -/
def nonZeroEntries : Value → Nat
  | .map entries => (entries.filter fun entry => isNonZero entry.2).length
  | .list items => (items.filter isNonZero).length
  | scalar => if isNonZero scalar then 1 else 0

/-- The least element of a list of integers, zero if there is none. -/
def leastOf : List Int → Int
  | [] => 0
  | n :: ns => ns.foldl min n

/-- The greatest element of a list of integers, zero if there is none. -/
def greatestOf : List Int → Int
  | [] => 0
  | n :: ns => ns.foldl max n

/-- The five aggregates over a snapshot, which maps place ids in order to their values. -/
def aggregates (places : Dictionary Value) : FunctionTable :=
  [("sum", .aggregate fun start => do
      return .int (← sumOfTotals (matching places start))),
   ("count", .aggregate fun start =>
      .ok (.int (Number.total ((matching places start).map nonZeroEntries)))),
   ("tokens", .aggregate fun id =>
      match Dictionary.get? id places with
      | none => .error (.unknownIdentifier id)
      | some value => do return .int (← totalOf value)),
   ("min", .aggregate fun start => do
      return .int (leastOf (← (matching places start).mapM totalOf))),
   ("max", .aggregate fun start => do
      return .int (greatestOf (← (matching places start).mapM totalOf)))]

end GuardedNet.Guard
