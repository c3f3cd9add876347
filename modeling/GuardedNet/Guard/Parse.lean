import GuardedNet.Guard.Token

/-!
# Reading terms

The grammar, from the loosest to the tightest binding: `||`, `&&`, comparisons, sums,
products, the signs in front of an operand, then indexing, field access and calls. Operators
of one level associate to the left.

Every reader takes the room that is left, the number of further levels a term may have here,
and a bound on the calls below it, which `parseTokens` sets high enough for any list of tokens.
-/

namespace GuardedNet.Guard

/-- A term and the tokens after it. -/
abbrev Reading := Except ParseError (Term × List Token)

/-- Reads one level deeper, if there is room. -/
def nested (room : Nat) (read : Nat → Reading) : Reading :=
  match room with
  | 0 => .error .depthExceeded
  | room + 1 => read room

/-- Accepts a term whose height the room allows. -/
def fitting (room : Nat) (t : Term) : Except ParseError Term :=
  if t.height ≤ room then .ok t else .error .depthExceeded

/-- The tokens after a token that must be `kind`. -/
def expect (kind : TokenKind) (expected : Expected) : List Token → Except ParseError (List Token)
  | [] => .error (.unexpectedEnd expected)
  | t :: ts => if t.kind = kind then .ok ts else .error (.unexpectedToken t.kind t.pos expected)

mutual

/-- A term one level down. -/
def readExpression (bound room : Nat) (ts : List Token) : Reading :=
  match bound with
  | 0 => .error .depthExceeded
  | bound + 1 => nested room fun room => readBinary bound room 1 ts

/-- A chain of operands whose operators bind at least as tightly as `level`. -/
def readBinary (bound room level : Nat) (ts : List Token) : Reading :=
  match bound with
  | 0 => .error .depthExceeded
  | bound + 1 => do
    let (lhs, rest) ← readUnary bound room ts
    readChain bound room level lhs rest

/-- The rest of a chain after its left part. -/
def readChain (bound room level : Nat) (lhs : Term) (ts : List Token) : Reading :=
  match bound with
  | 0 => .error .depthExceeded
  | bound + 1 =>
    match ts with
    | ⟨.op o, _⟩ :: rest =>
      if o.precedence < level then .ok (lhs, ts)
      else do
        let (rhs, rest) ← nested room fun room => readBinary bound room (o.precedence + 1) rest
        let whole ← fitting room (.binary o lhs rhs)
        readChain bound room level whole rest
    | _ => .ok (lhs, ts)

/-- An operand with the signs in front of it. -/
def readUnary (bound room : Nat) (ts : List Token) : Reading :=
  match bound with
  | 0 => .error .depthExceeded
  | bound + 1 =>
    match ts with
    | ⟨.bang, _⟩ :: rest => do
      let (operand, rest) ← nested room fun room => readUnary bound room rest
      return (.unary .not operand, rest)
    | ⟨.op .sub, _⟩ :: rest => do
      let (operand, rest) ← nested room fun room => readUnary bound room rest
      return (.unary .neg operand, rest)
    | _ => do
      let (t, rest) ← readPrimary bound room ts
      readPostfix bound room t rest

/-- The accesses and calls after a term. -/
def readPostfix (bound room : Nat) (t : Term) (ts : List Token) : Reading :=
  match bound with
  | 0 => .error .depthExceeded
  | bound + 1 =>
    match ts with
    | ⟨.lbracket, _⟩ :: rest => do
      let (position, rest) ← readExpression bound room rest
      let rest ← expect .rbracket .closingBracket rest
      let whole ← fitting room (.index t position)
      readPostfix bound room whole rest
    | ⟨.dot, _⟩ :: ⟨.ident name, _⟩ :: rest => do
      let whole ← fitting room (.field t name)
      readPostfix bound room whole rest
    | ⟨.dot, _⟩ :: found :: _ => .error (.unexpectedToken found.kind found.pos .fieldName)
    | ⟨.dot, _⟩ :: [] => .error (.unexpectedEnd .fieldName)
    | ⟨.lparen, pos⟩ :: rest =>
      match t with
      | .ident name => do
        let (args, rest) ← readArguments bound room rest
        let whole ← fitting room (.call name args)
        readPostfix bound room whole rest
      | _ => .error (.notCallable pos)
    | _ => .ok (t, ts)

/-- The arguments of a call after its opening parenthesis. -/
def readArguments (bound room : Nat) (ts : List Token) :
    Except ParseError (List Term × List Token) :=
  match bound with
  | 0 => .error .depthExceeded
  | bound + 1 =>
    match ts with
    | ⟨.rparen, _⟩ :: rest => .ok ([], rest)
    | _ => readArgumentList bound room ts

/-- One argument and those after it. -/
def readArgumentList (bound room : Nat) (ts : List Token) :
    Except ParseError (List Term × List Token) :=
  match bound with
  | 0 => .error .depthExceeded
  | bound + 1 => do
    let (arg, rest) ← readExpression bound room ts
    match rest with
    | ⟨.comma, _⟩ :: rest => do
      let (args, rest) ← readArgumentList bound room rest
      return (arg :: args, rest)
    | ⟨.rparen, _⟩ :: rest => return ([arg], rest)
    | found :: _ => .error (.unexpectedToken found.kind found.pos .commaOrParen)
    | [] => .error (.unexpectedEnd .closingParen)

/-- A literal, an identifier or a term in parentheses. -/
def readPrimary (bound room : Nat) (ts : List Token) : Reading :=
  match bound with
  | 0 => .error .depthExceeded
  | bound + 1 =>
    match ts with
    | [] => .error (.unexpectedEnd .expression)
    | ⟨.int n, _⟩ :: rest => .ok (.int n, rest)
    | ⟨.str s, _⟩ :: rest => .ok (.str s, rest)
    | ⟨.bool b, _⟩ :: rest => .ok (.bool b, rest)
    | ⟨.ident name, _⟩ :: rest => .ok (.ident name, rest)
    | ⟨.lparen, _⟩ :: rest => do
      let (inner, rest) ← readExpression bound room rest
      let rest ← expect .rparen .closingParen rest
      return (inner, rest)
    | found :: _ => .error (.unexpectedToken found.kind found.pos .expression)

end

/-- The term that a list of tokens spells. Between two tokens there are at most six calls one
below the other, which sets the bound. -/
def parseTokens (ts : List Token) : Except ParseError Term := do
  let (t, rest) ← readExpression (6 * ts.length + 12) maxDepth ts
  match rest with
  | [] => return t
  | found :: _ => .error (.unexpectedToken found.kind found.pos .endOfExpression)

/-- The term that a text spells. -/
def parse (text : String) : Except ParseError Term := do
  let tokens ← tokenize text
  parseTokens tokens

end GuardedNet.Guard
