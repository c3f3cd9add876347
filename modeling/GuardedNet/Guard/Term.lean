import GuardedNet.Value

/-!
# Terms of the guard language

Guards and invariants as trees, their height, and the text that shows them.
-/

namespace GuardedNet.Guard

/-- The operators between two operands. -/
inductive BinaryOp where
  | or | and
  | eq | ne | lt | le | gt | ge
  | add | sub
  | mul | div | rem
deriving DecidableEq, Repr, Inhabited

/-- How tightly an operator binds; a greater number binds tighter. -/
def BinaryOp.precedence : BinaryOp → Nat
  | .or => 1
  | .and => 2
  | .eq | .ne | .lt | .le | .gt | .ge => 3
  | .add | .sub => 4
  | .mul | .div | .rem => 5

/-- The sign of an operator. -/
def BinaryOp.symbol : BinaryOp → String
  | .or => "||"
  | .and => "&&"
  | .eq => "=="
  | .ne => "!="
  | .lt => "<"
  | .le => "<="
  | .gt => ">"
  | .ge => ">="
  | .add => "+"
  | .sub => "-"
  | .mul => "*"
  | .div => "/"
  | .rem => "%"

/-- The operators in front of one operand. -/
inductive UnaryOp where
  | not | neg
deriving DecidableEq, Repr, Inhabited

/-- The sign of an operator. -/
def UnaryOp.symbol : UnaryOp → String
  | .not => "!"
  | .neg => "-"

/-- A term of the guard language. -/
inductive Term where
  | binary (op : BinaryOp) (lhs rhs : Term)
  | unary (op : UnaryOp) (operand : Term)
  | ident (name : String)
  | int (n : Int)
  | str (s : String)
  | bool (b : Bool)
  | index (target position : Term)
  | field (target : Term) (name : String)
  | call (name : String) (args : List Term)
deriving Inhabited

/-- The greatest height of a term that the language admits. -/
def maxDepth : Nat := 128

namespace Term

mutual

/-- The number of nodes on the longest way from the root to a leaf. -/
def height : Term → Nat
  | .binary _ lhs rhs => max lhs.height rhs.height + 1
  | .unary _ operand => operand.height + 1
  | .index target position => max target.height position.height + 1
  | .field target _ => target.height + 1
  | .call _ args => heightAll args + 1
  | .ident _ | .int _ | .str _ | .bool _ => 1

/-- The greatest height among `terms`, zero if there are none. -/
def heightAll : List Term → Nat
  | [] => 0
  | t :: ts => max t.height (heightAll ts)

end

/-- The identifier that a chain of index and field accesses starts from. -/
def rootIdent? : Term → Option String
  | .ident name => some name
  | .index target _ => target.rootIdent?
  | .field target _ => target.rootIdent?
  | _ => none

/-! ### Equality -/

mutual

/-- Equality of terms as a Boolean. -/
def same : Term → Term → Bool
  | .binary o a b, .binary o' a' b' => o == o' && same a a' && same b b'
  | .unary o a, .unary o' a' => o == o' && same a a'
  | .ident a, .ident b => a == b
  | .int a, .int b => a == b
  | .str a, .str b => a == b
  | .bool a, .bool b => a == b
  | .index a b, .index a' b' => same a a' && same b b'
  | .field a n, .field a' n' => n == n' && same a a'
  | .call n as, .call n' as' => n == n' && sameAll as as'
  | _, _ => false

/-- Equality of lists of terms as a Boolean. -/
def sameAll : List Term → List Term → Bool
  | [], [] => true
  | a :: as, b :: bs => same a b && sameAll as bs
  | _, _ => false

end

mutual

theorem same_iff : ∀ a b : Term, same a b = true ↔ a = b
  | .binary o l r, b => by cases b <;> simp [same, same_iff l, same_iff r, and_assoc]
  | .unary o l, b => by cases b <;> simp [same, same_iff l]
  | .ident a, b => by cases b <;> simp [same]
  | .int a, b => by cases b <;> simp [same]
  | .str a, b => by cases b <;> simp [same]
  | .bool a, b => by cases b <;> simp [same]
  | .index l r, b => by cases b <;> simp [same, same_iff l, same_iff r]
  | .field l n, b => by cases b <;> simp [same, same_iff l, and_comm]
  | .call n as, b => by cases b <;> simp [same, sameAll_iff as]

theorem sameAll_iff : ∀ as bs : List Term, sameAll as bs = true ↔ as = bs
  | [], bs => by cases bs <;> simp [sameAll]
  | a :: as, bs => by cases bs <;> simp [sameAll, same_iff a, sameAll_iff as]

end

instance : DecidableEq Term := fun a b => decidable_of_iff _ (same_iff a b)

/-! ### Text -/

/-- One character of a text literal. -/
def escapeChar (c : Char) : List Char :=
  if c == '"' then ['\\', '"']
  else if c == '\\' then ['\\', '\\']
  else if c == '\n' then ['\\', 'n']
  else if c == '\t' then ['\\', 't']
  else [c]

/-- A text literal. -/
def literalChars (cs : List Char) : List Char := '"' :: (cs.flatMap escapeChar ++ ['"'])

mutual

/-- The characters that show a term; every operation between two operands is in
parentheses. -/
def chars : Term → List Char
  | .binary op lhs rhs =>
    '(' :: (lhs.chars ++ ' ' :: (op.symbol.toList ++ ' ' :: (rhs.chars ++ [')'])))
  | .unary op operand => op.symbol.toList ++ operand.chars
  | .ident name => name.toList
  | .int n => Number.intChars n
  | .str s => literalChars s.toList
  | .bool true => ['t', 'r', 'u', 'e']
  | .bool false => ['f', 'a', 'l', 's', 'e']
  | .index target position => target.chars ++ '[' :: (position.chars ++ [']'])
  | .field target name => target.chars ++ '.' :: name.toList
  | .call name args => name.toList ++ '(' :: (argChars args ++ [')'])

/-- The characters of arguments, with commas between them. -/
def argChars : List Term → List Char
  | [] => []
  | [arg] => arg.chars
  | arg :: rest => arg.chars ++ ',' :: ' ' :: argChars rest

end

/-- The text that shows a term. -/
def render (t : Term) : String := String.ofList t.chars

end Term

end GuardedNet.Guard
