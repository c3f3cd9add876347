import GuardedNet.Proofs.Guard.Evaluation
import GuardedNet.Proofs.Outcome

/-!
# Checked and exact arithmetic

Terms compute with bounded integers and fail where a result leaves the bounds. Main statement: an
arithmetical term has a value exactly if all its operations can be carried out on the exact
integers within the bounds, and its value is then the exact one; else the first operation that
cannot be carried out is reported (`Term.eval_arithmetical`).
-/

namespace GuardedNet

/-! ### Bounds of quotients and remainders -/

namespace Number

variable {l : Int} (fits : Fits l)
include fits

/-- A quotient leaves the bounds only if the least integer is divided by minus one. -/
theorem fits_tdiv_iff {r : Int} (nonzero : r ≠ 0) :
    Fits (l.tdiv r) ↔ ¬(l = least ∧ r = -1) := by
  unfold Fits least greatest at *
  by_cases minus : r = -1
  · rw [minus, Int.tdiv_neg, Int.tdiv_one]
    omega
  · have size : (l.tdiv r).natAbs = l.natAbs / r.natAbs := Int.natAbs_tdiv l r
    rcases Nat.lt_or_ge r.natAbs 2 with one | many
    · obtain rfl : r = 1 := by omega
      rw [Int.tdiv_one]
      omega
    · have half : l.natAbs / r.natAbs ≤ l.natAbs / 2 := Nat.div_le_div_left many (by decide)
      omega

/-- A remainder lies between zero and the dividend. -/
theorem fits_tmod (r : Int) : Fits (l.tmod r) := by
  unfold Fits least greatest at *
  have size : (l.tmod r).natAbs ≤ l.natAbs := by
    rw [Int.natAbs_tmod]
    exact Nat.mod_le ..
  rcases Int.le_total 0 l with nonneg | nonpos
  · have := Int.tmod_nonneg r nonneg
    omega
  · have := Int.tmod_nonneg r (Int.neg_nonneg_of_nonpos nonpos)
    rw [Int.neg_tmod] at this
    omega

end Number

namespace Guard

/-! ### One operation -/

theorem bounded_of_fits {n : Int} (fits : Number.Fits n) (op : String) :
    bounded op n = .ok (.int n) := by
  rw [bounded, Number.fit?, if_pos fits]

theorem bounded_of_not_fits {n : Int} (beyond : ¬Number.Fits n) (op : String) :
    bounded op n = .error (.overflow op) := by
  rw [bounded, Number.fit?, if_neg beyond]

namespace BinaryOp

/-- The operators that compute an integer from two integers. -/
def isArithmetic : BinaryOp → Bool
  | .add | .sub | .mul | .div | .rem => true
  | _ => false

/-- The operators that divide. -/
def divides : BinaryOp → Bool
  | .div | .rem => true
  | _ => false

/-- The exact result of an arithmetic operator. Division goes toward zero. -/
def exact : BinaryOp → Int → Int → Int
  | .add, l, r => l + r
  | .sub, l, r => l - r
  | .mul, l, r => l * r
  | .div, l, r => l.tdiv r
  | .rem, l, r => l.tmod r
  | _, _, _ => 0

/-- An arithmetic operator can be carried out: it does not divide by zero, the exact result lies
within the bounds, and it is not the remainder of the least integer by minus one. -/
structure Defined (op : BinaryOp) (l r : Int) : Prop where
  divisor : op.divides = true → r ≠ 0
  fits : Number.Fits (op.exact l r)
  remainder : ¬(op = .rem ∧ l = Number.least ∧ r = -1)

/-- The error of an arithmetic operator that cannot be carried out, by its right operand. -/
def fault (op : BinaryOp) (r : Int) : EvalError :=
  if op.divides = true ∧ r = 0 then .divisionByZero op.symbol else .overflow op.symbol

section Apply

variable {op : BinaryOp} {left right : Value} {l r : Int}

/-- A quotient or remainder can be carried out unless the divisor is zero or the least integer is
divided by minus one. -/
theorem defined_iff_of_divides (divides : op.divides = true) (fits : Number.Fits l) :
    op.Defined l r ↔ r ≠ 0 ∧ ¬(l = Number.least ∧ r = -1) := by
  constructor
  · rintro ⟨divisor, within, remainder⟩
    refine ⟨divisor divides, fun extreme => ?_⟩
    cases op with
    | div => exact (Number.fits_tdiv_iff fits (divisor rfl)).1 within extreme
    | rem => exact remainder ⟨rfl, extreme⟩
    | _ => cases divides
  · rintro ⟨nonzero, regular⟩
    refine ⟨fun _ => nonzero, ?_, fun extreme => regular extreme.2⟩
    cases op with
    | div => exact (Number.fits_tdiv_iff fits nonzero).2 regular
    | rem => exact Number.fits_tmod fits r
    | _ => cases divides

/-- The other operators can be carried out if the result lies within the bounds. -/
theorem defined_iff_of_not_divides (other : op.divides = false) :
    op.Defined l r ↔ Number.Fits (op.exact l r) := by
  refine ⟨Defined.fits, fun fits => ⟨fun divides => ?_, fits, fun extreme => ?_⟩⟩
  · rw [other] at divides
    cases divides
  · rw [extreme.1] at other
    cases other

variable (viewLeft : left.asInt? = some l) (viewRight : right.asInt? = some r)
include viewLeft viewRight

theorem apply_eq_divideValues (divides : op.divides = true) :
    op.apply left right =
      if r = 0 then .error (.divisionByZero op.symbol)
      else if l = Number.least ∧ r = -1 then .error (.overflow op.symbol)
      else .ok (.int (op.exact l r)) := by
  cases op with
  | div | rem =>
    rw [apply, divideValues, intOperands_eq_ok _ viewLeft viewRight]
    rfl
  | _ => cases divides

theorem apply_eq_bounded (arithmetic : op.isArithmetic = true) (other : op.divides = false) :
    op.apply left right = bounded op.symbol (op.exact l r) := by
  cases op with
  | add => exact addValues_eq_bounded viewLeft viewRight
  | sub | mul =>
    rw [apply, intOperands_eq_ok _ viewLeft viewRight]
    rfl
  | div | rem => cases other
  | _ => cases arithmetic

variable (arithmetic : op.isArithmetic = true) (fitsLeft : Number.Fits l)
include arithmetic fitsLeft

/-- An operator that can be carried out yields the exact result. -/
theorem apply_of_defined (defined : op.Defined l r) :
    op.apply left right = .ok (.int (op.exact l r)) := by
  cases divides : op.divides with
  | true =>
    obtain ⟨nonzero, regular⟩ := (defined_iff_of_divides divides fitsLeft).1 defined
    rw [apply_eq_divideValues viewLeft viewRight divides, if_neg nonzero, if_neg regular]
  | false =>
    rw [apply_eq_bounded viewLeft viewRight arithmetic divides, bounded_of_fits defined.fits]

theorem apply_of_not_defined (undefined : ¬op.Defined l r) :
    op.apply left right = .error (op.fault r) := by
  cases divides : op.divides with
  | true =>
    rw [apply_eq_divideValues viewLeft viewRight divides, fault, divides]
    by_cases zero : r = 0
    · rw [if_pos zero, if_pos ⟨rfl, zero⟩]
    · have extreme : l = Number.least ∧ r = -1 := Decidable.byContradiction fun regular =>
        undefined ((defined_iff_of_divides divides fitsLeft).2 ⟨zero, regular⟩)
      rw [if_neg zero, if_pos extreme, if_neg fun both => zero both.2]
  | false =>
    rw [defined_iff_of_not_divides divides] at undefined
    rw [apply_eq_bounded viewLeft viewRight arithmetic divides, bounded_of_not_fits undefined,
      fault, divides, if_neg fun both => Bool.false_ne_true both.1]

end Apply

end BinaryOp

theorem UnaryOp.apply_neg {value : Value} {n : Int} (view : value.asInt? = some n) :
    UnaryOp.neg.apply value = bounded "-" (-n) := by
  rw [apply, view]

/-! ### Terms -/

namespace Term

/-- The term is made of integers, of names that are bound to integers or texts that hold them, and
of minus signs and arithmetic operators. The integers lie within the bounds. -/
def Arithmetical (bindings : Dictionary Value) : Term → Prop
  | .int n => Number.Fits n
  | .ident name => ∃ value n, Dictionary.get? name bindings = some value ∧
      value.asInt? = some n ∧ Number.Fits n
  | .unary .neg operand => operand.Arithmetical bindings
  | .binary op lhs rhs =>
    op.isArithmetic = true ∧ lhs.Arithmetical bindings ∧ rhs.Arithmetical bindings
  | _ => False

/-- The value of an arithmetical term in integers without bounds. -/
def exact (bindings : Dictionary Value) : Term → Int
  | .int n => n
  | .ident name => ((Dictionary.get? name bindings).bind Value.asInt?).getD 0
  | .unary _ operand => -operand.exact bindings
  | .binary op lhs rhs => op.exact (lhs.exact bindings) (rhs.exact bindings)
  | _ => 0

/-- The terms inside a term, and itself, that an operator or sign is at the top of: from left to
right, each after its operands. -/
def operations : Term → List Term
  | .unary op operand => operand.operations ++ [.unary op operand]
  | .binary op lhs rhs => lhs.operations ++ (rhs.operations ++ [.binary op lhs rhs])
  | _ => []

/-- The operator or sign at the top of a term can be carried out on the exact operands. -/
def Defined (bindings : Dictionary Value) : Term → Prop
  | .unary _ operand => Number.Fits (-operand.exact bindings)
  | .binary op lhs rhs => op.Defined (lhs.exact bindings) (rhs.exact bindings)
  | _ => True

/-- The error of a term whose top operator or sign cannot be carried out. -/
def fault (bindings : Dictionary Value) : Term → EvalError
  | .binary op _ rhs => op.fault (rhs.exact bindings)
  | _ => .overflow "-"

/-- The value is the exact one, and all operations can be carried out. -/
structure Computes (bindings : Dictionary Value) (t : Term) (value : Value) : Prop where
  view : value.asInt? = some (t.exact bindings)
  fits : Number.Fits (t.exact bindings)
  defined : ∀ node ∈ t.operations, node.Defined bindings

/-- The error is that of the first operation that cannot be carried out. -/
def Faults (bindings : Dictionary Value) (t : Term) (cause : EvalError) : Prop :=
  ∃ node, FirstFailing (Defined bindings) t.operations node ∧ cause = node.fault bindings

variable {scope : Scope}

theorem ends_ident {name : String} (arithmetical : (Term.ident name).Arithmetical scope.bindings)
    (room : Nat) :
    Ends (Computes scope.bindings (.ident name)) (Faults scope.bindings (.ident name))
      ((Term.ident name).evalWithin scope (room + 1)) := by
  obtain ⟨value, n, bound, view, fits⟩ := arithmetical
  have same : (Term.ident name).exact scope.bindings = n := by
    rw [exact, bound, Option.bind_some, view, Option.getD_some]
  rw [evalWithin, bound]
  exact ⟨same ▸ view, same ▸ fits, fun _ member => absurd member List.not_mem_nil⟩

/-- The step for a sign, from what its operand's evaluation ends in. -/
theorem ends_neg {operand : Term} {room : Nat}
    (ends : Ends (Computes scope.bindings operand) (Faults scope.bindings operand)
      (operand.evalWithin scope room)) :
    Ends (Computes scope.bindings (.unary .neg operand))
      (Faults scope.bindings (.unary .neg operand))
      ((Term.unary .neg operand).evalWithin scope (room + 1)) := by
  rw [evalWithin]
  refine Ends.bind (ends.imp (fun _ computes => computes) ?_) fun value computes => ?_
  · rintro cause ⟨node, first, same⟩
    exact ⟨node, FirstFailing.append_iff.2 (Or.inl first), same⟩
  rw [UnaryOp.apply_neg computes.view]
  by_cases fits : Number.Fits (-operand.exact scope.bindings)
  · rw [bounded_of_fits fits]
    refine ⟨rfl, fits, List.forall_mem_append.2 ⟨computes.defined, ?_⟩⟩
    exact List.forall_mem_singleton.2 fits
  · rw [bounded_of_not_fits fits]
    exact ⟨.unary .neg operand, ⟨_, [], rfl, computes.defined, fits⟩, rfl⟩

/-- The step for an operator, from what its operands' evaluations end in. -/
theorem ends_binary {op : BinaryOp} (arithmetic : op.isArithmetic = true) {lhs rhs : Term}
    {room : Nat}
    (endsLeft : Ends (Computes scope.bindings lhs) (Faults scope.bindings lhs)
      (lhs.evalWithin scope room))
    (endsRight : Ends (Computes scope.bindings rhs) (Faults scope.bindings rhs)
      (rhs.evalWithin scope room)) :
    Ends (Computes scope.bindings (.binary op lhs rhs)) (Faults scope.bindings (.binary op lhs rhs))
      ((Term.binary op lhs rhs).evalWithin scope (room + 1)) := by
  have notAnd : op ≠ .and := by
    rintro rfl
    cases arithmetic
  have notOr : op ≠ .or := by
    rintro rfl
    cases arithmetic
  rw [evalWithin_binary notAnd notOr]
  refine Ends.bind (endsLeft.imp (fun _ computes => computes) ?_) fun left computesLeft => ?_
  · rintro cause ⟨node, first, same⟩
    exact ⟨node, FirstFailing.append_iff.2 (Or.inl first), same⟩
  refine Ends.bind (endsRight.imp (fun _ computes => computes) ?_) fun right computesRight => ?_
  · rintro cause ⟨node, first, same⟩
    refine ⟨node, FirstFailing.append_iff.2 (Or.inr ⟨computesLeft.defined, ?_⟩), same⟩
    exact FirstFailing.append_iff.2 (Or.inl first)
  by_cases defined : op.Defined (lhs.exact scope.bindings) (rhs.exact scope.bindings)
  · rw [BinaryOp.apply_of_defined computesLeft.view computesRight.view arithmetic computesLeft.fits
      defined]
    refine ⟨rfl, defined.fits, List.forall_mem_append.2 ⟨computesLeft.defined, ?_⟩⟩
    exact List.forall_mem_append.2
      ⟨computesRight.defined, List.forall_mem_singleton.2 defined⟩
  · rw [BinaryOp.apply_of_not_defined computesLeft.view computesRight.view arithmetic
      computesLeft.fits defined]
    refine ⟨.binary op lhs rhs, ⟨lhs.operations ++ rhs.operations, [], ?_, ?_, defined⟩, rfl⟩
    · exact (List.append_assoc ..).symm
    · exact List.forall_mem_append.2 ⟨computesLeft.defined, computesRight.defined⟩

/-- With room for its height, an arithmetical term yields its exact value or reports the first
operation that cannot be carried out. -/
theorem ends_evalWithin :
    ∀ (t : Term) {room : Nat}, t.Arithmetical scope.bindings → t.height ≤ room →
      Ends (Computes scope.bindings t) (Faults scope.bindings t) (t.evalWithin scope room)
  | t, 0, _, low => absurd t.height_pos (Nat.not_lt.2 low)
  | .int n, room + 1, arithmetical, _ => by
    rw [evalWithin]
    exact ⟨rfl, arithmetical, fun _ member => absurd member List.not_mem_nil⟩
  | .ident name, room + 1, arithmetical, _ => ends_ident arithmetical room
  | .unary .neg operand, room + 1, arithmetical, low => by
    rw [height] at low
    exact ends_neg (ends_evalWithin operand arithmetical (Nat.le_of_succ_le_succ low))
  | .binary op lhs rhs, room + 1, arithmetical, low => by
    rw [height] at low
    obtain ⟨arithmetic, left, right⟩ := arithmetical
    exact ends_binary arithmetic (ends_evalWithin lhs left (by omega))
      (ends_evalWithin rhs right (by omega))

/-- An arithmetical term of at most the greatest height has a value exactly if each of its
operations can be carried out on the exact integers, and its integer view is then the exact value.
Else the error is that of the first operation, from left to right and each after its operands, that
cannot be carried out. -/
theorem eval_arithmetical {t : Term} (arithmetical : t.Arithmetical scope.bindings)
    (low : t.height ≤ maxDepth) :
    ((∃ value, t.eval scope = .ok value) ↔ ∀ node ∈ t.operations, node.Defined scope.bindings) ∧
      (∀ value, t.eval scope = .ok value → value.asInt? = some (t.exact scope.bindings)) ∧
      ∀ cause, t.eval scope = .error cause ↔
        ∃ node, FirstFailing (Defined scope.bindings) t.operations node ∧
          cause = node.fault scope.bindings := by
  have ends : Ends (Computes scope.bindings t) (Faults scope.bindings t) (t.eval scope) :=
    ends_evalWithin t arithmetical low
  cases outcome : t.eval scope with
  | ok value =>
    rw [outcome] at ends
    refine ⟨⟨fun _ => ends.defined, fun _ => ⟨value, rfl⟩⟩, ?_, fun cause => ⟨nofun, ?_⟩⟩
    · rintro _ ⟨⟩
      exact ends.view
    · rintro ⟨node, first, -⟩
      exact absurd ends.defined first.not_forall
  | error own =>
    rw [outcome] at ends
    obtain ⟨node, first, same⟩ := ends
    refine ⟨⟨nofun, fun defined => absurd defined first.not_forall⟩, nofun, fun cause => ⟨?_, ?_⟩⟩
    · rintro ⟨⟩
      exact ⟨node, first, same⟩
    · rintro ⟨node', first', rfl⟩
      rw [same, first.unique first']

/-- A quotient that leaves the bounds is reported, and not the remainder by zero right of it. -/
theorem eval_arithmetical_least :
    let t : Term := .binary .sub (.binary .div (.ident "debt") (.ident "sign"))
      (.binary .rem (.int 7) (.unary .neg (.int 0)))
    let scope : Scope := ⟨[("debt", .int Number.least), ("sign", .str " -1")], []⟩
    t.Arithmetical scope.bindings ∧ t.height ≤ maxDepth ∧
      t.eval scope = .error (.overflow "/") := by
  intro t scope
  have seven : Number.Fits 7 := by decide
  have zero : Number.Fits 0 := by decide
  have arithmetical : t.Arithmetical scope.bindings :=
    ⟨rfl, ⟨rfl, ⟨.int Number.least, Number.least, rfl, rfl, by decide⟩,
      ⟨.str " -1", -1, rfl, rfl, by decide⟩⟩, rfl, seven, zero⟩
  have low : t.height ≤ maxDepth := by decide
  refine ⟨arithmetical, low, ((eval_arithmetical arithmetical low).2.2 _).2
    ⟨.binary .div (.ident "debt") (.ident "sign"), ?_, rfl⟩⟩
  refine ⟨[], _, rfl, fun _ member => absurd member List.not_mem_nil, fun defined => ?_⟩
  have beyond : ¬Number.Fits (Number.least.tdiv (-1)) := by decide
  exact beyond defined.fits

end Term

end Guard

end GuardedNet
