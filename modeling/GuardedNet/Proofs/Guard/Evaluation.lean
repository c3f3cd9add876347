import GuardedNet.Guard.Eval
import GuardedNet.Proofs.Guard.Completeness

/-!
# How terms are evaluated

What an operator does with operands that have integer views, and the value of a term by the values
of its parts. Main statement: room beyond the height of a term does not change its value
(`Term.evalWithin_of_le`).
-/

namespace GuardedNet.Guard

/-! ### Integer views -/

theorem intOperands_eq_ok {left right : Value} {l r : Int} (op : BinaryOp)
    (viewLeft : left.asInt? = some l) (viewRight : right.asInt? = some r) :
    intOperands op left right = .ok (l, r) := by
  rw [intOperands, viewLeft, viewRight]

/-- Two texts that hold integers are added and not joined. -/
theorem addValues_eq_bounded {left right : Value} {l r : Int} (viewLeft : left.asInt? = some l)
    (viewRight : right.asInt? = some r) : addValues left right = bounded "+" (l + r) := by
  unfold addValues
  split
  · rw [viewLeft, viewRight]
  · rw [intOperands_eq_ok .add viewLeft viewRight]
    rfl

namespace Term

/-! ### Operators -/

/-- The truth value of a term, as the operator with the given sign asks for it. -/
def truthWithin (sign : String) (scope : Scope) (room : Nat) (t : Term) :
    Except EvalError Bool := do
  let value ← t.evalWithin scope room
  requireBool sign value

/-- An operator other than the two logical ones is applied to the values of both operands. -/
theorem evalWithin_binary {op : BinaryOp} (notAnd : op ≠ .and) (notOr : op ≠ .or)
    (scope : Scope) (room : Nat) (lhs rhs : Term) :
    (Term.binary op lhs rhs).evalWithin scope (room + 1) =
      lhs.evalWithin scope room >>= fun l =>
        rhs.evalWithin scope room >>= fun r => op.apply l r := by
  rw [evalWithin]
  · exact notAnd
  · exact notOr

/-- A conjunction asks for its right side if its left side is true. -/
theorem evalWithin_and (scope : Scope) (room : Nat) (lhs rhs : Term) :
    (Term.binary .and lhs rhs).evalWithin scope (room + 1) = do
      if ← lhs.truthWithin "&&" scope room then
        return .bool (← rhs.truthWithin "&&" scope room)
      else return .bool false := by
  rw [evalWithin, truthWithin, truthWithin, bind_assoc, bind_assoc]

/-- A disjunction asks for its right side if its left side is false. -/
theorem evalWithin_or (scope : Scope) (room : Nat) (lhs rhs : Term) :
    (Term.binary .or lhs rhs).evalWithin scope (room + 1) = do
      if ← lhs.truthWithin "||" scope room then return .bool true
      else return .bool (← rhs.truthWithin "||" scope room) := by
  rw [evalWithin, truthWithin, truthWithin, bind_assoc, bind_assoc]

/-! ### Room -/

mutual

/-- One level of room more than a term needs does not change its value. -/
theorem evalWithin_succ {scope : Scope} :
    ∀ (t : Term) {room : Nat}, t.height ≤ room →
      t.evalWithin scope (room + 1) = t.evalWithin scope room
  | t, 0, low => absurd t.height_pos (Nat.not_lt.2 low)
  | .binary op lhs rhs, room + 1, low => by
    rw [height] at low
    have left : lhs.evalWithin scope (room + 1) = lhs.evalWithin scope room :=
      lhs.evalWithin_succ (by omega)
    have right : rhs.evalWithin scope (room + 1) = rhs.evalWithin scope room :=
      rhs.evalWithin_succ (by omega)
    cases op
    case and | or => rw [evalWithin, evalWithin, left, right]
    all_goals
      rw [evalWithin_binary (by decide) (by decide), evalWithin_binary (by decide) (by decide),
        left, right]
  | .unary op operand, room + 1, low => by
    rw [height] at low
    rw [evalWithin, evalWithin, operand.evalWithin_succ (Nat.le_of_succ_le_succ low)]
  | .ident name, room + 1, _ => by rw [evalWithin, evalWithin]
  | .int n, room + 1, _ => by rw [evalWithin, evalWithin]
  | .str s, room + 1, _ => by rw [evalWithin, evalWithin]
  | .bool b, room + 1, _ => by rw [evalWithin, evalWithin]
  | .index target position, room + 1, low => by
    rw [height] at low
    rw [evalWithin, evalWithin, target.evalWithin_succ (by omega),
      position.evalWithin_succ (by omega)]
  | .field target name, room + 1, low => by
    rw [height] at low
    rw [evalWithin, evalWithin, target.evalWithin_succ (Nat.le_of_succ_le_succ low)]
  | .call name args, room + 1, low => by
    rw [height] at low
    rw [evalWithin, evalWithin, evalAll_succ args (Nat.le_of_succ_le_succ low)]
    split
    · rfl
    · split
      · rfl
      · rfl
      · rename_i arg _ _
        rw [heightAll, heightAll] at low
        rw [arg.evalWithin_succ (by omega)]
      · rfl
    · rfl

theorem evalAll_succ {scope : Scope} :
    ∀ (ts : List Term) {room : Nat}, heightAll ts ≤ room →
      evalAll scope (room + 1) ts = evalAll scope room ts
  | [], _, _ => by rw [evalAll, evalAll]
  | t :: ts, room, low => by
    rw [heightAll] at low
    rw [evalAll, evalAll, t.evalWithin_succ (by omega), evalAll_succ ts (by omega)]

end

/-- Room beyond the height of a term does not change its value. -/
theorem evalWithin_of_le {scope : Scope} {t : Term} {room more : Nat} (low : t.height ≤ room)
    (le : room ≤ more) : t.evalWithin scope more = t.evalWithin scope room := by
  induction le with
  | refl => rfl
  | step le ih => rw [evalWithin_succ t (Nat.le_trans low le), ih]

end Term

end GuardedNet.Guard
