import GuardedNet.Guard.Eval

/-!
# Clauses of a guard

A guard is a conjunction of clauses, which are taken off a stack of terms one after the other.
Each clause has a message for the case that it fails, guessed from its shape.
-/

namespace GuardedNet.Guard

namespace Term

/-- The number of operators that join clauses at the top of a term, and one for the term. -/
def joints : Term → Nat
  | .binary .and lhs rhs => lhs.joints + rhs.joints + 1
  | _ => 1

/-- The joints of all terms of a stack. -/
def jointsOf : List Term → Nat
  | [] => 0
  | t :: pending => t.joints + jointsOf pending

/-- Empties a stack of pending terms from its top, and adds the clauses found to those found
before, newest first. In place of a conjunction its sides go on the stack, the left one on top. -/
def splitPending (clauses : List Term) : List Term → List Term
  | [] => clauses.reverse
  | .binary .and lhs rhs :: pending => splitPending clauses (lhs :: rhs :: pending)
  | t :: pending => splitPending (t :: clauses) pending
termination_by pending => jointsOf pending
decreasing_by
  · simp only [jointsOf, joints]
    omega
  · have positive : 0 < t.joints := by
      unfold joints
      split <;> omega
    simp only [jointsOf]
    omega

/-- The clauses of a conjunction, from left to right. -/
def conjuncts (t : Term) : List Term := splitPending [] [t]

mutual

/-- Whether a term mentions the identifier `caller`. -/
def mentionsCaller : Term → Bool
  | .ident name => name == "caller"
  | .binary _ lhs rhs => lhs.mentionsCaller || rhs.mentionsCaller
  | .unary _ operand => operand.mentionsCaller
  | .index target position => target.mentionsCaller || position.mentionsCaller
  | .field target _ => target.mentionsCaller
  | .call _ args => anyMentionsCaller args
  | .int _ | .str _ | .bool _ => false

/-- Whether one of the terms mentions the identifier `caller`. -/
def anyMentionsCaller : List Term → Bool
  | [] => false
  | t :: ts => t.mentionsCaller || anyMentionsCaller ts

end

/-- The call `address(0)`. -/
def isZeroAddress (t : Term) : Bool := decide (t = .call "address" [.int 0])

/-- The message of a clause whose shape says nothing more. -/
def plainFailure (t : Term) : String := "precondition failed: " ++ t.render

/-- The message for the case that a clause fails. -/
def failureMessage (t : Term) : String :=
  match t with
  | .binary op lhs rhs =>
    let root := (Text.lowerAscii (lhs.rootIdent?.getD "")).toList
    match op with
    | .ge | .gt =>
      if Text.occursIn "allowance".toList root then "insufficient allowance"
      else if Text.occursIn "balance".toList root then "insufficient balance"
      else plainFailure t
    | .eq =>
      if lhs.mentionsCaller || rhs.mentionsCaller then "unauthorized" else plainFailure t
    | .ne =>
      if lhs.isZeroAddress || rhs.isZeroAddress then "invalid address" else plainFailure t
    | _ => plainFailure t
  | _ => plainFailure t

/-- The clauses of a guard with their messages. -/
def preconditions (t : Term) : List (Term × String) :=
  t.conjuncts.map fun clause => (clause, clause.failureMessage)

end Term

end GuardedNet.Guard
