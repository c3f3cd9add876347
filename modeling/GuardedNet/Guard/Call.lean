import GuardedNet.Guard.Eval

/-!
# Calls made by an evaluation

The calls that evaluating a term makes, in order, each with the arguments it is made with. A
call counts once its arguments have their values, whatever the function then answers.
-/

namespace GuardedNet.Guard

/-- A call with its arguments; an aggregate has its text as the only one. -/
structure Call where
  name : String
  args : List Value
deriving DecidableEq, Inhabited

namespace Term

mutual

/-- The calls made while evaluating a term with at most `room` levels. -/
def callsWithin (scope : Scope) (room : Nat) (t : Term) : List Call :=
  match room with
  | 0 => []
  | room + 1 =>
    match t with
    | .binary op lhs rhs =>
      lhs.callsWithin scope room ++
        match op, lhs.evalWithin scope room with
        | .and, .ok (.bool true) => rhs.callsWithin scope room
        | .or, .ok (.bool false) => rhs.callsWithin scope room
        | .and, _ => []
        | .or, _ => []
        | _, .ok _ => rhs.callsWithin scope room
        | _, .error _ => []
    | .unary _ operand => operand.callsWithin scope room
    | .index target position =>
      target.callsWithin scope room ++
        match target.evalWithin scope room with
        | .ok _ => position.callsWithin scope room
        | .error _ => []
    | .field target _ => target.callsWithin scope room
    | .call name args =>
      match Dictionary.get? name scope.functions with
      | none => []
      | some (.aggregate _) =>
        match args with
        | [.ident start] => [⟨name, [.str start]⟩]
        | [.str start] => [⟨name, [.str start]⟩]
        | [arg] =>
          arg.callsWithin scope room ++
            match arg.evalWithin scope room with
            | .ok value =>
              match value.asKey? with
              | some start => [⟨name, [.str start]⟩]
              | none => []
            | .error _ => []
        | _ => []
      | some (.native _) =>
        callsAll scope room args ++
          match evalAll scope room args with
          | .ok values => [⟨name, values⟩]
          | .error _ => []
    | _ => []

/-- The calls made while evaluating terms from left to right. -/
def callsAll (scope : Scope) (room : Nat) : List Term → List Call
  | [] => []
  | t :: ts =>
    t.callsWithin scope room ++
      match t.evalWithin scope room with
      | .ok _ => callsAll scope room ts
      | .error _ => []

end

/-- The calls made while evaluating a term. -/
def calls (scope : Scope) (t : Term) : List Call := t.callsWithin scope maxDepth

end Term

/-- The calls made while evaluating a condition. -/
def Condition.calls (scope : Scope) (condition : Condition) : List Call :=
  match condition.term with
  | some t => t.calls scope
  | none => []

end GuardedNet.Guard
