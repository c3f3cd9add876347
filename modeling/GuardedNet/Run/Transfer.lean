import GuardedNet.Guard.Eval
import GuardedNet.Net.Basic

/-!
# Keyed transfers

An arc with keys adds an amount to one entry within a value: the keys lead through nested
maps, and entries that are missing on the way are created.
-/

namespace GuardedNet

/-- The amount that an arc moves: one, or what its value name is bound to. -/
def Arc.amount (arc : Arc) (bindings : Dictionary Value) : Except Guard.EvalError Int :=
  match arc.value with
  | none => .ok 1
  | some name =>
    match Dictionary.get? name bindings with
    | none => .error (.unknownIdentifier name)
    | some value =>
      match value.asInt? with
      | some n => .ok n
      | none => .error (.typeMismatch "transfer" ("expected int, found " ++ value.kind))

/-- The change that an arc makes: its amount, taken away by an arc to a transition. -/
def Arc.change (arc : Arc) (flow : Flow) (bindings : Dictionary Value) :
    Except Guard.EvalError Int := do
  let amount ← arc.amount bindings
  if flow.isInput then
    match Number.fit? (-amount) with
    | some n => .ok n
    | none => .error (.overflow "-")
  else .ok amount

/-- The map key that a key of an arc stands for: what it is bound to, or else itself. -/
def resolveKey (bindings : Dictionary Value) (key : String) : Except Guard.EvalError String :=
  match Dictionary.get? key bindings with
  | none => .ok key
  | some bound =>
    match bound.asKey? with
    | some key => .ok key
    | none => .error (.typeMismatch "index" ("cannot use " ++ bound.kind ++ " as a key"))

/-- What a missing entry counts as: an empty map if more keys follow, else zero. -/
def missingEntry (keys : List String) : Value :=
  if keys.isEmpty then .int 0 else .map []

/-- The value with `change` added to the entry that the keys lead to. An entry without an
integer view counts as zero. -/
def adjustEntry (bindings : Dictionary Value) (change : Int) :
    List String → Value → Except Guard.EvalError Value
  | [], value =>
    match Number.fit? (value.asInt?.getD 0 + change) with
    | some n => .ok (.int n)
    | none => .error (.overflow "+")
  | key :: keys, value => do
    let key ← resolveKey bindings key
    match value with
    | .map entries => do
      let slot := (Dictionary.get? key entries).getD (missingEntry keys)
      let slot ← adjustEntry bindings change keys slot
      return .map (Dictionary.write key slot entries)
    | other => .error (.typeMismatch "index" ("cannot index into " ++ other.kind))

end GuardedNet
