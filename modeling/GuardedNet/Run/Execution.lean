import GuardedNet.Guard.Call
import GuardedNet.Run.Marking
import GuardedNet.Run.Transfer

/-!
# Executions

An execution holds one marking of a net and the transitions that led to it. Firing works on a
copy of the marking; only when tokens, capacities, guard, transfers and invariants allow it
does the copy become the marking.
-/

namespace GuardedNet

/-- Why a transition does not fire. -/
inductive FireError where
  | unknownTransition (id : String)
  | notEnabled (id : String)
  | capacityExceeded (place : String) (after capacity : Int)
  | tokenOverflow (place : String)
  | guardParse (transition : String) (cause : Guard.ParseError)
  | guardEvaluation (transition : String) (cause : Guard.EvalError)
  | guardNotSatisfied (transition guard : String)
  | keyedTransfer (transition : String) (cause : Guard.EvalError)
  | invariantViolated (invariant expression : String)
  | invariantEvaluation (invariant : String) (cause : Guard.Error)
deriving DecidableEq, Inhabited

/-- The wording of an error. -/
def FireError.message : FireError → String
  | .unknownTransition id => "unknown transition `" ++ id ++ "`"
  | .notEnabled id => "transition `" ++ id ++ "` is not enabled under the current marking"
  | .capacityExceeded place after capacity =>
    "capacity exceeded at place `" ++ place ++ "`: " ++ Number.intText after ++ " > "
      ++ Number.intText capacity
  | .tokenOverflow place => "token count overflows at place `" ++ place ++ "`"
  | .guardParse transition cause =>
    "guard of `" ++ transition ++ "` does not parse: " ++ cause.message
  | .guardEvaluation transition cause =>
    "guard of `" ++ transition ++ "` cannot be evaluated: " ++ cause.message
  | .guardNotSatisfied transition guard =>
    "guard of `" ++ transition ++ "` is not satisfied: " ++ guard
  | .keyedTransfer transition cause =>
    "keyed arc of `" ++ transition ++ "` cannot be applied: " ++ cause.message
  | .invariantViolated invariant expression =>
    "invariant `" ++ invariant ++ "` violated after firing: " ++ expression
  | .invariantEvaluation invariant cause =>
    "invariant `" ++ invariant ++ "` cannot be evaluated: " ++ cause.message

namespace Net

/-! ### Token flow -/

/-- Whether every place has the tokens that a transition takes. -/
def enables (net : Net) (m : Marking) (transition : Nat) : Bool :=
  (List.zip m (net.plainConsumed.column transition)).all fun (cell, weight) =>
    decide ((weight : Int) ≤ cell.tokens)

/-- The marking without the tokens that a transition takes. -/
def take (net : Net) (m : Marking) (transition : Nat) : Marking :=
  List.zipWith (fun cell weight => { cell with tokens := cell.tokens - (weight : Nat) })
    m (net.plainConsumed.column transition)

/-- What a place holds after it is given tokens. -/
def giveTo (place : Place) (cell : Cell) (weight : Nat) : Except FireError Cell :=
  if weight = 0 then .ok cell
  else
    match Number.fit? (cell.tokens + weight) with
    | none => .error (.tokenOverflow place.id)
    | some after =>
      match place.capacity with
      | none => .ok { cell with tokens := after }
      | some capacity =>
        if capacity < after then .error (.capacityExceeded place.id after capacity)
        else .ok { cell with tokens := after }

/-- What the places hold after they are given tokens, from first to last. -/
def giveAll : List Place → Marking → List Nat → Except FireError Marking
  | place :: places, cell :: cells, weight :: weights => do
    let cell ← giveTo place cell weight
    let cells ← giveAll places cells weights
    return cell :: cells
  | _, _, _ => .ok []

/-- The marking after the tokens of a transition have moved, keys and guards left aside. -/
def flowTokens (net : Net) (m : Marking) (transition : Nat) : Except FireError Marking :=
  if net.enables m transition then
    giveAll net.places (net.take m transition) (net.plainProduced.column transition)
  else .error (.notEnabled (net.transitionId transition))

/-! ### Keyed arcs -/

/-- The keyed arcs of a transition in order. -/
def keyedArcs (net : Net) (transition : Nat) : List (Flow × Arc) :=
  (net.flows.zip net.arcs).filter fun (flow, _) => flow.keyed && flow.transition == transition

/-- The marking after one keyed arc. -/
def transfer (net : Net) (bindings : Dictionary Value) (m : Marking) (keyed : Flow × Arc) :
    Except Guard.EvalError Marking :=
  let (flow, arc) := keyed
  match m.data? flow.place with
  | none => .error (.typeMismatch "index" ("`" ++ net.placeId flow.place ++ "` holds no data"))
  | some value => do
    let change ← arc.change flow bindings
    let value ← adjustEntry bindings change arc.keys value
    return m.setData flow.place value

/-- The marking after keyed arcs, from first to last. -/
def transferAll (net : Net) (bindings : Dictionary Value) (m : Marking)
    (keyed : List (Flow × Arc)) : Except Guard.EvalError Marking :=
  keyed.foldlM (net.transfer bindings) m

/-- What the keyed arcs report, from first to last. -/
def transferJournal (net : Net) (bindings : Dictionary Value) (transition : Nat) :
    Marking → List (Flow × Arc) → Journal
  | _, [] => []
  | m, (flow, arc) :: rest =>
    match net.transfer bindings m (flow, arc), arc.change flow bindings with
    | .ok next, .ok change =>
      .debug ("`" ++ net.transitionId transition ++ "` moved " ++ Number.intText change
          ++ " through " ++ net.placeId flow.place ++ "[" ++ Text.joined "][" arc.keys ++ "]")
        :: transferJournal net bindings transition next rest
    | _, _ => []

/-! ### Conditions over a marking -/

/-- The names that conditions over a marking may use: the given bindings and functions first,
then the places, the aggregates over them and the functions for all guards. -/
def scope (net : Net) (m : Marking) (bindings : Dictionary Value)
    (functions : Guard.FunctionTable) : Guard.Scope :=
  let values := m.values net
  ⟨bindings ++ values, functions ++ (Guard.aggregates values ++ Guard.builtins)⟩

/-- The truth of a declared invariant in a marking. -/
def evalInvariant (net : Net) (m : Marking) (invariant : Invariant) : Except Guard.Error Bool :=
  match Guard.Condition.read invariant.expression with
  | .error cause => .error (.parse cause)
  | .ok condition =>
    match condition.evalBool (net.scope m [] []) with
    | .ok holds => .ok holds
    | .error cause => .error (.eval cause)

/-- Fails for the first declared invariant that is not true in a marking. -/
def checkInvariants (net : Net) (m : Marking) : List Invariant → Except FireError Unit
  | [] => .ok ()
  | invariant :: rest =>
    match net.evalInvariant m invariant with
    | .ok true => net.checkInvariants m rest
    | .ok false => .error (.invariantViolated invariant.id invariant.expression)
    | .error cause => .error (.invariantEvaluation invariant.id cause)

end Net

/-- A net with one of its markings, the number of firings and the transitions fired since the
start, and whether invariants are checked after firing. -/
structure Execution where
  net : Net
  marking : Marking
  sequence : Nat
  history : List Nat
  checksInvariants : Bool

namespace Execution

/-- The execution that has not fired yet. -/
def start (net : Net) (checksInvariants : Bool) : Execution :=
  ⟨net, Marking.initial net, 0, [], checksInvariants⟩

/-- The execution as it was at the start. -/
def reset (e : Execution) : Execution :=
  { e with marking := Marking.initial e.net, sequence := 0, history := [] }

/-- Fails unless the invariants that are to be checked hold in a marking. -/
def checkSuccessor (e : Execution) (m : Marking) : Except FireError Unit :=
  if e.checksInvariants then e.net.checkInvariants m e.net.document.invariants else .ok ()

/-- The marking that follows a marking by a transition, with the guard left aside. -/
def successor (e : Execution) (m : Marking) (transition : Nat) : Except FireError Marking := do
  let next ← e.net.flowTokens m transition
  e.checkSuccessor next
  return next

/-- The position of a transition. -/
def lookup (e : Execution) (id : String) : Except FireError Nat :=
  match e.net.transitionIndex? id with
  | some index => .ok index
  | none => .error (.unknownTransition id)

/-- The execution after a transition has led to a marking. -/
def commit (e : Execution) (transition : Nat) (next : Marking) : Execution :=
  { e with
    marking := next
    sequence := e.sequence + 1
    history := e.history ++ [transition] }

/-- Whether the transition with the given id is enabled; an unknown one is not. -/
def enabled (e : Execution) (id : String) : Bool :=
  match e.net.transitionIndex? id with
  | some index => e.net.enables e.marking index
  | none => false

/-- The positions of the enabled transitions. -/
def enabledTransitions (e : Execution) : List Nat :=
  (List.range e.net.transitions.length).filter fun t => e.net.enables e.marking t

/-- The ids of the transitions fired since the start. -/
def historyIds (e : Execution) : List String := e.history.map e.net.transitionId

/-- Fires a transition by its tokens alone. -/
def fire (e : Execution) (id : String) : Except FireError Execution := do
  let t ← e.lookup id
  let next ← e.successor e.marking t
  return e.commit t next

/-- Fails unless the guard of a transition holds. -/
def checkGuard (e : Execution) (t : Nat) (bindings : Dictionary Value)
    (functions : Guard.FunctionTable) : Except FireError Unit :=
  match e.net.transitions[t]? with
  | none => .ok ()
  | some transition =>
    match transition.guardTerm with
    | .error cause => .error (.guardParse transition.id cause)
    | .ok none => .ok ()
    | .ok (some term) =>
      match term.evalBool (e.net.scope e.marking bindings functions) with
      | .error cause => .error (.guardEvaluation transition.id cause)
      | .ok true => .ok ()
      | .ok false =>
        .error (.guardNotSatisfied transition.id (transition.guard.getD ""))

/-- The marking after the keyed arcs of a transition. -/
def applyKeyedArcs (e : Execution) (t : Nat) (bindings : Dictionary Value) (m : Marking) :
    Except FireError Marking :=
  match e.net.transferAll bindings m (e.net.keyedArcs t) with
  | .ok next => .ok next
  | .error cause => .error (.keyedTransfer (e.net.transitionId t) cause)

/-- The marking that a transition leads to under bindings, by guard, tokens and keyed arcs. -/
def guardedSuccessor (e : Execution) (t : Nat) (bindings : Dictionary Value)
    (functions : Guard.FunctionTable) : Except FireError Marking := do
  e.checkGuard t bindings functions
  let flowed ← e.net.flowTokens e.marking t
  let next ← e.applyKeyedArcs t bindings flowed
  e.checkSuccessor next
  return next

/-- Fires a transition if its guard holds under the given bindings and functions; keyed arcs
move the amounts that are bound. -/
def fireWith (e : Execution) (id : String) (bindings : Dictionary Value)
    (functions : Guard.FunctionTable) : Except FireError Execution := do
  let t ← e.lookup id
  let next ← e.guardedSuccessor t bindings functions
  return e.commit t next

/-- The truth of each declared invariant in the current marking. -/
def invariantOutcomes (e : Execution) : List (Invariant × Except Guard.Error Bool) :=
  e.net.document.invariants.map fun invariant =>
    (invariant, e.net.evalInvariant e.marking invariant)

/-! ### Journals -/

/-- What reaching a new marking reports. -/
def commitJournal (e : Execution) (id : String) : Journal :=
  [.debug ("#" ++ Number.natText e.sequence ++ " fired `" ++ id ++ "` -> "
    ++ e.marking.render e.net)]

/-- What firing by tokens alone reports. -/
def fireJournal (e : Execution) (id : String) : Journal :=
  match e.fire id with
  | .ok after => after.commitJournal id
  | .error _ => []

/-- What firing under bindings reports. -/
def fireWithJournal (e : Execution) (id : String) (bindings : Dictionary Value)
    (functions : Guard.FunctionTable) : Journal :=
  match e.lookup id with
  | .error _ => []
  | .ok t =>
    match e.checkGuard t bindings functions with
    | .error (.guardNotSatisfied ..) => [.debug ("guard of `" ++ id ++ "` rejected firing")]
    | .error _ => []
    | .ok () =>
      match e.net.flowTokens e.marking t with
      | .error _ => []
      | .ok flowed =>
        e.net.transferJournal bindings t flowed (e.net.keyedArcs t)
          ++ match e.fireWith id bindings functions with
            | .ok after => after.commitJournal id
            | .error _ => []

/-- The calls that the guard of a transition makes. -/
def guardCalls (e : Execution) (id : String) (bindings : Dictionary Value)
    (functions : Guard.FunctionTable) : List Guard.Call :=
  match e.net.transitions.find? (·.id == id) with
  | none => []
  | some transition =>
    match transition.guardTerm with
    | .ok (some term) => term.calls (e.net.scope e.marking bindings functions)
    | _ => []

end Execution

end GuardedNet
