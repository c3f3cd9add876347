import GuardedNet.Journal
import GuardedNet.Net.Element
import GuardedNet.Net.Table

/-!
# Nets

A net is a document that makes sense, with its arcs resolved to positions and counted in
tables. Positions are those of the declarations.
-/

namespace GuardedNet

/-- The kinds of element of a net. -/
inductive ElementKind where
  | place
  | transition
  | arc
  | invariant
deriving DecidableEq, Inhabited

/-- The word for a kind of element. -/
def ElementKind.name : ElementKind → String
  | .place => "place"
  | .transition => "transition"
  | .arc => "arc"
  | .invariant => "invariant"

/-- Why a document is no net, or a net has no such variation. -/
inductive NetError where
  | emptyId (kind : ElementKind) (index : Nat)
  | duplicate (kind : ElementKind) (id : String)
  | ambiguous (id : String)
  | unknownEndpoint (index : Nat) (id : String)
  | sameKind (index : Nat) (kind : ElementKind) (source target : String)
  | keyedTokenPlace (index : Nat) (place : String)
  | unknownElement (kind : ElementKind) (id : String)
  | arcOutOfRange (index : Nat)
deriving DecidableEq, Inhabited

/-- The wording of an error. -/
def NetError.message : NetError → String
  | .emptyId kind index => kind.name ++ " #" ++ Number.natText index ++ " has an empty id"
  | .duplicate kind id => "duplicate " ++ kind.name ++ " id `" ++ id ++ "`"
  | .ambiguous id => "id `" ++ id ++ "` names both a place and a transition"
  | .unknownEndpoint index id =>
    "arc #" ++ Number.natText index ++ " references unknown node `" ++ id ++ "`"
  | .sameKind index kind source target =>
    "arc #" ++ Number.natText index ++ " connects " ++ kind.name ++ " `" ++ source ++ "` to "
      ++ kind.name ++ " `" ++ target ++ "`"
  | .keyedTokenPlace index place =>
    "arc #" ++ Number.natText index ++ " is keyed but `" ++ place ++ "` is a token place"
  | .unknownElement kind id => "unknown " ++ kind.name ++ " `" ++ id ++ "`"
  | .arcOutOfRange index => "arc index " ++ Number.natText index ++ " is out of range"

/-- Which way an arc goes, seen from its transition. -/
inductive Direction where
  | input
  | output
deriving DecidableEq, Inhabited

/-- An arc between positions. -/
structure Flow where
  place : Nat
  transition : Nat
  direction : Direction
  keyed : Bool
deriving DecidableEq, Inhabited

/-- An arc from a place to a transition. -/
def Flow.isInput (flow : Flow) : Bool := flow.direction == .input

namespace Document

/-- The position of the place with the given id. -/
def placeIndex? (d : Document) (id : String) : Option Nat :=
  d.places.findIdx? fun place => place.id == id

/-- The position of the transition with the given id. -/
def transitionIndex? (d : Document) (id : String) : Option Nat :=
  d.transitions.findIdx? fun transition => transition.id == id

/-- Checks ids from left to right: none is empty, none is taken by another kind of element,
and none has been seen before. -/
def checkIds (kind : ElementKind) (taken seen : List String) : List String → Except NetError Unit
  | [] => .ok ()
  | id :: ids =>
    if id = "" then .error (.emptyId kind seen.length)
    else if id ∈ taken then .error (.ambiguous id)
    else if id ∈ seen then .error (.duplicate kind id)
    else checkIds kind taken (id :: seen) ids

/-- The arc between positions that joins a place and a transition. -/
def join (d : Document) (index : Nat) (arc : Arc) (place transition : Nat)
    (direction : Direction) : Except NetError Flow :=
  match d.places[place]? with
  | some p =>
    if arc.isKeyed && p.isToken then .error (.keyedTokenPlace index p.id)
    else .ok ⟨place, transition, direction, arc.isKeyed⟩
  | none => .ok ⟨place, transition, direction, arc.isKeyed⟩

/-- Resolves the arc with the given index. -/
def resolve (d : Document) (index : Nat) (arc : Arc) : Except NetError Flow :=
  match d.placeIndex? arc.source, d.transitionIndex? arc.source,
      d.placeIndex? arc.target, d.transitionIndex? arc.target with
  | none, none, _, _ => .error (.unknownEndpoint index arc.source)
  | _, _, none, none => .error (.unknownEndpoint index arc.target)
  | some place, _, _, some transition => d.join index arc place transition .input
  | _, some transition, some place, _ => d.join index arc place transition .output
  | some _, _, some _, _ => .error (.sameKind index .place arc.source arc.target)
  | _, _, _, _ => .error (.sameKind index .transition arc.source arc.target)

/-- Resolves arcs from left to right, the first of which has the given index. -/
def resolveFrom (d : Document) (index : Nat) : List Arc → Except NetError (List Flow)
  | [] => .ok []
  | arc :: arcs => do
    let flow ← d.resolve index arc
    let flows ← d.resolveFrom (index + 1) arcs
    return flow :: flows

/-- The number of arcs that a test picks, for each place and transition. -/
def count (d : Document) (flows : List Flow) (picks : Flow → Bool) : Table Nat :=
  flows.foldl
    (fun table flow => if picks flow then table.increment flow.place flow.transition else table)
    (Table.filled 0 d.places.length d.transitions.length)

end Document

/-- A net: its document, its arcs between positions, and how many of them lead from each place
to each transition and back, in all and without those that have keys. -/
structure Net where
  document : Document
  flows : List Flow
  consumed : Table Nat
  produced : Table Nat
  plainConsumed : Table Nat
  plainProduced : Table Nat
deriving Inhabited

namespace Net

/-- The net of a document, or the first thing that is wrong with it: in the places, then the
transitions, then the invariants, then the arcs. -/
def ofDocument (d : Document) : Except NetError Net := do
  let placeIds := d.places.map (·.id)
  Document.checkIds .place [] [] placeIds
  Document.checkIds .transition placeIds [] (d.transitions.map (·.id))
  Document.checkIds .invariant [] [] (d.invariants.map (·.id))
  let flows ← d.resolveFrom 0 d.arcs
  return {
    document := d
    flows := flows
    consumed := d.count flows fun flow => flow.isInput
    produced := d.count flows fun flow => !flow.isInput
    plainConsumed := d.count flows fun flow => flow.isInput && !flow.keyed
    plainProduced := d.count flows fun flow => !flow.isInput && !flow.keyed }

/-- The name of a net. -/
def name (net : Net) : String := net.document.name

/-- The places in order. -/
def places (net : Net) : List Place := net.document.places

/-- The transitions in order. -/
def transitions (net : Net) : List Transition := net.document.transitions

/-- The arcs in order. -/
def arcs (net : Net) : List Arc := net.document.arcs

/-- The position of the place with the given id. -/
def placeIndex? (net : Net) (id : String) : Option Nat := net.document.placeIndex? id

/-- The position of the transition with the given id. -/
def transitionIndex? (net : Net) (id : String) : Option Nat := net.document.transitionIndex? id

/-- The id of the place at a position. -/
def placeId (net : Net) (index : Nat) : String := (net.places[index]?.map (·.id)).getD ""

/-- The id of the transition at a position. -/
def transitionId (net : Net) (index : Nat) : String :=
  (net.transitions[index]?.map (·.id)).getD ""

/-- The positions of the places that a transition takes from. -/
def inputs (net : Net) (transition : Nat) : List Nat := net.consumed.touched transition

/-- The positions of the places that a transition gives to. -/
def outputs (net : Net) (transition : Nat) : List Nat := net.produced.touched transition

/-- The sum of the declared numbers of tokens, kept within the bounds. -/
def totalInitialTokens (net : Net) : Int :=
  net.places.foldl (fun total place => Number.clamp (total + place.initialTokens)) 0

/-- The two nets have the same document, where rates are compared as numbers. -/
def same (net other : Net) : Bool := net.document == other.document

/-- What building a net reports. -/
def journal (net : Net) : Journal :=
  [.debug ("model `" ++ net.name ++ "`: " ++ Number.natText net.places.length ++ " places, "
    ++ Number.natText net.transitions.length ++ " transitions, "
    ++ Number.natText net.arcs.length ++ " arcs, "
    ++ Number.natText net.document.invariants.length ++ " invariants")]

end Net

end GuardedNet
