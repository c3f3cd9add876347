import GuardedNet.Net.Basic

/-!
# Variations of a net

Nets with one element less, or with one rate or initial count changed.
-/

namespace GuardedNet.Net

/-- The arcs that do not touch the element with the given id. -/
def arcsWithout (net : Net) (id : String) : List Arc :=
  net.arcs.filter fun arc => arc.source != id && arc.target != id

/-- The net without a place and its arcs. -/
def withoutPlace (net : Net) (id : String) : Except NetError Net :=
  match net.placeIndex? id with
  | none => .error (.unknownElement .place id)
  | some _ =>
    ofDocument { net.document with
      places := net.places.filter fun place => place.id != id
      arcs := net.arcsWithout id }

/-- The net without a transition and its arcs. -/
def withoutTransition (net : Net) (id : String) : Except NetError Net :=
  match net.transitionIndex? id with
  | none => .error (.unknownElement .transition id)
  | some _ =>
    ofDocument { net.document with
      transitions := net.transitions.filter fun transition => transition.id != id
      arcs := net.arcsWithout id }

/-- The net without the arc at a position. -/
def withoutArc (net : Net) (index : Nat) : Except NetError Net :=
  if index < net.arcs.length then
    ofDocument { net.document with arcs := net.arcs.eraseIdx index }
  else .error (.arcOutOfRange index)

/-- The net with another rate for a transition. -/
def withRate (net : Net) (id : String) (rate : Float) : Except NetError Net :=
  match net.transitionIndex? id with
  | none => .error (.unknownElement .transition id)
  | some index => .ok { net with
      document := { net.document with
        transitions := net.transitions.modify index fun t =>
          { t with rate := rate, isNegated := false } } }

/-- The net with another initial value, an integer, for a place. -/
def withInitialTokens (net : Net) (id : String) (tokens : Int) : Except NetError Net :=
  match net.placeIndex? id with
  | none => .error (.unknownElement .place id)
  | some index => .ok { net with
      document := { net.document with
        places := net.places.modify index fun p => { p with initial := .int tokens } } }

end GuardedNet.Net
