import GuardedNet.Guard.Eval
import GuardedNet.Number.FloatText

/-!
# Elements of a net

Places, transitions, arcs and declared invariants as they are written down, and the document
that lists them. A document need not make sense; `GuardedNet.Net` is one that does.
-/

namespace GuardedNet

/-- What a place holds: a count of tokens, or a value. -/
inductive PlaceKind where
  | token
  | data
deriving DecidableEq, Inhabited

/-- The word for a kind of place. -/
def PlaceKind.name : PlaceKind → String
  | .token => "token"
  | .data => "data"

/-- A place. -/
structure Place where
  id : String
  kind : PlaceKind
  initial : Value
  exported : Bool
  capacity : Option Int
deriving DecidableEq, Inhabited

/-- A place that counts tokens. -/
def Place.isToken (place : Place) : Bool := place.kind == .token

/-- The declared number of tokens, zero for a place that holds a value. -/
def Place.initialTokens (place : Place) : Int :=
  match place.kind with
  | .token => place.initial.asInt?.getD 0
  | .data => 0

/-- A transition. -/
structure Transition where
  id : String
  guard : Option String
  rate : Float
  /-- Whether a rate that is not a number has a minus sign, which the double does not keep. -/
  isNegated : Bool := false
deriving BEq, Inhabited

/-- The term of the guard; a blank guard counts as none. -/
def Transition.guardTerm (transition : Transition) :
    Except Guard.ParseError (Option Guard.Term) :=
  match transition.guard with
  | some source => do
    let condition ← Guard.Condition.read source
    return condition.term
  | none => .ok none

/-- An arc from one element to another by their ids. An arc with keys addresses an entry
within the value of a place. -/
structure Arc where
  source : String
  target : String
  keys : List String
  value : Option String
deriving DecidableEq, Inhabited

/-- An arc that addresses an entry within a value. -/
def Arc.isKeyed (arc : Arc) : Bool := !arc.keys.isEmpty

/-- The short text for an arc. -/
def Arc.label (arc : Arc) : String := arc.source ++ "->" ++ arc.target

/-- A condition that is declared to hold after every firing. -/
structure Invariant where
  id : String
  expression : String
deriving DecidableEq, Inhabited

/-- A net as it is written down. -/
structure Document where
  name : String
  version : String
  places : List Place
  transitions : List Transition
  arcs : List Arc
  invariants : List Invariant
deriving BEq, Inhabited

end GuardedNet
