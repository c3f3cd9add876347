import GuardedNet.Json.Basic
import GuardedNet.Net.Basic

/-!
# Connectivity of a net

Elements that no arc touches, places that can never hold a token, and transitions that only
produce or only consume.
-/

namespace GuardedNet

/-- What is noteworthy about the connections of a net. -/
structure Diagnosis where
  isolatedPlaces : List String
  isolatedTransitions : List String
  warnings : List String
  totalPlaces : Nat
  totalTransitions : Nat
deriving DecidableEq, Inhabited

namespace Net

/-- Whether some transition gives to a place. -/
def isProduced (net : Net) (place : Nat) : Bool := (net.produced.row place).any (· > 0)

/-- Whether some transition takes from a place. -/
def isConsumed (net : Net) (place : Nat) : Bool := (net.consumed.row place).any (· > 0)

/-- A place that no arc touches. -/
def isIsolatedPlace (net : Net) (place : Nat) : Bool :=
  !net.isProduced place && !net.isConsumed place

/-- A place that only loses tokens and has none to lose. -/
def neverHoldsTokens (net : Net) (index : Nat) (place : Place) : Bool :=
  net.isConsumed index && !net.isProduced index && place.isToken && place.initialTokens == 0

/-- A transition that no arc touches. -/
def isIsolatedTransition (net : Net) (transition : Nat) : Bool :=
  (net.inputs transition).isEmpty && (net.outputs transition).isEmpty

/-- The warning about a place, if there is one. -/
def placeWarning? (net : Net) (index : Nat) (place : Place) : Option String :=
  if net.neverHoldsTokens index place then
    some ("place `" ++ place.id
      ++ "` has no producing transition and starts empty; it never holds tokens")
  else none

/-- The warning about a transition, if there is one. -/
def transitionWarning? (net : Net) (index : Nat) (transition : Transition) : Option String :=
  if net.isIsolatedTransition index then none
  else if (net.inputs index).isEmpty then
    some ("transition `" ++ transition.id ++ "` has no input places; it can fire without bound")
  else if (net.outputs index).isEmpty then
    some ("transition `" ++ transition.id ++ "` has no output places; it only consumes")
  else none

/-- What is noteworthy about the connections of a net. -/
def diagnose (net : Net) : Diagnosis where
  isolatedPlaces := net.places.zipIdx.filterMap fun (place, index) =>
    if net.isIsolatedPlace index then some place.id else none
  isolatedTransitions := net.transitions.zipIdx.filterMap fun (transition, index) =>
    if net.isIsolatedTransition index then some transition.id else none
  warnings :=
    (net.places.zipIdx.filterMap fun (place, index) => net.placeWarning? index place)
      ++ net.transitions.zipIdx.filterMap fun (transition, index) =>
        net.transitionWarning? index transition
  totalPlaces := net.places.length
  totalTransitions := net.transitions.length

end Net

namespace Diagnosis

/-- Whether there is anything noteworthy. -/
def hasIssues (d : Diagnosis) : Bool :=
  !d.isolatedPlaces.isEmpty || !d.isolatedTransitions.isEmpty || !d.warnings.isEmpty

/-- The document of a diagnosis. -/
def toJson (d : Diagnosis) : Json :=
  .object [
    ("isolated_places", .ofTexts d.isolatedPlaces),
    ("isolated_transitions", .ofTexts d.isolatedTransitions),
    ("warnings", .ofTexts d.warnings),
    ("total_places", .ofNat d.totalPlaces),
    ("total_transitions", .ofNat d.totalTransitions)]

/-- What checking the connections of the net with the given name reports. -/
def journal (name : String) (d : Diagnosis) : Journal :=
  if d.hasIssues then
    .warn ("=== 连通性诊断: " ++ name ++ " ===")
      :: d.isolatedPlaces.map (fun id => .warn ("  isolated place `" ++ id ++ "`"))
      ++ d.isolatedTransitions.map (fun id => .warn ("  isolated transition `" ++ id ++ "`"))
      ++ d.warnings.map (fun warning => .warn ("  " ++ warning))
  else [.info ("model `" ++ name ++ "`: connectivity check passed")]

end Diagnosis

end GuardedNet
