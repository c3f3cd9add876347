import GuardedNet.Dynamics.Trajectory
import GuardedNet.Settings

/-!
# Impacts

How far a changed trajectory departs from the unchanged one, and how serious that is.
-/

namespace GuardedNet

/-- How serious an impact is. -/
inductive ImpactCategory where
  | critical
  | important
  | moderate
  | peripheral
deriving DecidableEq, Inhabited

namespace ImpactCategory

/-- The word for a category. -/
def name : ImpactCategory → String
  | .critical => "critical"
  | .important => "important"
  | .moderate => "moderate"
  | .peripheral => "peripheral"

/-- All categories, the most serious first. -/
def all : List ImpactCategory := [.critical, .important, .moderate, .peripheral]

/-- The category of an impact. -/
def ofImpact (settings : Settings) (impact : Float) : ImpactCategory :=
  if !impact.isFinite || impact > settings.divergenceLimit then .critical
  else if impact ≥ settings.importantThreshold then .important
  else if impact ≥ settings.moderateThreshold then .moderate
  else .peripheral

end ImpactCategory

namespace Trajectory

/-- The places that two trajectories share. -/
def sharedPlaces (baseline changed : Trajectory) : List String :=
  baseline.places.filter fun place => (changed.placeIndex? place).isSome

/-- The difference between two trajectories in a place at a time, if both have an amount. -/
def differenceIn (baseline changed : Trajectory) (time : Float) (place : String) :
    Except DynamicsError (Option Float) := do
  match ← baseline.amountAt place time, ← changed.amountAt place time with
  | some a, some b => return some (a - b).abs
  | _, _ => return none

/-- The sum of the amounts of places at a time. -/
def massAt (t : Trajectory) (places : List String) (time : Float) :
    Except DynamicsError Float := do
  let amounts ← places.mapM fun place => t.amountAt place time
  return Number.sum (amounts.filterMap id)

/-- The difference between the sums of the amounts of places in two trajectories at a time. -/
def massDifference (baseline changed : Trajectory) (places : List String) (time : Float) :
    Except DynamicsError (Option Float) := do
  return some ((← baseline.massAt places time) - (← changed.massAt places time)).abs

/-- The differences between two trajectories at a time, in the order in which they are found. -/
def differencesAt (baseline changed : Trajectory) (metric : Metric) (places : List String)
    (time : Float) : List (Except DynamicsError (Option Float)) :=
  match metric with
  | .pointwise => places.map (differenceIn baseline changed time)
  | .tokenMass => [massDifference baseline changed places time]

/-- The greatest of differences found one after the other. The first that is not a number ends
the search with infinity. -/
def greatest (sofar : Float) :
    List (Except DynamicsError (Option Float)) → Except DynamicsError Float
  | [] => .ok sofar
  | next :: rest => do
    match ← next with
    | none => greatest sofar rest
    | some difference =>
      if difference.isNaN then return 1.0 / 0.0
      else greatest (Number.greater sofar difference) rest

/-- The greatest difference between two trajectories at the given times, infinite when one is
not a number. -/
def impact (baseline changed : Trajectory) (metric : Metric) (times : List Float) :
    Except DynamicsError Float :=
  let places := sharedPlaces baseline changed
  greatest 0.0 (times.flatMap (differencesAt baseline changed metric places))

end Trajectory

end GuardedNet
