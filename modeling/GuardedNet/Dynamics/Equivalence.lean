import GuardedNet.Dynamics.Matching

/-!
# Equivalence of courses

Whether corresponding places of two nets hold the same amounts at given times.
-/

namespace GuardedNet

/-- Two corresponding places that hold different amounts at a time. -/
structure Divergence where
  place : String
  mapped : String
  time : Float
  left : Float
  right : Float
  difference : Float
deriving Inhabited

namespace Divergence

/-- The line of a divergence in a report. -/
def line (d : Divergence) : String :=
  "  t = " ++ Number.fixedText 3 d.time ++ ": " ++ d.place ++ " = " ++ Number.fixedText 6 d.left
    ++ ", " ++ d.mapped ++ " = " ++ Number.fixedText 6 d.right

/-- The document of a divergence. -/
def toJson (d : Divergence) : Json :=
  .object [("place", .str d.place), ("mapped", .str d.mapped), ("time", .float d.time),
    ("left", .float d.left), ("right", .float d.right), ("difference", .float d.difference)]

end Divergence

/-- The greatest difference between corresponding places, and where it is too great. -/
structure CourseComparison where
  maxDifference : Float
  divergences : List Divergence
deriving Inhabited

namespace CourseComparison

/-- Whether no difference is too great. -/
def equivalent (c : CourseComparison) : Bool := c.divergences.isEmpty

/-- Fails for the first pair of a mapping with a place that its net lacks. -/
def checkMapping (left right : Net) : Dictionary String → Except DynamicsError Unit
  | [] => .ok ()
  | (place, mapped) :: rest =>
    if (left.placeIndex? place).isNone then .error (.unknownPlace left.name place)
    else if (right.placeIndex? mapped).isNone then .error (.unknownPlace right.name mapped)
    else checkMapping left right rest

/-- The amounts of a pair of places at a time, as a divergence that may be none. -/
def compareAt (l r : Trajectory) (pair : String × String) (time : Float) :
    Except DynamicsError (Option Divergence) := do
  match ← l.amountAt pair.1 time, ← r.amountAt pair.2 time with
  | some a, some b => return some ⟨pair.1, pair.2, time, a, b, (a - b).abs⟩
  | _, _ => return none

/-- Compares two trajectories at the given times. -/
def ofTrajectories (l r : Trajectory) (mapping : Dictionary String) (times : List Float)
    (tolerance : Float) : Except DynamicsError CourseComparison := do
  let compared ← mapping.mapM fun pair => times.mapM (compareAt l r pair)
  let all := compared.flatten.filterMap id
  return ⟨(all.map (·.difference)).foldl Number.greater 0.0,
    all.filter fun d => d.difference > tolerance⟩

/-- Compares corresponding places of two nets at the given times. -/
def ofNets (left right : Net) (mapping : Dictionary String) (solver : Solver)
    (settings : Settings) (times : List Float) : Except DynamicsError CourseComparison := do
  checkMapping left right mapping
  let l ← left.trajectory solver settings.timeSpan
  let r ← right.trajectory solver settings.timeSpan
  ofTrajectories l r mapping times settings.tolerance

/-- The document of a comparison. -/
def toJson (c : CourseComparison) : Json :=
  .object [("equivalent", .bool c.equivalent), ("max_difference", .float c.maxDifference),
    ("violations", .array (c.divergences.map Divergence.toJson))]

/-- What comparing two nets reports, where following reactions reports `solving`. -/
def journal (left right : Net) (mapping : Dictionary String) (solver : Solver)
    (solving : Problem → Journal) (settings : Settings) : Journal :=
  match checkMapping left right mapping with
  | .error _ => []
  | .ok () =>
    solving (Problem.ofNet left settings.timeSpan)
      ++ match left.trajectory solver settings.timeSpan with
        | .error _ => []
        | .ok _ => solving (Problem.ofNet right settings.timeSpan)

end CourseComparison

end GuardedNet
