import GuardedNet.Dynamics.Fingerprint
import GuardedNet.Dynamics.RungeKutta
import GuardedNet.Settings

/-!
# Matching places by their courses

For each place of one net, the places of another whose fingerprints are nearest.
-/

namespace GuardedNet

/-- How a match came out. -/
inductive MatchStatus where
  | unique
  /-- Several places are equally near. -/
  | ambiguous
  /-- No place is near enough. -/
  | unmatched
deriving DecidableEq, Inhabited

namespace MatchStatus

/-- The word for a status in documents. -/
def name : MatchStatus → String
  | .unique => "unique"
  | .ambiguous => "ambiguous"
  | .unmatched => "unmatched"

/-- The word for a status in reports. -/
def label : MatchStatus → String
  | .unique => "唯一"
  | .ambiguous => "歧义"
  | .unmatched => "未匹配"

end MatchStatus

/-- A place with the places nearest to it and their distance. -/
structure PlaceMatch where
  place : String
  candidates : List String
  distance : Float
  status : MatchStatus
deriving Inhabited

namespace PlaceMatch

/-- Matches one fingerprint with those of the other net. -/
def find (settings : Settings) (others : Dictionary Fingerprint) (place : String)
    (print : Fingerprint) : PlaceMatch :=
  let scored := others.map fun (candidate, other) => (candidate, print.distance other)
  let best := (scored.map (·.2)).foldl Number.lesser (1.0 / 0.0)
  let candidates := (scored.filter fun (_, d) => d - best ≤ settings.tolerance).map (·.1)
  let isFar := settings.maxMappingDistance.any fun limit => best > limit
  let status : MatchStatus :=
    if candidates.isEmpty || isFar then .unmatched
    else if 1 < candidates.length then .ambiguous
    else .unique
  ⟨place, candidates, best, status⟩

/-- The line of a match in a report. -/
def line (m : PlaceMatch) : String :=
  "  " ++ m.place ++ " -> " ++ Text.bracketed m.candidates ++ " 距离 "
    ++ Number.fixedText 6 m.distance ++ " (" ++ m.status.label ++ ")"

/-- The document of a match. -/
def toJson (m : PlaceMatch) : Json :=
  .object [("place", .str m.place), ("candidates", .ofTexts m.candidates),
    ("distance", .float m.distance), ("status", .str m.status.name)]

end PlaceMatch

/-- The matches of all places of a net, in the order of their ids. -/
abbrev Matching := List PlaceMatch

namespace Matching

/-- Matches the places of two nets by their courses. -/
def discover (left right : Net) (solver : Solver) (settings : Settings) :
    Except DynamicsError Matching := do
  let l ← (← left.trajectory solver settings.timeSpan).fingerprints
  let r ← (← right.trajectory solver settings.timeSpan).fingerprints
  return l.map fun (place, print) => PlaceMatch.find settings r place print

/-- The places with exactly one match, each with that match. -/
def unique (matching : Matching) : Dictionary String :=
  Dictionary.ofPairs ((matching.filter fun m => m.status == .unique).filterMap fun m =>
    m.candidates.head?.map fun candidate => (m.place, candidate))

/-- The places with several matches. -/
def ambiguous (matching : Matching) : List String :=
  (matching.filter fun m => m.status == .ambiguous).map (·.place)

/-- The number of matches with a status. -/
def count (matching : Matching) (status : MatchStatus) : Nat :=
  (matching.filter fun m => m.status == status).length

/-- The document of a matching. -/
def toJson (matching : Matching) : Json :=
  .object [("matches", .array (matching.map PlaceMatch.toJson))]

/-- What matching two nets reports, where following reactions reports `solving`. -/
def journal (left right : Net) (solver : Solver) (solving : Problem → Journal)
    (settings : Settings) : Journal :=
  let start := solving (Problem.ofNet left settings.timeSpan)
  match left.trajectory solver settings.timeSpan >>= Trajectory.fingerprints with
  | .error _ => start
  | .ok _ =>
    start ++ solving (Problem.ofNet right settings.timeSpan)
      ++ match discover left right solver settings with
        | .error _ => []
        | .ok matching =>
          [.info ("mapping `" ++ left.name ++ "` -> `" ++ right.name ++ "`: "
            ++ Number.natText (matching.count .unique) ++ " unique, "
            ++ Number.natText (matching.count .ambiguous) ++ " ambiguous, "
            ++ Number.natText (matching.count .unmatched) ++ " unmatched")]

end Matching

end GuardedNet
