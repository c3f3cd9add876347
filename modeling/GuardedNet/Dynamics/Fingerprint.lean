import GuardedNet.Dynamics.Trajectory

/-!
# Fingerprints

A few numbers that sum up the course of one amount, and a distance between two such courses.
-/

namespace GuardedNet

/-- Start, end, extremes and mean of a course, and ten samples of it. -/
structure Fingerprint where
  initial : Float
  final : Float
  min : Float
  max : Float
  mean : Float
  samples : List Float
deriving Inhabited

namespace Fingerprint

/-- The number of samples. -/
def sampleCount : Nat := 10

/-- The fingerprint of no course. -/
def zero : Fingerprint := ⟨0.0, 0.0, 0.0, 0.0, 0.0, List.replicate sampleCount 0.0⟩

/-- The fingerprint of a course. -/
def ofSeries (series : List Float) : Fingerprint :=
  match series.head?, series.getLast? with
  | some initial, some final =>
    let course := series.toArray
    { initial := initial
      final := final
      min := series.foldl Number.lesser (1.0 / 0.0)
      max := series.foldl Number.greater (-1.0 / 0.0)
      mean := Number.sum series / Number.ofInt course.size
      samples := (List.range sampleCount).map fun i =>
        course.getD (i * (course.size - 1) / (sampleCount - 1)) 0.0 }
  | _, _ => zero

/-- The numbers of a fingerprint in order. -/
def parts (f : Fingerprint) : List Float :=
  [f.initial, f.final, f.min, f.max, f.mean] ++ f.samples

/-- The sum of the absolute differences of the numbers of two fingerprints. -/
def distance (f other : Fingerprint) : Float :=
  Number.sum (List.zipWith (fun a b => (a - b).abs) f.parts other.parts)

end Fingerprint

/-- The fingerprint of each place by id. -/
def Trajectory.fingerprints (t : Trajectory) : Except DynamicsError (Dictionary Fingerprint) := do
  let prints ← t.places.mapM fun place => do
    let series ← t.series place
    return series.map fun series => (place, Fingerprint.ofSeries series)
  return Dictionary.ofPairs (prints.filterMap id)

end GuardedNet
