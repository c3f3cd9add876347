import GuardedNet.Json.Basic
import GuardedNet.Text.Layout

/-!
# Settings

The parameters of analyses that follow reactions or search for markings.
-/

namespace GuardedNet

/-- How a changed trajectory is compared with the unchanged one: place by place, or by the sum
over all places that both have. -/
inductive Metric where
  | pointwise
  | tokenMass
deriving DecidableEq, Inhabited

namespace Metric

/-- The word for a metric. -/
def name : Metric → String
  | .pointwise => "pointwise"
  | .tokenMass => "token_mass"

/-- The word for a metric in detailed texts. -/
def detail : Metric → String
  | .pointwise => "Pointwise"
  | .tokenMass => "TokenMass"

/-- The metric with a name. -/
def ofName? : String → Option Metric
  | "pointwise" => some .pointwise
  | "token_mass" => some .tokenMass
  | _ => none

/-- The metric that a document stands for: its name, or an object with the name as its only
key. -/
def ofJson? : Json → Option Metric
  | .str s => ofName? s
  | .object [(s, .null)] => ofName? s
  | _ => none

end Metric

/-- The parameters of analyses. -/
structure Settings where
  /-- How long reactions are followed. -/
  timeSpan : Float
  /-- The step with which they are followed. -/
  step : Float
  /-- Distances up to this count as none. -/
  tolerance : Float
  /-- Places farther apart than this do not match. -/
  maxMappingDistance : Option Float
  /-- At how many times a changed trajectory is compared. -/
  sampleCount : Nat
  /-- How far markings are searched for. -/
  maxReachSteps : Nat
  /-- How many arcs are deleted at most. -/
  maxArcs : Option Nat
  /-- An impact beyond this is critical. -/
  divergenceLimit : Float
  /-- An impact from this on is important. -/
  importantThreshold : Float
  /-- An impact from this on is moderate. -/
  moderateThreshold : Float
  metric : Metric
deriving Inhabited

namespace Settings

/-- The usual settings. -/
def default : Settings where
  timeSpan := 10.0
  step := 0.01
  tolerance := 1e-6
  maxMappingDistance := none
  sampleCount := 20
  maxReachSteps := 1000
  maxArcs := none
  divergenceLimit := 1e6
  importantThreshold := 1.0
  moderateThreshold := 0.1
  metric := .tokenMass

/-- The names of the settings in documents. -/
def fieldNames : List String :=
  ["time_span", "step", "tolerance", "max_mapping_distance", "sample_count", "max_reach_steps",
   "max_arcs", "divergence_limit", "important_threshold", "moderate_threshold", "metric"]

/-- Evenly spaced times over the whole span, at least two. -/
def sampleTimes (s : Settings) : List Float :=
  let count := max s.sampleCount 2
  (List.range count).map fun (i : Nat) =>
    s.timeSpan * Number.ofInt i / Number.ofInt ((count - 1 : Nat) : Int)

/-- The settings with all their values, for tracing. -/
def detail (s : Settings) : String :=
  let float (x : Float) : String := Number.detailedStyle.text x
  Text.record "AnalysisConfig"
    [("time_span", float s.timeSpan), ("step", float s.step), ("tolerance", float s.tolerance),
     ("max_mapping_distance", Text.optional (s.maxMappingDistance.map float)),
     ("sample_count", Number.natText s.sampleCount),
     ("max_reach_steps", Number.natText s.maxReachSteps),
     ("max_arcs", Text.optional (s.maxArcs.map Number.natText)),
     ("divergence_limit", float s.divergenceLimit),
     ("important_threshold", float s.importantThreshold),
     ("moderate_threshold", float s.moderateThreshold), ("metric", s.metric.detail)]

/-- The document of settings; `encode` writes the numbers. -/
def toJsonWith (encode : Float → Json) (s : Settings) : Json :=
  .object [("time_span", encode s.timeSpan), ("step", encode s.step),
    ("tolerance", encode s.tolerance),
    ("max_mapping_distance", .ofOption encode s.maxMappingDistance),
    ("sample_count", .ofNat s.sampleCount), ("max_reach_steps", .ofNat s.maxReachSteps),
    ("max_arcs", .ofOption .ofNat s.maxArcs), ("divergence_limit", encode s.divergenceLimit),
    ("important_threshold", encode s.importantThreshold),
    ("moderate_threshold", encode s.moderateThreshold), ("metric", .str s.metric.name)]

/-- The settings that a document stands for. -/
def ofJson? (j : Json) : Option Settings := do
  let d := default
  match ← j.record? fieldNames with
  | [timeSpan, step, tolerance, maxMappingDistance, sampleCount, maxReachSteps, maxArcs,
      divergenceLimit, importantThreshold, moderateThreshold, metric] => do
    return {
      timeSpan := ← Json.withDefault? d.timeSpan Json.float? timeSpan
      step := ← Json.withDefault? d.step Json.float? step
      tolerance := ← Json.withDefault? d.tolerance Json.float? tolerance
      maxMappingDistance := ← Json.withDefault? none (Json.optional? Json.float?) maxMappingDistance
      sampleCount := ← Json.withDefault? d.sampleCount Json.size? sampleCount
      maxReachSteps := ← Json.withDefault? d.maxReachSteps Json.size? maxReachSteps
      maxArcs := ← Json.withDefault? none (Json.optional? Json.size?) maxArcs
      divergenceLimit := ← Json.withDefault? d.divergenceLimit Json.float? divergenceLimit
      importantThreshold := ← Json.withDefault? d.importantThreshold Json.float? importantThreshold
      moderateThreshold := ← Json.withDefault? d.moderateThreshold Json.float? moderateThreshold
      metric := ← Json.withDefault? d.metric Metric.ofJson? metric }
  | _ => none

end Settings

end GuardedNet
