import GuardedNet.Settings
import GuardedNet.Toml.Read

/-!
# Settings in TOML

Every setting has a key of its own; a key that is absent leaves the usual value, and keys that
name no setting are ignored.
-/

namespace GuardedNet

namespace Toml

/-- A number, which may be written without a fraction. -/
def asFloat? : Toml → Option Float
  | .float x => some x
  | .int n => if Number.least ≤ n && n < Number.sizeLimit then some (Number.ofInt n) else none
  | _ => none

/-- A size. -/
def asSize? : Toml → Option Nat
  | .int n => if 0 ≤ n && n < Number.sizeLimit then some n.toNat else none
  | _ => none

end Toml

/-- The metric that a value stands for: its name, or a table with the name as its only key and
nothing below it. -/
def Metric.ofToml? : Toml → Option Metric
  | .str s => Metric.ofName? s
  | .table [(s, .table [])] => Metric.ofName? s
  | .table [(s, .array [])] => Metric.ofName? s
  | _ => none

namespace Settings

/-- The value at a key, or the given one if the key is absent. -/
def entry? {α : Type} (entries : List (String × Toml)) (key : String) (usual : α)
    (decode : Toml → Option α) : Option α :=
  match Dictionary.get? key entries with
  | none => some usual
  | some value => decode value

/-- The settings that the entries of a document stand for. -/
def ofEntries? (entries : List (String × Toml)) : Option Settings := do
  let d := default
  let float (key : String) (usual : Float) := entry? entries key usual Toml.asFloat?
  let size (key : String) (usual : Nat) := entry? entries key usual Toml.asSize?
  return {
    timeSpan := ← float "time_span" d.timeSpan
    step := ← float "step" d.step
    tolerance := ← float "tolerance" d.tolerance
    maxMappingDistance := ← entry? entries "max_mapping_distance" d.maxMappingDistance
      fun value => value.asFloat?.map some
    sampleCount := ← size "sample_count" d.sampleCount
    maxReachSteps := ← size "max_reach_steps" d.maxReachSteps
    maxArcs := ← entry? entries "max_arcs" d.maxArcs fun value => value.asSize?.map some
    divergenceLimit := ← float "divergence_limit" d.divergenceLimit
    importantThreshold := ← float "important_threshold" d.importantThreshold
    moderateThreshold := ← float "moderate_threshold" d.moderateThreshold
    metric := ← entry? entries "metric" d.metric Metric.ofToml? }

/-- The settings that a text spells. -/
def ofText? (text : String) : Option Settings := (Toml.parse? text).bind ofEntries?

end Settings

end GuardedNet
