import GuardedNet.Net.Variation
import GuardedNet.Sensitivity.Impact

/-!
# Sensitivity to rates and initial tokens

Changes one rate or one initial number of tokens at a time, and grades the impact.
-/

namespace GuardedNet

/-- The impact of switching a transition off, and the spread between half and double its
rate. -/
structure RateImpact where
  transition : String
  zeroImpact : Float
  scaledDifference : Float
  sensitivity : Float
  category : ImpactCategory
deriving Inhabited

namespace RateImpact

/-- The net with the rate of a transition multiplied. -/
def scaledNet? (net : Net) (transition : Transition) (factor : Float) : Option Net :=
  (net.withRate transition.id (transition.rate * factor)).toOption

/-- The trajectory with the rate of a transition multiplied. -/
def scaled? (net : Net) (solver : Solver) (settings : Settings) (transition : Transition)
    (factor : Float) : Option Trajectory :=
  (scaledNet? net transition factor).bind fun changed =>
    (changed.trajectory solver settings.timeSpan).toOption

/-- The greatest difference between the final amounts of two trajectories. -/
def finalDifference (a b : Trajectory) : Float :=
  (List.zipWith (fun x y => (x - y).abs) a.final.toList b.final.toList).foldl Number.greater 0.0

/-- The impact of the rate of a transition. -/
def ofTransition (net : Net) (solver : Solver) (settings : Settings) (baseline : Trajectory)
    (transition : Transition) : Except DynamicsError RateImpact := do
  let zero ← match scaled? net solver settings transition 0.0 with
    | some t => baseline.impact t settings.metric settings.sampleTimes
    | none => .ok (1.0 / 0.0)
  let difference :=
    match scaled? net solver settings transition 0.5,
      scaled? net solver settings transition 2.0 with
    | some half, some double => finalDifference half double / 1.5
    | _, _ => 1.0 / 0.0
  let sensitivity := Number.greater difference zero
  return ⟨transition.id, zero, difference, sensitivity, .ofImpact settings sensitivity⟩

/-- The impacts of all rates. -/
def ofNet (net : Net) (solver : Solver) (settings : Settings) :
    Except DynamicsError (List RateImpact) := do
  let baseline ← net.trajectory solver settings.timeSpan
  net.transitions.mapM (ofTransition net solver settings baseline)

/-- The document of an impact. -/
def toJson (r : RateImpact) : Json :=
  .object [("transition", .str r.transition), ("zero_impact", .float r.zeroImpact),
    ("scaled_difference", .float r.scaledDifference), ("sensitivity", .float r.sensitivity),
    ("category", .str r.category.name)]

/-- What multiplying the rate of a transition reports. -/
def scaledJournal (net : Net) (solver : Solver) (solving : Problem → Journal)
    (settings : Settings) (transition : Transition) (factor : Float) : Journal :=
  match scaledNet? net transition factor with
  | none => []
  | some changed =>
    solving (Problem.ofNet changed settings.timeSpan)
      ++ match changed.trajectory solver settings.timeSpan with
        | .ok _ => []
        | .error cause =>
          [.warn ("rate perturbation of `" ++ transition.id ++ "` failed: " ++ cause.message)]

/-- What grading all rates reports, where following reactions reports `solving`. -/
def journal (net : Net) (solver : Solver) (solving : Problem → Journal) (settings : Settings) :
    Journal :=
  solving (Problem.ofNet net settings.timeSpan)
    ++ net.transitions.flatMap fun transition =>
      [0.0, 0.5, 2.0].flatMap (scaledJournal net solver solving settings transition)

end RateImpact

/-- The impacts of emptying a place, of doubling its tokens, and of one token more. -/
structure MarkingImpact where
  place : String
  emptied : Float
  doubled : Float
  incremented : Float
  impact : Float
  category : ImpactCategory
deriving Inhabited

namespace MarkingImpact

/-- The changed initial numbers of tokens that are tried: none, twice as many, one more. -/
def variants (place : Place) : List Int :=
  [0, Number.clamp (place.initialTokens * 2), Number.clamp (place.initialTokens + 1)]

/-- The impact of another initial number of tokens. -/
def ofTokens (net : Net) (solver : Solver) (settings : Settings) (baseline : Trajectory)
    (place : Place) (tokens : Int) : Except DynamicsError Float :=
  match (net.withInitialTokens place.id tokens).toOption.bind fun changed =>
      (changed.trajectory solver settings.timeSpan).toOption with
  | some t => baseline.impact t settings.metric settings.sampleTimes
  | none => .ok (1.0 / 0.0)

/-- The impacts of the initial number of tokens of a place. -/
def ofPlace (net : Net) (solver : Solver) (settings : Settings) (baseline : Trajectory)
    (place : Place) : Except DynamicsError MarkingImpact := do
  let impactOf := ofTokens net solver settings baseline place
  let emptied ← impactOf 0
  let doubled ← impactOf (Number.clamp (place.initialTokens * 2))
  let incremented ← impactOf (Number.clamp (place.initialTokens + 1))
  let impact := Number.greater (Number.greater emptied doubled) incremented
  return ⟨place.id, emptied, doubled, incremented, impact, .ofImpact settings impact⟩

/-- The impacts of the initial tokens of all places that count tokens. -/
def ofNet (net : Net) (solver : Solver) (settings : Settings) :
    Except DynamicsError (List MarkingImpact) := do
  let baseline ← net.trajectory solver settings.timeSpan
  (net.places.filter Place.isToken).mapM (ofPlace net solver settings baseline)

/-- The document of an impact. -/
def toJson (m : MarkingImpact) : Json :=
  .object [("place", .str m.place), ("emptied", .float m.emptied), ("doubled", .float m.doubled),
    ("incremented", .float m.incremented), ("impact", .float m.impact),
    ("category", .str m.category.name)]

/-- What grading all initial tokens reports, where following reactions reports `solving`. -/
def journal (net : Net) (solving : Problem → Journal) (settings : Settings) : Journal :=
  solving (Problem.ofNet net settings.timeSpan)
    ++ (net.places.filter Place.isToken).flatMap fun place =>
      (variants place).flatMap fun tokens =>
        match net.withInitialTokens place.id tokens with
        | .ok changed => solving (Problem.ofNet changed settings.timeSpan)
        | .error _ => []

end MarkingImpact

end GuardedNet
