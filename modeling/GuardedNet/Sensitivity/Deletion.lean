import GuardedNet.Net.Variation
import GuardedNet.Sensitivity.Impact
import GuardedNet.Text.Sorted

/-!
# Sensitivity to deletion

Deletes each place, each transition and some or all arcs in turn, follows what is left, and
grades the impact.
-/

namespace GuardedNet

/-- The impact of deleting an element, and why it is critical if it is. -/
structure ElementImpact where
  kind : ElementKind
  id : String
  impact : Float
  category : ImpactCategory
  reason : Option String
deriving Inhabited

/-- Elements of one kind whose deletions have nearly the same impact. -/
structure SymmetryGroup where
  kind : ElementKind
  impact : Float
  elements : List String
deriving Inhabited

/-- The impacts of all deletions. -/
structure DeletionReport where
  net : String
  metric : Metric
  elements : List ElementImpact
  groups : List SymmetryGroup
deriving Inhabited

namespace Net

/-- The transitions of a changed net that took from places before, and now give without
taking. -/
def orphanedProducers (intact changed : Net) : List String :=
  changed.transitions.zipIdx.filterMap fun (transition, index) =>
    let tookBefore := (intact.transitionIndex? transition.id).any fun before =>
      !(intact.inputs before).isEmpty
    if (changed.inputs index).isEmpty && !(changed.outputs index).isEmpty && tookBefore then
      some transition.id
    else none

end Net

/-- At most `cap` positions of arcs out of `total`, evenly spread. -/
def sampledArcs (total : Nat) (cap : Option Nat) : List Nat :=
  match cap with
  | some cap =>
    if cap < total then (List.range cap).map fun i => i * total / cap else List.range total
  | none => List.range total

/-- A net with an element less, or why there is none. -/
structure Deletion where
  kind : ElementKind
  id : String
  result : Except NetError Net

/-- The deletions of all places, all transitions and the sampled arcs, in that order. -/
def Net.deletions (net : Net) (maxArcs : Option Nat) : List Deletion :=
  net.places.map (fun place => ⟨.place, place.id, net.withoutPlace place.id⟩)
    ++ net.transitions.map (fun transition =>
      ⟨.transition, transition.id, net.withoutTransition transition.id⟩)
    ++ (sampledArcs net.arcs.length maxArcs).map fun index =>
      ⟨.arc, (net.arcs[index]?.map Arc.label).getD "", net.withoutArc index⟩

namespace ElementImpact

/-- An impact that is critical for a reason. -/
def critical (d : Deletion) (impact : Float) (reason : String) : ElementImpact :=
  ⟨d.kind, d.id, impact, .critical, some reason⟩

/-- The impact of a solved deletion whose greatest difference is known. -/
def ofValue (settings : Settings) (intact changed : Net) (d : Deletion) (value : Float) :
    ElementImpact :=
  match Net.orphanedProducers intact changed with
  | [] =>
    match ImpactCategory.ofImpact settings value with
    | .critical =>
      critical d value (if value.isFinite then
        "impact " ++ Number.plainStyle.text value ++ " exceeds divergence limit"
        else "trajectory diverged")
    | category => ⟨d.kind, d.id, value, category, none⟩
  | orphans => critical d value ("unbounded producer(s): " ++ Text.joined ", " orphans)

/-- The impact of a deletion. One that leaves nothing to follow is critical. -/
def ofDeletion (solver : Solver) (settings : Settings) (intact : Net) (baseline : Trajectory)
    (d : Deletion) : Except DynamicsError ElementImpact :=
  match d.result with
  | .error cause => .ok (critical d (1.0 / 0.0) cause.message)
  | .ok changed =>
    if changed.places.isEmpty then .ok (critical d (1.0 / 0.0) "no places remain")
    else if changed.transitions.isEmpty then
      .ok (critical d (1.0 / 0.0) "no transitions remain")
    else
      match solver (Problem.ofNet changed settings.timeSpan) with
      | .error cause => .ok (critical d (1.0 / 0.0) ("solver failed: " ++ cause.message))
      | .ok trajectory =>
        ofValue settings intact changed d <$>
          baseline.impact trajectory settings.metric settings.sampleTimes

/-- The place of a kind of element in the order of groups. -/
def kindRank : ElementKind → Nat
  | .place => 0
  | .transition => 1
  | .arc => 2
  | .invariant => 3

/-- Whether an impact does not come after another, by kind and then by size. -/
def isSortedPair (a b : ElementImpact) : Bool :=
  if a.kind = b.kind then Number.totalRank a.impact ≤ Number.totalRank b.impact
  else kindRank a.kind < kindRank b.kind

/-- The document of an impact. -/
def toJson (e : ElementImpact) : Json :=
  .object ([("kind", .str e.kind.name), ("id", .str e.id), ("impact", .float e.impact),
    ("category", .str e.category.name)]
    ++ match e.reason with
      | some reason => [("reason", .str reason)]
      | none => [])

end ElementImpact

namespace SymmetryGroup

/-- Impacts no farther apart than this belong together. -/
def epsilon : Float := 1e-9

/-- Whether an impact belongs to the group that starts with another. -/
def joins (anchor e : ElementImpact) : Bool :=
  e.kind = anchor.kind && !(e.impact - anchor.impact > epsilon)

/-- The groups of a sorted list of impacts, those with a single member left out. -/
def ofSorted : List ElementImpact → List SymmetryGroup
  | [] => []
  | anchor :: rest =>
    let others := rest.takeWhile (joins anchor)
    let groups := ofSorted (rest.drop others.length)
    if others.isEmpty then groups
    else ⟨anchor.kind, anchor.impact, Text.sorted ((anchor :: others).map (·.id))⟩ :: groups
termination_by elements => elements.length
decreasing_by simp only [List.length_cons, List.length_drop]; omega

/-- The groups of elements with nearly the same finite impact. -/
def ofImpacts (elements : List ElementImpact) : List SymmetryGroup :=
  ofSorted ((elements.filter fun e => e.impact.isFinite).mergeSort ElementImpact.isSortedPair)

/-- The document of a group. -/
def toJson (g : SymmetryGroup) : Json :=
  .object [("kind", .str g.kind.name), ("impact", .float g.impact),
    ("elements", .ofTexts g.elements)]

end SymmetryGroup

namespace DeletionReport

/-- Grades all deletions. There is no report if the whole net has no trajectory. -/
def ofNet (net : Net) (solver : Solver) (settings : Settings) :
    Except DynamicsError DeletionReport := do
  let baseline ← net.trajectory solver settings.timeSpan
  let elements ← (net.deletions settings.maxArcs).mapM
    (ElementImpact.ofDeletion solver settings net baseline)
  return ⟨net.name, settings.metric, elements, SymmetryGroup.ofImpacts elements⟩

/-- The first element with the given kind and id. -/
def get? (report : DeletionReport) (kind : ElementKind) (id : String) : Option ElementImpact :=
  report.elements.find? fun e => e.kind = kind && e.id == id

/-- The elements of a category. -/
def inCategory (report : DeletionReport) (category : ImpactCategory) : List ElementImpact :=
  report.elements.filter fun e => e.category == category

/-- The document of a report. -/
def toJson (report : DeletionReport) : Json :=
  .object [("model", .str report.net), ("metric", .str report.metric.name),
    ("elements", .array (report.elements.map ElementImpact.toJson)),
    ("symmetry_groups", .array (report.groups.map SymmetryGroup.toJson))]

/-- What one deletion reports, where following reactions reports `solving`. -/
def deletionJournal (solving : Problem → Journal) (settings : Settings) (d : Deletion) : Journal :=
  match d.result with
  | .error _ => []
  | .ok changed =>
    changed.journal ++
      if changed.places.isEmpty || changed.transitions.isEmpty then []
      else solving (Problem.ofNet changed settings.timeSpan)

/-- What grading all deletions reports, where following reactions reports `solving`. -/
def journal (net : Net) (solver : Solver) (solving : Problem → Journal) (settings : Settings) :
    Journal :=
  solving (Problem.ofNet net settings.timeSpan)
    ++ match ofNet net solver settings with
      | .error _ => []
      | .ok report =>
        (net.deletions settings.maxArcs).flatMap (deletionJournal solving settings)
          ++ [.info ("deletion sensitivity of `" ++ net.name ++ "`: "
            ++ Number.natText report.elements.length ++ " element(s), "
            ++ Number.natText (report.inCategory .critical).length ++ " critical, "
            ++ Number.natText report.groups.length ++ " symmetry group(s)")]

end DeletionReport

end GuardedNet
