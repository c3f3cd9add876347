import GuardedNet.Dynamics.Equivalence
import GuardedNet.Report.Analysis
import GuardedNet.Structure.Correspondence
import GuardedNet.Structure.Signature

/-!
# Reports on two nets

How two nets differ in their signatures and, if wanted, under a correspondence and in their
courses.
-/

namespace GuardedNet

/-- How two nets differ. -/
structure ComparisonReport where
  left : String
  right : String
  signature : SignatureComparison
  correspondence : Option (List CorrespondenceFault)
  matching : Option Matching
  courses : Option CourseComparison
deriving Inhabited

namespace ComparisonReport

/-- Matches the places of two nets and compares the unique matches at the sample times. -/
def compareCourses (left right : Net) (settings : Settings) :
    Except DynamicsError (Matching × CourseComparison) := do
  let solver := RungeKutta.solve settings.step
  let matching ← Matching.discover left right solver settings
  let courses ← CourseComparison.ofNets left right matching.unique solver settings
    settings.sampleTimes
  return (matching, courses)

/-- Compares two nets, under a correspondence if one is given, and by their courses if
wanted. -/
def ofNets (left right : Net) (correspondence : Option Correspondence) (wantsCourses : Bool)
    (settings : Settings) : Except DynamicsError ComparisonReport := do
  let courses ←
    if wantsCourses then do
      let found ← compareCourses left right settings
      pure (some found)
    else pure none
  return {
    left := left.name
    right := right.name
    signature := SignatureComparison.ofNets left right
    correspondence := correspondence.map fun c => c.faults left right
    matching := courses.map (·.1)
    courses := courses.map (·.2) }

/-- What comparing courses reports. -/
def coursesJournal (left right : Net) (settings : Settings) : Journal :=
  let solver := RungeKutta.solve settings.step
  let solving := RungeKutta.journal settings.step
  Matching.journal left right solver solving settings
    ++ match Matching.discover left right solver settings with
      | .error _ => []
      | .ok matching =>
        CourseComparison.journal left right matching.unique solver solving settings

/-- What a comparison reports in its course. -/
def journal (left right : Net) (correspondence : Option Correspondence) (wantsCourses : Bool)
    (settings : Settings) : Journal :=
  SignatureComparison.journal left right
    ++ (match correspondence with
      | some c => c.journal left right
      | none => [])
    ++ (if wantsCourses then coursesJournal left right settings else [])

/-- The lines on a correspondence. -/
def correspondenceLines (faults : List CorrespondenceFault) : List String :=
  "" :: ("见证同构: " ++ Text.ofBool faults.isEmpty)
    :: faults.map fun fault => "  " ++ fault.message

/-- The lines on courses. -/
def courseLines (c : CourseComparison) : List String :=
  "" :: ("行为等价: " ++ Text.ofBool c.equivalent)
    :: ("最大差异: " ++ Number.fixedText 6 c.maxDifference)
    :: c.divergences.map Divergence.line

/-- The lines of a report. -/
def lines (r : ComparisonReport) : List String :=
  ["模型比较报告",
   "模型: " ++ r.left ++ " / " ++ r.right,
   Report.timeLine,
   "签名等价: " ++ Text.ofBool r.signature.equivalent]
    ++ r.signature.differences.map (fun difference => "  " ++ difference.message)
    ++ (r.correspondence.map correspondenceLines).getD []
    ++ (r.matching.map fun matching =>
      "" :: "库所映射:" :: List.map PlaceMatch.line matching).getD []
    ++ (r.courses.map courseLines).getD []

/-- The text of a report. -/
def text (r : ComparisonReport) : String := Text.lines r.lines

/-- The document of the faults of a correspondence. -/
def faultsJson (faults : List CorrespondenceFault) : Json :=
  .object [("isomorphic", .bool faults.isEmpty),
    ("violations", .array (faults.map CorrespondenceFault.toJson))]

/-- The document of a report. -/
def toJson (r : ComparisonReport) : Json :=
  .object [("left", .str r.left), ("right", .str r.right), ("signature", r.signature.toJson),
    ("isomorphism", .ofOption faultsJson r.correspondence),
    ("mapping", .ofOption Matching.toJson r.matching),
    ("behavior", .ofOption CourseComparison.toJson r.courses),
    ("analysis_time", Report.timeJson)]

end ComparisonReport

end GuardedNet
