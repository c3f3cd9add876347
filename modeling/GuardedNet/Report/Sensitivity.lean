import GuardedNet.Dynamics.RungeKutta
import GuardedNet.Report.Analysis
import GuardedNet.Sensitivity.Deletion
import GuardedNet.Sensitivity.Scaling

/-!
# Reports on sensitivity

The impacts of deletions, of rates and of initial tokens on a net.
-/

namespace GuardedNet

/-- How a net depends on its elements. -/
structure SensitivityReport where
  deletion : DeletionReport
  rates : List RateImpact
  markings : List MarkingImpact
deriving Inhabited

namespace SensitivityReport

/-- Analyses how a net depends on its elements. -/
def ofNet (net : Net) (settings : Settings) : Except DynamicsError SensitivityReport := do
  let solver := RungeKutta.solve settings.step
  let deletion ← DeletionReport.ofNet net solver settings
  let rates ← RateImpact.ofNet net solver settings
  let markings ← MarkingImpact.ofNet net solver settings
  return ⟨deletion, rates, markings⟩

/-- What an analysis reports in its course. -/
def journal (net : Net) (settings : Settings) : Journal :=
  let solver := RungeKutta.solve settings.step
  let solving := RungeKutta.journal settings.step
  DeletionReport.journal net solver solving settings
    ++ match net.trajectory solver settings.timeSpan with
      | .error _ => []
      | .ok _ =>
        RateImpact.journal net solver solving settings
          ++ MarkingImpact.journal net solving settings

/-- The line of an element. -/
def elementLine (e : ElementImpact) : String :=
  "  " ++ e.kind.name ++ " " ++ e.id ++ ": " ++ Number.fixedText 6 e.impact
    ++ match e.reason with
      | some reason => " (" ++ reason ++ ")"
      | none => ""

/-- The lines of the elements of a category. -/
def categoryLines (r : DeletionReport) (category : ImpactCategory) : List String :=
  let elements := r.inCategory category
  Report.optionalSection
    (category.name ++ " (" ++ Number.natText elements.length ++ "):")
    (elements.map elementLine)

/-- The line of a group. -/
def groupLine (g : SymmetryGroup) : String :=
  "  " ++ g.kind.name ++ " " ++ Text.bracketed g.elements ++ " 影响 "
    ++ Number.fixedText 6 g.impact

/-- The line of an impact with its category. -/
def gradedLine (id : String) (impact : Float) (category : ImpactCategory) : String :=
  "  " ++ id ++ ": " ++ Number.fixedText 6 impact ++ " (" ++ category.name ++ ")"

/-- The lines of a report. -/
def lines (r : SensitivityReport) : List String :=
  ["敏感性分析报告",
   "模型: " ++ r.deletion.net,
   "影响度量: " ++ r.deletion.metric.detail,
   Report.timeLine]
    ++ ImpactCategory.all.flatMap (categoryLines r.deletion)
    ++ Report.optionalSection "对称组:" (r.deletion.groups.map groupLine)
    ++ Report.optionalSection "速率敏感性:"
      (r.rates.map fun rate => gradedLine rate.transition rate.sensitivity rate.category)
    ++ Report.optionalSection "初始标识敏感性:"
      (r.markings.map fun marking => gradedLine marking.place marking.impact marking.category)

/-- The text of a report. -/
def text (r : SensitivityReport) : String := Text.lines r.lines

/-- The document of a report. -/
def toJson (r : SensitivityReport) : Json :=
  .object [("deletion", r.deletion.toJson), ("rates", .array (r.rates.map RateImpact.toJson)),
    ("markings", .array (r.markings.map MarkingImpact.toJson)),
    ("analysis_time", Report.timeJson)]

end SensitivityReport

end GuardedNet
