import GuardedNet.Net.Diagnosis
import GuardedNet.Run.Execution
import GuardedNet.Structure.Basis

/-!
# Reports on structure

The matrix of a net, its place invariants, the invariants it declares and its connections, as
text and as a document. Reports have a field for the time they took, which stays at zero, so
that equal inputs give equal reports.
-/

namespace GuardedNet

namespace Report

/-- The line for the time that a report took. -/
def timeLine : String := "分析时间: 0ns"

/-- The document for the time that a report took. -/
def timeJson : Json := .object [("secs", .int 0), ("nanos", .int 0)]

/-- A section with a heading and its lines after an empty line; nothing without lines. -/
def optionalSection (heading : String) (lines : List String) : List String :=
  if lines.isEmpty then [] else "" :: heading :: lines

end Report

/-- The outcome of a declared invariant in the initial marking. -/
structure DeclaredInvariant where
  id : String
  expression : String
  holds : Bool
  error : Option String
deriving DecidableEq, Inhabited

namespace DeclaredInvariant

/-- The outcome of an evaluation. -/
def ofOutcome (invariant : Invariant) (outcome : Except Guard.Error Bool) : DeclaredInvariant where
  id := invariant.id
  expression := invariant.expression
  holds := match outcome with
    | .ok holds => holds
    | .error _ => false
  error := match outcome with
    | .ok _ => none
    | .error cause => some cause.message

/-- The line of a declared invariant. -/
def line (d : DeclaredInvariant) : String :=
  match d.error with
  | some error => "  " ++ d.id ++ ": 错误 " ++ error
  | none => "  " ++ d.id ++ ": " ++ d.expression ++ " => " ++ Text.ofBool d.holds

/-- The document of a declared invariant. -/
def toJson (d : DeclaredInvariant) : Json :=
  .object [("id", .str d.id), ("expression", .str d.expression), ("holds", .bool d.holds),
    ("error", .ofOption .str d.error)]

end DeclaredInvariant

/-- What is known about the structure of a net. -/
structure AnalysisReport where
  net : String
  version : String
  matrix : Matrix
  conservation : Conservation
  basis : List PlaceInvariant
  declared : List DeclaredInvariant
  diagnosis : Diagnosis
deriving DecidableEq, Inhabited

namespace AnalysisReport

/-- Analyses the structure of a net. -/
def ofNet (net : Net) : AnalysisReport :=
  let matrix := Matrix.ofNet net
  { net := net.name
    version := net.document.version
    matrix := matrix
    conservation := Conservation.ofNet Partition.labelling net matrix
    basis := net.invariantBasis matrix
    declared := (Execution.start net true).invariantOutcomes.map fun (invariant, outcome) =>
      DeclaredInvariant.ofOutcome invariant outcome
    diagnosis := net.diagnose }

/-- What an analysis reports in its course. -/
def journal (net : Net) : Journal :=
  let matrix := Matrix.ofNet net
  Conservation.journal Partition.labelling net matrix ++ matrix.basisJournal
    ++ net.diagnose.journal net.name

/-- The line of a discovered invariant. -/
def discoveredLine (index : Nat) (invariant : PlaceInvariant) : String :=
  "  #" ++ Number.natText (index + 1) ++ " " ++ invariant.render ++ " ["
    ++ (if invariant.verified then "已证明" else "未证明") ++ "]"

/-- The lines of a report. -/
def lines (r : AnalysisReport) : List String :=
  ["结构分析报告",
   "模型: " ++ r.net ++ " (" ++ r.version ++ ")",
   Report.timeLine,
   "库所数: " ++ Number.natText r.diagnosis.totalPlaces ++ ", 变迁数: "
     ++ Number.natText r.diagnosis.totalTransitions,
   "",
   "关联矩阵:"]
    ++ r.matrix.lines
    ++ ["",
      "守恒变迁: " ++ Text.joined ", " r.conservation.conservative,
      "非守恒变迁: " ++ Text.joined ", " r.conservation.nonConservative]
    ++ Report.optionalSection "发现的不变量:"
      (r.conservation.invariants.zipIdx.map fun (invariant, index) =>
        discoveredLine index invariant)
    ++ Report.optionalSection "不变量基:" (r.basis.map fun invariant => "  " ++ invariant.render)
    ++ Report.optionalSection "声明的不变量 (初始标识):" (r.declared.map DeclaredInvariant.line)
    ++ Report.optionalSection "诊断:"
      (r.diagnosis.isolatedPlaces.map ("  孤立库所: " ++ ·)
        ++ r.diagnosis.isolatedTransitions.map ("  孤立变迁: " ++ ·)
        ++ r.diagnosis.warnings.map ("  警告: " ++ ·))

/-- The text of a report. -/
def text (r : AnalysisReport) : String := Text.lines r.lines

/-- The document of a report. -/
def toJson (r : AnalysisReport) : Json :=
  .object [("model", .str r.net), ("version", .str r.version), ("matrix", r.matrix.toJson),
    ("structural", r.conservation.toJson),
    ("basis", .array (r.basis.map PlaceInvariant.toJson)),
    ("declared", .array (r.declared.map DeclaredInvariant.toJson)),
    ("diagnostics", r.diagnosis.toJson), ("analysis_time", Report.timeJson)]

end AnalysisReport

end GuardedNet
