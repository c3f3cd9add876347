import GuardedNet.Report.Analysis
import GuardedNet.Run.Search

/-!
# Reports on reachability

Whether a marking can be reached from the initial one, and how.
-/

namespace GuardedNet

/-- Why a target is no marking. -/
inductive TargetError where
  | unknownPlace (place : String)
  | dataPlace (place : String)
deriving DecidableEq, Inhabited

/-- The wording of an error. -/
def TargetError.message : TargetError → String
  | .unknownPlace place => "Unknown place in target: `" ++ place ++ "`"
  | .dataPlace place => "`" ++ place ++ "` is a data place and cannot be targeted by count"

/-- What a search for a marking found. -/
structure ReachabilityReport where
  net : String
  target : String
  maxSteps : Nat
  path : Option (List String)
  explored : Nat
  rejected : Nat
  truncated : Bool
deriving DecidableEq, Inhabited

namespace ReachabilityReport

/-- A marking with the number of tokens of a place replaced. -/
def aim (net : Net) (m : Marking) (wanted : String × Int) : Except TargetError Marking :=
  match net.placeIndex? wanted.1 with
  | none => .error (.unknownPlace wanted.1)
  | some index =>
    if (net.places[index]?).any Place.isToken then .ok (m.setTokens index wanted.2)
    else .error (.dataPlace wanted.1)

/-- The initial marking with the wanted numbers of tokens. -/
def goal (net : Net) (target : List (String × Int)) : Except TargetError Marking :=
  target.foldlM (aim net) (Marking.initial net)

/-- Searches for a marking from the initial one. -/
def ofNet (net : Net) (target : List (String × Int)) (maxSteps : Nat) :
    Except TargetError ReachabilityReport := do
  let goal ← goal net target
  let result := (Execution.start net true).search goal maxSteps
  return {
    net := net.name
    target := goal.render net
    maxSteps := maxSteps
    path := result.path.map fun path => path.map net.transitionId
    explored := result.explored
    rejected := result.rejected
    truncated := result.truncated }

/-- What a search reports in its course. -/
def journal (net : Net) (target : List (String × Int)) (maxSteps : Nat) : Journal :=
  match goal net target, ofNet net target maxSteps with
  | .ok goal, .ok report =>
    (Execution.start net true).searchJournal goal maxSteps
      ++ [.info ("reachability of `" ++ net.name ++ "`: " ++ Number.natText report.explored
        ++ " marking(s) explored, reached = " ++ Text.ofBool report.path.isSome)]
  | _, _ => []

/-- The line for the outcome. -/
def outcomeLine (r : ReachabilityReport) : String :=
  match r.path with
  | some [] => "可达: 初始标识即为目标"
  | some path =>
    "可达: " ++ Number.natText path.length ++ " 步 " ++ Text.bracketed path
  | none =>
    if r.truncated then "在 " ++ Number.natText r.maxSteps ++ " 步内不可达 (搜索被截断)"
    else "不可达"

/-- The lines of a report. -/
def lines (r : ReachabilityReport) : List String :=
  ["可达性分析报告",
   "模型: " ++ r.net,
   "目标标识: " ++ r.target,
   Report.timeLine,
   r.outcomeLine,
   "已探索标识: " ++ Number.natText r.explored ++ ", 被拒绝的发射: "
     ++ Number.natText r.rejected]

/-- The text of a report. -/
def text (r : ReachabilityReport) : String := Text.lines r.lines

/-- The document of a report. -/
def toJson (r : ReachabilityReport) : Json :=
  .object [("model", .str r.net), ("target", .str r.target), ("max_steps", .ofNat r.maxSteps),
    ("path", .ofOption .ofTexts r.path), ("explored", .ofNat r.explored),
    ("rejected", .ofNat r.rejected), ("truncated", .bool r.truncated),
    ("analysis_time", Report.timeJson)]

end ReachabilityReport

end GuardedNet
