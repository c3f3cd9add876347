import GuardedNet.Dynamics.Trajectory
import GuardedNet.Guard.Function
import GuardedNet.Report.Reachability
import GuardedNet.Settings.File

/-!
# Failures of tasks

A failure is told from the outside in: what was tried, and then every cause below it. A cause
that quotes the one below it is followed by that one all the same.
-/

namespace GuardedNet.Command

/-- Why a task has no result. -/
inductive Failure where
  | settings (cause : SettingsError)
  | net (path : String) (cause : FileError)
  | correspondenceUnreadable (path reason : String)
  | correspondenceUnparsable (path : String)
  | dynamics (cause : DynamicsError)
  | target (cause : TargetError)
  | drawingUnwritable (path reason : String)
  | reportUnwritable (path reason : String)
  | valueUnwritable (path reason : String)
  | guard (text : String) (cause : Guard.Error)
deriving Inhabited

/-- The causes of a settings error, outermost first. -/
def settingsCauses : SettingsError → List String
  | .unreadable path reason =>
    ["Failed to read config file: " ++ Text.quotedStrictly path, reason]
  | .unparsable path => ["Failed to parse config file: " ++ Text.quotedStrictly path]

/-- The causes of a file error, outermost first. -/
def fileCauses (error : FileError) : List String :=
  error.message ::
    match error with
    | .invalid cause => [cause.message]
    | .access reason => [reason]
    | _ => []

/-- The causes of an error in following reactions, outermost first. -/
def dynamicsCauses (error : DynamicsError) : List String :=
  error.message ::
    match error with
    | .solve _ cause => [cause.message]
    | .unknownPlace _ _ | .outOfRange => []

namespace Failure

/-- All causes, outermost first. -/
def causes : Failure → List String
  | .settings cause => settingsCauses cause
  | .net path cause => ("Failed to load model: " ++ Text.quotedStrictly path) :: fileCauses cause
  | .correspondenceUnreadable path reason =>
    ["Failed to read witness: " ++ Text.quotedStrictly path, reason]
  | .correspondenceUnparsable path => ["Failed to parse witness: " ++ Text.quotedStrictly path]
  | .dynamics cause => dynamicsCauses cause
  | .target cause => [cause.message]
  | .drawingUnwritable path reason =>
    ["Failed to write DOT file: " ++ Text.quotedStrictly path, reason]
  | .reportUnwritable path reason =>
    ["Failed to write report: " ++ Text.quotedStrictly path, reason]
  | .valueUnwritable path reason =>
    ["Failed to write output file: " ++ Text.quotedStrictly path, reason]
  | .guard text cause => ["Failed to evaluate `" ++ text ++ "`", cause.message, cause.cause]

/-- Whether a text was no document of its format. -/
def isSyntactic : Failure → Bool
  | .settings (.unparsable _) => true
  | .net _ (.syntaxError _) => true
  | .correspondenceUnparsable _ => true
  | _ => false

/-- What was tried. -/
def headline (failure : Failure) : String := failure.causes.headD ""

/-- The wording of a failure with all its causes. -/
def message (failure : Failure) : String := Text.joined ": " failure.causes

end Failure

end GuardedNet.Command
