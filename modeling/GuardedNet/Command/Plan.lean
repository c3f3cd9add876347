import GuardedNet.Command.Failure
import GuardedNet.Command.Options
import GuardedNet.Folder
import GuardedNet.Json.Value
import GuardedNet.Net.Drawing
import GuardedNet.Report.Analysis
import GuardedNet.Report.Comparison
import GuardedNet.Report.Sensitivity

/-!
# Plans

A task reads files and then says what it has found, after it has written files with it. What it
says and writes follows from what it reads, so it is a plan: the texts to write in order, and
the text to say once all of them are written.
-/

namespace GuardedNet.Command

/-- A text to write. -/
structure Writing where
  path : String
  text : String
  /-- The failure if the file cannot be written, for a given reason. -/
  refused : String → Failure
  /-- What is reported once it is written. -/
  notes : Journal := []

/-- Texts to write in order, and the text to say then. -/
structure Plan where
  writings : List Writing
  text : String

/-! ### Making plans -/

/-- The net in the file at a path. -/
def readNet (files : Files) (path : String) : Except Failure Net :=
  match files.readNet path with
  | .ok net => .ok net
  | .error cause => .error (.net path cause)

/-- The correspondence in the file at a path. -/
def readCorrespondence (files : Files) (path : String) : Except Failure Correspondence :=
  match files.read path with
  | .error reason => .error (.correspondenceUnreadable path reason)
  | .ok text =>
    match (Json.parse? text).bind Correspondence.ofJson? with
    | none => .error (.correspondenceUnparsable path)
    | some correspondence => .ok correspondence

/-- The correspondence in the file at a path, if one is wanted. -/
def readCorrespondence? (files : Files) :
    Option String → Except Failure (Option Correspondence)
  | none => .ok none
  | some path => (readCorrespondence files path).map some

/-- The writing of a drawing, if one is wanted. -/
def drawingWritings (net : Net) : Option String → List Writing
  | none => []
  | some path =>
    [{ path
       text := net.drawing
       refused := .drawingUnwritable path
       notes := [.info ("DOT rendering written to " ++ Text.quotedStrictly path)] }]

/-- The writings of a report, if it is to be kept: its text with one more line end, and beside
it the document. -/
def reportWritings (text : String) (document : Json) : Option String → List Writing
  | none => []
  | some path =>
    [{ path
       text := text ++ "\n"
       refused := .reportUnwritable path },
     { path := path ++ ".json"
       text := document.pretty
       refused := .reportUnwritable path
       notes := [.info ("report written to " ++ Text.quotedStrictly path ++ " (and .json)")] }]

/-- The writing of a value, if it is to be kept. -/
def valueWritings (value : Value) : Option String → List Writing
  | none => []
  | some path =>
    [{ path
       text := value.toJson.pretty
       refused := .valueUnwritable path }]

/-- The bindings of a guard to texts; of two bindings of one name the later counts. -/
def textScope (bindings : List (String × String)) : Guard.Scope where
  bindings := Dictionary.ofPairs (bindings.map fun (name, text) => (name, Value.str text))
  functions := Guard.builtins

/-- What a task comes to. -/
def Options.plan (options : Options) (settings : Settings) (files : Files) :
    Except Failure Plan := do
  match options.task with
  | .analyze path drawing => do
    let net ← readNet files path
    let report := AnalysisReport.ofNet net
    return ⟨drawingWritings net drawing ++ reportWritings report.text report.toJson options.output,
      report.text⟩
  | .compare left right correspondence wantsCourses => do
    let left ← readNet files left
    let right ← readNet files right
    let correspondence ← readCorrespondence? files correspondence
    let report ← (ComparisonReport.ofNets left right correspondence wantsCourses
      settings).mapError .dynamics
    return ⟨reportWritings report.text report.toJson options.output, report.text⟩
  | .sensitivity path metric => do
    let net ← readNet files path
    let report ← (SensitivityReport.ofNet net
      { settings with metric := metric.getD settings.metric }).mapError .dynamics
    return ⟨reportWritings report.text report.toJson options.output, report.text⟩
  | .reach path target maxSteps => do
    let net ← readNet files path
    let report ← (ReachabilityReport.ofNet net target
      (maxSteps.getD settings.maxReachSteps)).mapError .target
    return ⟨reportWritings report.text report.toJson options.output, report.text⟩
  | .evaluate guard bindings => do
    let value ← (Guard.evaluate (textScope bindings) guard).mapError (.guard guard)
    return ⟨valueWritings value options.output, value.render⟩

/-- The files that a task reads, its settings included. -/
def Options.inputs (options : Options) : List String :=
  options.settings.toList ++
    match options.task with
    | .analyze path _ => [path]
    | .compare left right correspondence _ => [left, right] ++ correspondence.toList
    | .sensitivity path _ => [path]
    | .reach path _ _ => [path]
    | .evaluate _ _ => []

/-! ### Carrying out plans -/

/-- What carrying out a plan comes to. What was written before a failure stays. -/
structure Outcome where
  result : Except Failure String
  folder : Folder
  journal : Journal

/-- Carries out a plan in a folder. -/
def Plan.carryOut (plan : Plan) (folder : Folder) : Outcome :=
  go plan.writings folder []
where
  /-- Writes the given texts, after the notes so far. -/
  go : List Writing → Folder → Journal → Outcome
    | [], folder, notes => ⟨.ok plan.text, folder, notes⟩
    | writing :: rest, folder, notes =>
      match folder.write writing.path writing.text with
      | .error reason => ⟨.error (writing.refused reason), folder, notes⟩
      | .ok folder => go rest folder (notes ++ writing.notes)

/-- Does a task in a folder. -/
def Options.perform (options : Options) (settings : Settings) (folder : Folder) : Outcome :=
  match options.plan settings folder.files with
  | .error failure => ⟨.error failure, folder, []⟩
  | .ok plan => plan.carryOut folder

/-! ### Settings -/

/-- The settings for a task: those of the file that was named, or the usual ones. -/
def Options.readSettings (options : Options) (files : Files) : Except SettingsError Settings :=
  match options.settings with
  | none => .ok Settings.default
  | some path => files.readSettings path

/-- What reading the settings reports. -/
def Options.settingsJournal (options : Options) (files : Files) : Journal :=
  (match options.settings with
    | none => []
    | some path => files.readSettingsJournal path)
  ++ match options.readSettings files with
    | .error _ => []
    | .ok settings => [.debug ("analysis config: " ++ settings.detail)]

/-! ### What making a plan reports -/

/-- What reading a net for a task reports. -/
def readJournal (files : Files) (path : String) : Journal :=
  files.readNetJournal path
    ++ match files.readNet path with
      | .error _ => []
      | .ok net =>
        [.debug ("loaded `" ++ net.name ++ "`: " ++ Number.natText net.places.length
          ++ " places, " ++ Number.natText net.transitions.length ++ " transitions, "
          ++ Number.natText net.arcs.length ++ " arcs")]

/-- Goes on with a result, if there is one. -/
def whenOk {ε α : Type} (result : Except ε α) (next : α → Journal) : Journal :=
  match result with
  | .error _ => []
  | .ok a => next a

/-- What reading a net and going on with it reports. -/
def withNet (files : Files) (path : String) (next : Net → Journal) : Journal :=
  readJournal files path ++ whenOk (files.readNet path) next

/-- What making the plan of a task reports. -/
def Options.journal (options : Options) (settings : Settings) (files : Files) : Journal :=
  match options.task with
  | .analyze path _ => withNet files path AnalysisReport.journal
  | .compare left right correspondence wantsCourses =>
    withNet files left fun left =>
      withNet files right fun right =>
        whenOk (readCorrespondence? files correspondence) fun correspondence =>
          ComparisonReport.journal left right correspondence wantsCourses settings
  | .sensitivity path metric =>
    withNet files path fun net =>
      SensitivityReport.journal net { settings with metric := metric.getD settings.metric }
  | .reach path target maxSteps =>
    withNet files path fun net =>
      ReachabilityReport.journal net target (maxSteps.getD settings.maxReachSteps)
  | .evaluate _ _ => []

end GuardedNet.Command
