import GuardedNet.Command.Grammar
import GuardedNet.Settings
import GuardedNet.Text.CharClass

/-!
# What a command line asks for
-/

namespace GuardedNet.Command

/-- One thing to do. -/
inductive Task where
  /-- Analyses the structure of a net, and draws it if wanted. -/
  | analyze (net : String) (drawing : Option String)
  /-- Compares two nets. -/
  | compare (left right : String) (correspondence : Option String) (wantsCourses : Bool)
  /-- Finds what a net is sensitive to. -/
  | sensitivity (net : String) (metric : Option Metric)
  /-- Searches for a marking; places that are not named keep their initial count. -/
  | reach (net : String) (target : List (String × Int)) (maxSteps : Option Nat)
  /-- Evaluates a guard. -/
  | evaluate (guard : String) (bindings : List (String × String))
deriving DecidableEq, Inhabited

/-- A task, the file with the settings for it, and the file for what it finds. -/
structure Options where
  task : Task
  settings : Option String
  output : Option String
deriving DecidableEq, Inhabited

/-- Why a command line gives no options. -/
inductive OptionsError where
  | usage (cause : UsageError)
  | notBinding (raw : String)
  | notCount (raw : String)
deriving DecidableEq, Inhabited

/-- The wording of an error. -/
def OptionsError.message : OptionsError → String
  | .usage cause => cause.name
  | .notBinding raw => "binding `" ++ raw ++ "` is not of the form NAME=VALUE"
  | .notCount raw => "token count in `" ++ raw ++ "` is not an integer"

/-! ### The commands -/

/-- The option that every command has. -/
def helpSwitch : Switch := ⟨"help", some 'h', .help⟩

/-- The options that may stand before and after the name of a command. -/
def sharedSwitches : List Switch :=
  [⟨"config", some 'c', .value ⟨"config", .path, false⟩⟩,
   ⟨"output", some 'o', .value ⟨"output", .path, false⟩⟩,
   helpSwitch]

/-- A command with switches of its own. -/
def commandGrammar (positions : List Slot) (switches : List Switch) : Grammar where
  switches := switches ++ sharedSwitches
  positions := positions

/-- A position for the path of a net. -/
def netSlot (name : String) : Slot := ⟨name, .path, false⟩

/-- The commands by name. -/
def commands : List (String × Grammar) :=
  [("analyze", commandGrammar [netSlot "model"]
      [⟨"dot", none, .value ⟨"dot", .path, false⟩⟩]),
   ("compare", commandGrammar [netSlot "left", netSlot "right"]
      [⟨"witness", some 'w', .value ⟨"witness", .path, false⟩⟩,
       ⟨"behavior", some 'b', .flag "behavior"⟩]),
   ("sensitivity", commandGrammar [netSlot "model"]
      [⟨"metric", some 'm', .value ⟨"metric", .oneOf ["pointwise", "token_mass"], false⟩⟩]),
   ("reach", commandGrammar [netSlot "model"]
      [⟨"set", none, .value ⟨"set", .text, true⟩⟩,
       ⟨"max-steps", none, .value ⟨"max-steps", .size, false⟩⟩]),
   ("eval", commandGrammar [⟨"expression", .text, false⟩]
      [⟨"bind", none, .value ⟨"bind", .text, true⟩⟩])]

/-- The command that shows help. -/
def helpCommand : String := "help"

/-- What stands before the name of a command. -/
def rootGrammar : Grammar where
  switches := ⟨"version", some 'V', .version⟩ :: sharedSwitches
  commands := commands.map (·.1) ++ [helpCommand]

/-- Help on the command that some words name. No command has commands below it. -/
def helpOn : List String → UsageError
  | [] => .displayHelp
  | [topic] => if rootGrammar.commands.contains topic then .displayHelp else .invalidSubcommand
  | _ => .invalidSubcommand

/-! ### Tasks -/

/-- A name and a value with an equals sign between them; blanks around the name do not
count. -/
def readBinding (raw : String) : Except OptionsError (String × String) :=
  let name := raw.toList.takeWhile (· != '=')
  match raw.toList.drop name.length with
  | [] => .error (.notBinding raw)
  | _ :: value =>
    let name := Text.trimBlanks name
    if name.isEmpty then .error (.notBinding raw)
    else .ok (String.ofList name, String.ofList value)

/-- A place and its token count. -/
def readCount (raw : String) : Except OptionsError (String × Int) := do
  let (place, count) ← readBinding raw
  match Number.readInt? (Text.trimBlanks count.toList) with
  | some n => .ok (place, n)
  | none => .error (.notCount raw)

/-- The task of a command whose words were read. -/
def taskOf (command : String) (r : Reading) : Except OptionsError Task :=
  let filled (name : String) : String := (r.last? name).getD ""
  match command with
  | "analyze" => .ok (.analyze (filled "model") (r.last? "dot"))
  | "compare" =>
    .ok (.compare (filled "left") (filled "right") (r.last? "witness") (r.has "behavior"))
  | "sensitivity" => .ok (.sensitivity (filled "model") ((r.last? "metric").bind Metric.ofName?))
  | "reach" => do
    let target ← (r.all "set").mapM readCount
    return .reach (filled "model") target
      ((r.last? "max-steps").bind fun steps => Number.readSize? steps.toList)
  | "eval" => do
    let bindings ← (r.all "bind").mapM readBinding
    return .evaluate (filled "expression") bindings
  | _ => .error (.usage .missingSubcommand)

/-- The readings before and after the name of a command. -/
def readCommand (args : List String) : Except UsageError (Reading × String × Reading) := do
  match ← Reading.untilCommand rootGrammar {} args with
  | (r, none) => do
    let _ ← r.settle
    .error .missingSubcommand
  | (r, some (name, rest)) =>
    if name == helpCommand then .error (helpOn rest)
    else
      match commands.find? fun command => command.1 == name with
      | none => .error .invalidSubcommand
      | some (_, grammar) => do
        let inner ← grammar.read rest
        let outer ← r.settle
        return (outer, name, inner)

/-- What a command line asks for. A shared option after the name of the command wins over one
before it. -/
def Options.ofArguments (args : List String) : Except OptionsError Options := do
  match readCommand args with
  | .error cause => .error (.usage cause)
  | .ok (outer, name, inner) => do
    let task ← taskOf name inner
    return {
      task
      settings := (inner.last? "config").or (outer.last? "config")
      output := (inner.last? "output").or (outer.last? "output") }

end GuardedNet.Command
