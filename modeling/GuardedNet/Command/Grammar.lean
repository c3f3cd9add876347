import GuardedNet.Number.Bounds

/-!
# Command lines

A command takes options, which start with dashes, and words by position. A word that belongs to
an option or a position waits until the next one begins; only then is it checked. So of two
faults the one in the earlier word is found first, but a word that the command does not know is
found before a fault in the word that waits.
-/

namespace GuardedNet.Command

/-- Why a command line gives no command. -/
inductive UsageError where
  /-- Help was asked for. -/
  | displayHelp
  /-- The version was asked for. -/
  | displayVersion
  /-- A word is an option that the command does not have, or one position too many. -/
  | unknownArgument
  /-- A word stands where a command is expected and names none. -/
  | invalidSubcommand
  /-- No command was given. -/
  | missingSubcommand
  /-- A position that must be filled is not. -/
  | missingRequiredArgument
  /-- An option lacks its value, or the value is not among the possible ones. -/
  | invalidValue
  /-- A value does not have the form it must have. -/
  | valueValidation
  /-- An option has a value and takes none. -/
  | tooManyValues
  /-- An option that may stand once stands twice. -/
  | argumentConflict
deriving DecidableEq, Inhabited

/-- The word for an error. -/
def UsageError.name : UsageError → String
  | .displayHelp => "DisplayHelp"
  | .displayVersion => "DisplayVersion"
  | .unknownArgument => "UnknownArgument"
  | .invalidSubcommand => "InvalidSubcommand"
  | .missingSubcommand => "MissingSubcommand"
  | .missingRequiredArgument => "MissingRequiredArgument"
  | .invalidValue => "InvalidValue"
  | .valueValidation => "ValueValidation"
  | .tooManyValues => "TooManyValues"
  | .argumentConflict => "ArgumentConflict"

/-- What a value may be. -/
inductive ValueForm where
  /-- Any text but the empty one. -/
  | path
  | text
  | size
  | oneOf (words : List String)
deriving DecidableEq, Inhabited

/-- What is wrong with a value. -/
def ValueForm.fault? (form : ValueForm) (value : String) : Option UsageError :=
  match form with
  | .path => if value = "" then some .invalidValue else none
  | .text => none
  | .size => if (Number.readSize? value.toList).isSome then none else some .valueValidation
  | .oneOf words => if words.contains value then none else some .invalidValue

/-- A name that takes values, and whether it may take several. -/
structure Slot where
  name : String
  form : ValueForm
  repeated : Bool := false
deriving DecidableEq, Inhabited

/-- What an option does. -/
inductive Effect where
  /-- It takes a value. -/
  | value (slot : Slot)
  /-- It is set by standing there. -/
  | flag (name : String)
  | help
  | version
deriving DecidableEq, Inhabited

/-- An option with its long name and perhaps a letter. -/
structure Switch where
  long : String
  short : Option Char := none
  effect : Effect
deriving DecidableEq, Inhabited

/-- What a command takes. With names of commands in it, those are words it expects. -/
structure Grammar where
  switches : List Switch
  positions : List Slot := []
  commands : List String := []
deriving Inhabited

/-- How far a command line has been read. -/
structure Reading where
  /-- The values that were checked, in order. -/
  values : List (String × String) := []
  /-- The slot whose value is still to be checked, and the value once it is there. -/
  waiting : Option (Slot × Option String) := none
  /-- How many positions are filled. -/
  filled : Nat := 0
  /-- Whether two dashes came: all that follows stands by position. -/
  isTrailing : Bool := false
deriving Inhabited

namespace Reading

/-- Whether a name has a value. -/
def has (r : Reading) (name : String) : Bool := r.values.any fun entry => entry.1 == name

/-- The last value of a name. -/
def last? (r : Reading) (name : String) : Option String :=
  (r.values.reverse.find? fun entry => entry.1 == name).map (·.2)

/-- All values of a name in order. -/
def all (r : Reading) (name : String) : List String :=
  (r.values.filter fun entry => entry.1 == name).map (·.2)

/-- Whether the next word is the value of an option. -/
def isExpecting (r : Reading) : Bool :=
  !r.isTrailing &&
    match r.waiting with
    | some (_, none) => true
    | _ => false

/-- Enters a value, which stands for the slot once more. -/
def enter (r : Reading) (slot : Slot) (value : String) : Except UsageError Reading :=
  if !slot.repeated && r.has slot.name then .error .argumentConflict
  else
    match slot.form.fault? value with
    | some fault => .error fault
    | none => .ok { r with values := r.values ++ [(slot.name, value)] }

/-- Checks what is waiting. -/
def settle (r : Reading) : Except UsageError Reading :=
  match r.waiting with
  | none => .ok r
  | some (_, none) => .error .invalidValue
  | some (slot, some value) => { r with waiting := none }.enter slot value

/-- Lets a slot wait for its value. -/
def await (r : Reading) (slot : Slot) (value : Option String) : Except UsageError Reading := do
  let r ← r.settle
  return { r with waiting := some (slot, value) }

/-- Enters a value at once. -/
def enterNow (r : Reading) (slot : Slot) (value : String) : Except UsageError Reading := do
  let r ← r.settle
  r.enter slot value

/-- An option that takes no value. -/
def react (r : Reading) (effect : Effect) : Except UsageError Reading := do
  let r ← r.settle
  match effect with
  | .help => .error .displayHelp
  | .version => .error .displayVersion
  | .flag name => r.enter ⟨name, .text, false⟩ "true"
  | .value slot => return { r with waiting := some (slot, none) }

/-- A long option, with the value that follows an equals sign. -/
def long (g : Grammar) (r : Reading) (name : String) (attached : Option String) :
    Except UsageError Reading :=
  match g.switches.find? fun switch => switch.long == name with
  | none => .error .unknownArgument
  | some switch =>
    match switch.effect, attached with
    | .value slot, some value => r.enterNow slot value
    | .value slot, none => r.await slot none
    | _, some _ => .error .tooManyValues
    | effect, none => r.react effect

/-- Options by their letters. The first one that takes a value takes the rest of the word. -/
def shorts (g : Grammar) (r : Reading) : List Char → Except UsageError Reading
  | [] => .ok r
  | c :: cs =>
    match g.switches.find? fun switch => switch.short == some c with
    | none => .error .unknownArgument
    | some switch =>
      match switch.effect with
      | .value slot =>
        match cs with
        | [] => r.await slot none
        | '=' :: value => r.enterNow slot (String.ofList value)
        | value => r.enterNow slot (String.ofList value)
      | effect => do
        let r ← r.react effect
        shorts g r cs

/-- A word by position. -/
def position (g : Grammar) (r : Reading) (word : String) : Except UsageError Reading :=
  match g.positions[r.filled]? with
  | some slot => do
    let r ← r.await slot (some word)
    return { r with filled := r.filled + 1 }
  | none =>
    if g.commands.isEmpty || (r.isTrailing && g.commands.contains word) then
      .error .unknownArgument
    else .error .invalidSubcommand

/-- A word that is no option: the value of an option that expects one, or by position. -/
def word (g : Grammar) (r : Reading) (word : String) : Except UsageError Reading :=
  if r.isExpecting then
    .ok { r with waiting := r.waiting.map fun (slot, _) => (slot, some word) }
  else r.position g word

/-- The next word. -/
def step (g : Grammar) (r : Reading) (arg : String) : Except UsageError Reading :=
  if r.isTrailing then r.position g arg
  else
    match arg.toList with
    | ['-', '-'] => .ok { r with isTrailing := true }
    | '-' :: '-' :: cs =>
      let name := cs.takeWhile (· != '=')
      let attached := match cs.drop name.length with
        | [] => none
        | _ :: value => some (String.ofList value)
      r.long g (String.ofList name) attached
    | '-' :: c :: cs => r.shorts g (c :: cs)
    | _ => r.word g arg

/-- All words. -/
def steps (g : Grammar) (r : Reading) : List String → Except UsageError Reading
  | [] => r.settle
  | arg :: args => do
    let r ← r.step g arg
    steps g r args

/-- Words up to the name of a command: that name and the words after it, if there is one. -/
def untilCommand (g : Grammar) (r : Reading) :
    List String → Except UsageError (Reading × Option (String × List String))
  | [] => .ok (r, none)
  | arg :: args =>
    if !r.isTrailing && !r.isExpecting && g.commands.contains arg then .ok (r, some (arg, args))
    else do
      let r ← r.step g arg
      untilCommand g r args

end Reading

/-- Reads the words of a command that has no commands below it. All positions must be
filled. -/
def Grammar.read (g : Grammar) (args : List String) : Except UsageError Reading := do
  let r ← Reading.steps g {} args
  if r.filled < g.positions.length then .error .missingRequiredArgument else .ok r

end GuardedNet.Command
