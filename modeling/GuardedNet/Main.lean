import GuardedNet.Command.Plan

/-!
# The command line
-/

namespace GuardedNet.Command

/-- The words of the system for an error. -/
def reasonOf : IO.Error → String
  | .noFileOrDirectory _ _ _ => Folder.missing
  | .permissionDenied _ code details => reason details code
  | .inappropriateType _ code details => reason details code
  | .invalidArgument _ code details => reason details code
  | .resourceExhausted _ code details => reason details code
  | .noSuchThing _ code details => reason details code
  | .otherError code details => reason details code
  | e => toString e
where
  /-- The description of an error with its number. -/
  reason (details : String) (code : UInt32) : String :=
    details ++ " (os error " ++ Number.natText code.toNat ++ ")"

/-- The text of a file, or why it cannot be read. -/
def readText (path : String) : IO (Except String String) := do
  try return .ok (← IO.FS.readFile path)
  catch e => return .error (reasonOf e)

/-- Whether reading a file failed because nothing is there. -/
def isAbsent (content : Except String String) : Bool :=
  match content with
  | .error reason => reason == Folder.missing || reason == Folder.notFolder
  | .ok _ => false

/-- The files with the given texts. -/
def filesOf (texts : List (String × Except String String)) : Files where
  isPresent path := ((Dictionary.get? path texts).map fun content => !isAbsent content).getD false
  read path := (Dictionary.get? path texts).getD (.error Folder.missing)

/-- Carries out writings until one is refused. -/
def writeAll : List Writing → IO (Option Failure)
  | [] => return none
  | writing :: rest => do
    try IO.FS.writeFile writing.path writing.text
    catch e => return some (writing.refused (reasonOf e))
    writeAll rest

/-- Ends with a message and a code. -/
def fail (message : String) (code : UInt32) : IO UInt32 := do
  IO.eprintln ("error: " ++ message)
  return code

end GuardedNet.Command

open GuardedNet GuardedNet.Command in
/-- Does what the command line asks for. -/
def main (args : List String) : IO UInt32 := do
  match Options.ofArguments args with
  | .error e => fail e.message 2
  | .ok options =>
    let texts ← options.inputs.mapM fun path => do return (path, ← readText path)
    let files := filesOf texts
    match options.readSettings files with
    | .error e => fail (Failure.settings e).message 1
    | .ok settings =>
      match options.plan settings files with
      | .error failure => fail failure.message 1
      | .ok plan =>
        match ← writeAll plan.writings with
        | some failure => fail failure.message 1
        | none =>
          IO.println plan.text
          return 0
