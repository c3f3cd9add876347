import GuardedNet.Files
import GuardedNet.Settings.TomlForm

/-!
# Settings files

Settings are read from a file. A file that is not there leaves the usual settings.
-/

namespace GuardedNet

/-- Why settings cannot be had from a file. -/
inductive SettingsError where
  /-- The file cannot be read, for the given reason. -/
  | unreadable (path reason : String)
  /-- The text of the file does not spell settings. -/
  | unparsable (path : String)
deriving DecidableEq, Inhabited

namespace Files

/-- The settings in the file at a path. -/
def readSettings (files : Files) (path : String) : Except SettingsError Settings :=
  if files.isPresent path then
    match files.read path with
    | .error reason => .error (.unreadable path reason)
    | .ok text =>
      match Settings.ofText? text with
      | none => .error (.unparsable path)
      | some settings => .ok settings
  else .ok Settings.default

/-- What reading settings from the file at a path reports. -/
def readSettingsJournal (files : Files) (path : String) : Journal :=
  if files.isPresent path then []
  else [.debug ("config " ++ Text.quotedStrictly path ++ " not found, using defaults")]

end Files

end GuardedNet
