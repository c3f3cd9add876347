import GuardedNet.Json.Read
import GuardedNet.Net.Basic
import GuardedNet.Net.JsonForm
import GuardedNet.Net.RonForm

/-!
# Net files

The format of a file follows from the extension of its name.
-/

namespace GuardedNet

/-- A format of net files. -/
inductive Format where
  | json
  | ron
deriving DecidableEq, Inhabited

/-- Why a file gives no net. -/
inductive FileError where
  /-- The text is no document of the format. -/
  | syntaxError (format : Format)
  | invalid (cause : NetError)
  | unsupported (extension : String)
  /-- The file system refused, in the given words. -/
  | access (reason : String)
deriving DecidableEq, Inhabited

/-- The wording of an error; that of a text that is no document is not fixed. -/
def FileError.message : FileError → String
  | .syntaxError .json => "json error"
  | .syntaxError .ron => "ron syntax error"
  | .invalid cause => "invalid model: " ++ cause.message
  | .unsupported extension =>
    "unsupported model format `" ++ extension ++ "` (expected .json or .ron)"
  | .access reason => "io error: " ++ reason

/-- The last part of a path that is not a dot, if it names a file. -/
def fileName? (path : String) : Option (List Char) :=
  let parts := (path.splitOn "/").filter fun part => part != "" && part != "."
  match parts.getLast? with
  | some part => if part == ".." then none else some part.toList
  | none => none

/-- The extension of a path: what follows the last point of its file name, unless the point
stands first. -/
def fileExtension (path : String) : String :=
  match fileName? path with
  | none => ""
  | some name =>
    let extension := (name.reverse.takeWhile (· != '.')).reverse
    if extension.length + 1 < name.length then String.ofList extension else ""

namespace Format

/-- The format of the file at a path. -/
def ofPath (path : String) : Except FileError Format :=
  match fileExtension path with
  | "json" => .ok .json
  | "ron" => .ok .ron
  | other => .error (.unsupported other)

/-- The text of a document. -/
def write (format : Format) (d : Document) : String :=
  match format with
  | .json => d.toJson.pretty
  | .ron => d.toRon.pretty

/-- The document that a text spells. -/
def readDocument? (format : Format) (text : String) : Option Document :=
  match format with
  | .json => (Json.parse? text).bind Document.ofJson?
  | .ron => (Ron.parse? text).bind fun (dialect, r) => Document.ofRon? dialect r

/-- The net that a text spells. -/
def read (format : Format) (text : String) : Except FileError Net :=
  match format.readDocument? text with
  | none => .error (.syntaxError format)
  | some d =>
    match Net.ofDocument d with
    | .ok net => .ok net
    | .error cause => .error (.invalid cause)

end Format

end GuardedNet
