import GuardedNet.Files

/-!
# Folders

A folder of text files without subfolders, as the command line sees the folder it runs in.
-/

namespace GuardedNet

/-- The texts of the files in a folder by name. -/
abbrev Folder := Dictionary String

namespace Folder

/-- The words for a path that leads nowhere. -/
def missing : String := "No such file or directory (os error 2)"

/-- The words for a path that leads through a file. -/
def notFolder : String := "Not a directory (os error 20)"

/-- The words for a path that leads to a folder instead of a file. -/
def isFolder : String := "Is a directory (os error 21)"

/-- The words for a path, or a name in it, that has too many bytes. -/
def tooLong : String := "File name too long (os error 36)"

/-- The words for a path with a zero character. -/
def hasZero : String := "file name contained an unexpected NUL byte"

/-- The greatest number of bytes in a name. -/
def maxNameSize : Nat := 255

/-- The greatest number of bytes in a path. -/
def maxPathSize : Nat := 4095

/-- Whether a name has too many bytes. -/
def isLongName (name : String) : Bool := name.utf8ByteSize > maxNameSize

/-- What a path leads to. -/
inductive Target where
  /-- A folder: this one, or one around it. -/
  | folder
  /-- A file, which need not exist; `slashed` if a slash follows its name. -/
  | file (name : String) (slashed : Bool)
  /-- Nothing, for the given reason. -/
  | nowhere (reason : String)

/-- Follows the parts of a path, from this folder if `inside` is set, else from one around it,
of which no files are known. -/
def follow (folder : Folder) (inside : Bool) : List String → Target
  | [] => .folder
  | "" :: rest => follow folder inside rest
  | "." :: rest => follow folder inside rest
  | ".." :: rest => follow folder false rest
  | name :: rest =>
    if inside && rest.all (· == "") then .file name (!rest.isEmpty)
    else if isLongName name then .nowhere tooLong
    else if inside && Dictionary.contains name folder then .nowhere notFolder
    else .nowhere missing

/-- What a path leads to. -/
def resolve (folder : Folder) (path : String) : Target :=
  let parts := path.splitOn "/"
  if path == "" then .nowhere missing
  else if path.toList.contains (Char.ofNat 0) then .nowhere hasZero
  else if path.utf8ByteSize > maxPathSize then .nowhere tooLong
  else follow folder (parts.head? != some "") parts

/-- The text of the file at a path. -/
def read (folder : Folder) (path : String) : Except String String :=
  match folder.resolve path with
  | .folder => .error isFolder
  | .nowhere reason => .error reason
  | .file name slashed =>
    if isLongName name then .error tooLong
    else
      match Dictionary.get? name folder with
      | none => .error missing
      | some text => if slashed then .error notFolder else .ok text

/-- The folder with a text written to the file at a path. -/
def write (folder : Folder) (path text : String) : Except String Folder :=
  match folder.resolve path with
  | .folder => .error isFolder
  | .nowhere reason => .error reason
  | .file name slashed =>
    if slashed then .error isFolder
    else if isLongName name then .error tooLong
    else .ok (Dictionary.write name text folder)

/-- Whether a path leads to something that exists. -/
def contains (folder : Folder) (path : String) : Bool :=
  match folder.resolve path with
  | .folder => true
  | .nowhere _ => false
  | .file name slashed => Dictionary.contains name folder && !slashed

/-- The files of a folder. -/
def files (folder : Folder) : Files where
  isPresent := folder.contains
  read := folder.read

/-- The folder with a net written to the file at a path. -/
def writeNet (folder : Folder) (path : String) (net : Net) : Except FileError Folder := do
  let format ← Format.ofPath path
  match folder.write path (format.write net.document) with
  | .error reason => .error (.access reason)
  | .ok folder => .ok folder

end Folder

end GuardedNet
