import GuardedNet.Net.Format

/-!
# Files

Files that can be read, wherever they are.
-/

namespace GuardedNet

/-- Files by their paths. -/
structure Files where
  /-- Whether a path leads to something that exists. -/
  isPresent : String → Bool
  /-- The text of the file at a path, or why it cannot be read. -/
  read : String → Except String String

namespace Files

/-- The net in the file at a path. -/
def readNet (files : Files) (path : String) : Except FileError Net := do
  let format ← Format.ofPath path
  match files.read path with
  | .error reason => .error (.access reason)
  | .ok text => format.read text

/-- What reading a net from the file at a path reports. -/
def readNetJournal (files : Files) (path : String) : Journal :=
  match files.readNet path with
  | .error _ => []
  | .ok net => net.journal ++ [.debug ("loaded model `" ++ net.name ++ "` from " ++ path)]

end Files

end GuardedNet
