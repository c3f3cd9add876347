/-!
# Columns and lists of text

Padding to a width in characters, and texts of lists and records.
-/

namespace GuardedNet.Text

/-- The text followed by spaces up to `width` characters. -/
def padRight (width : Nat) (s : String) : String :=
  s ++ String.ofList (List.replicate (width - s.length) ' ')

/-- The text preceded by spaces up to `width` characters. -/
def padLeft (width : Nat) (s : String) : String :=
  String.ofList (List.replicate (width - s.length) ' ') ++ s

/-- The texts one after the other with `separator` between neighbours. -/
def joined (separator : String) (parts : List String) : String :=
  String.intercalate separator parts

/-- Texts in square brackets, with commas between them. -/
def bracketed (parts : List String) : String := "[" ++ joined ", " parts ++ "]"

/-- Texts in braces, with commas between them. -/
def braced (parts : List String) : String := "\x7b" ++ joined ", " parts ++ "\x7d"

/-- A record by name with its fields in order, such as `Point { x: 1, y: 2 }`. -/
def record (name : String) (fields : List (String × String)) : String :=
  name ++ " \x7b " ++ joined ", " (fields.map fun field => field.1 ++ ": " ++ field.2) ++ " \x7d"

/-- The text of an optional part: `Some(x)` or `None`. -/
def optional : Option String → String
  | some text => "Some(" ++ text ++ ")"
  | none => "None"

/-- The words for the two truth values. -/
def ofBool : Bool → String
  | true => "true"
  | false => "false"

/-- Lines, each with its line end. -/
def lines (parts : List String) : String := String.join (parts.map (· ++ "\n"))

end GuardedNet.Text
