import GuardedNet.Json.Value
import GuardedNet.Net.Detail

/-!
# Markings

What the places of a net hold at one time. Every place has a number of tokens, and a data
place a value as well.
-/

namespace GuardedNet

/-- What one place holds. -/
structure Cell where
  tokens : Int
  data : Option Value
deriving DecidableEq, Inhabited

/-- The contents of a place as guards and invariants see them: its value, or its number of
tokens if it has none. -/
def Cell.value (cell : Cell) : Value := cell.data.getD (.int cell.tokens)

/-- What a place holds at the start; a negative declaration counts as zero. -/
def Place.initialCell (place : Place) : Cell where
  tokens := max place.initialTokens 0
  data := if place.isToken then none else some place.initial

/-- The contents of all places in order. -/
abbrev Marking := List Cell

namespace Marking

/-- The marking that a net starts with. -/
def initial (net : Net) : Marking := net.places.map Place.initialCell

/-- The number of tokens of a place. -/
def tokens (m : Marking) (place : Nat) : Int := (m[place]?.map (·.tokens)).getD 0

/-- The value of a data place. -/
def data? (m : Marking) (place : Nat) : Option Value := m[place]?.bind (·.data)

/-- The marking with another number of tokens at a place. -/
def setTokens (m : Marking) (place : Nat) (count : Int) : Marking :=
  m.modify place fun cell => { cell with tokens := count }

/-- The marking with another value at a place. -/
def setData (m : Marking) (place : Nat) (value : Value) : Marking :=
  m.modify place fun cell => { cell with data := some value }

/-- The number of all tokens, kept within the bounds. -/
def totalTokens (m : Marking) : Int :=
  m.foldl (fun total cell => Number.clamp (total + cell.tokens)) 0

/-- What each place holds, by id. -/
def values (net : Net) (m : Marking) : Dictionary Value :=
  Dictionary.ofPairs (List.zipWith (fun place cell => (place.id, cell.value)) net.places m)

/-- The values of the data places with their positions. -/
def dataEntries (m : Marking) : List (Nat × Value) :=
  m.zipIdx.filterMap fun (cell, index) => cell.data.map fun value => (index, value)

/-! ### Texts -/

/-- A text with its number of bytes in front. -/
def sized (s : String) : String := Number.natText s.utf8ByteSize ++ ":" ++ s

/-- A text that tells markings of one net apart: the number of tokens of each place, and then
the value of each data place. -/
def key (net : Net) (m : Marking) : String :=
  String.join (List.zipWith
      (fun place cell => sized place.id ++ "=" ++ Number.intText cell.tokens ++ ";")
      net.places m)
    ++ String.join (m.dataEntries.map fun (index, value) =>
      "#" ++ Number.natText index ++ ":" ++ sized value.render ++ ";")

/-- The text that shows a marking: what each place holds, by id. -/
def render (net : Net) (m : Marking) : String :=
  Text.braced (List.zipWith (fun place cell => place.id ++ ": " ++ cell.value.render)
    net.places m)

/-- The short name of a place by position. -/
def placeTag (index : Nat) : String := "p" ++ Number.natText index

/-- The marking on one line with all that it holds, for tracing. -/
def detail (m : Marking) : String :=
  Text.braced
    ((m.zipIdx.map fun (cell, index) => placeTag index ++ ": " ++ Number.intText cell.tokens)
      ++ m.dataEntries.map fun (index, value) => placeTag index ++ ": " ++ value.detail)

/-! ### Documents -/

/-- The document of a marking. -/
def toJson (m : Marking) : Json :=
  .object [
    ("tokens", .array (m.map fun cell => .int cell.tokens)),
    ("data", .object (m.dataEntries.map fun (index, value) =>
      (Number.natText index, value.toJson)))]

/-- A value two levels deep in a document. -/
def dataOfJson? (j : Json) : Option Value :=
  if j.nesting + 2 ≤ Json.maxNesting then Value.ofJson? j else none

/-- The marking that a document stands for. -/
def ofJson? (j : Json) : Option Marking := do
  match ← j.record? ["tokens", "data"] with
  | [tokens, data] => do
    let counts ← Json.required? (Json.list? Json.int?) tokens
    let entries ← Json.required? (Json.dictionary? dataOfJson?) data
    let start : Marking := counts.map fun count => ⟨count, none⟩
    entries.foldlM (fun m (entry : String × Value) => do
      let index ← Number.readSize? entry.1.toList
      if index < m.length then some (m.setData index entry.2) else none) start
  | _ => none

end Marking

end GuardedNet
