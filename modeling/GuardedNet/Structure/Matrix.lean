import GuardedNet.Json.Basic
import GuardedNet.Net.Basic
import GuardedNet.Text.Sorted

/-!
# The matrix of a net

How each transition changes each place, with rows and columns in the order of the ids, so
that the matrix does not depend on the order of the declarations.
-/

namespace GuardedNet

/-- The net change of each place by each transition; the ids of both are in order. -/
structure Matrix where
  places : List String
  transitions : List String
  entries : Table Int
deriving DecidableEq, Inhabited

namespace Matrix

/-- The row of a place. -/
def placeIndex? (matrix : Matrix) (id : String) : Option Nat :=
  matrix.places.findIdx? (· == id)

/-- The column of a transition. -/
def transitionIndex? (matrix : Matrix) (id : String) : Option Nat :=
  matrix.transitions.findIdx? (· == id)

/-- The matrix with one arc more. -/
def count (net : Net) (matrix : Matrix) (flow : Flow) : Matrix :=
  match matrix.placeIndex? (net.placeId flow.place),
      matrix.transitionIndex? (net.transitionId flow.transition) with
  | some row, some column =>
    { matrix with
      entries := matrix.entries.modify row column (· + (if flow.isInput then -1 else 1)) }
  | _, _ => matrix

/-- The matrix of a net: an arc to a place counts one, an arc from a place minus one. -/
def ofNet (net : Net) : Matrix :=
  let places := Text.sorted (net.places.map (·.id))
  let transitions := Text.sorted (net.transitions.map (·.id))
  net.flows.foldl (count net)
    ⟨places, transitions, Table.filled 0 places.length transitions.length⟩

/-- The entry at a row and a column. -/
def entry (matrix : Matrix) (row column : Nat) : Int := (matrix.entries.get? row column).getD 0

/-- The entries of a column from top to bottom. -/
def column (matrix : Matrix) (column : Nat) : List Int :=
  (List.range matrix.places.length).map fun row => matrix.entry row column

/-- The sum of a column. -/
def columnSum (matrix : Matrix) (column : Nat) : Int :=
  (matrix.column column).foldr (· + ·) 0

/-- Whether a transition makes as many tokens as it takes. -/
def isConservative (matrix : Matrix) (column : Nat) : Bool := matrix.columnSum column == 0

/-- The document of a matrix. -/
def toJson (matrix : Matrix) : Json :=
  .object [("places", .ofTexts matrix.places), ("transitions", .ofTexts matrix.transitions),
    ("entries", .array (matrix.entries.rows.map fun row => .array (row.map .int)))]

/-- The lines that show a matrix: a heading with the transitions, then a line for each place.
Widths are counted in bytes. -/
def lines (matrix : Matrix) : List String :=
  let width := (matrix.places.map (·.utf8ByteSize)).foldl max 1
  let cell (transition text : String) : String :=
    " " ++ Text.padLeft (max transition.utf8ByteSize 3) text
  (Text.padRight width "" ++ String.join (matrix.transitions.map fun t => cell t t))
    :: List.zipWith
      (fun place row => Text.padRight width place
        ++ String.join (List.zipWith (fun t n => cell t (Number.intText n)) matrix.transitions row))
      matrix.places matrix.entries.rows

end Matrix

end GuardedNet
