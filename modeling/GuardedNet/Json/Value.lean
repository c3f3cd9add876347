import GuardedNet.Json.Basic
import GuardedNet.Value

/-!
# Values as JSON

A value is the JSON document of the same shape. Fractions, `null` and integers outside the
bounds are no values.
-/

namespace GuardedNet.Value

mutual

/-- The document of a value. -/
def toJson : Value → Json
  | .bool b => .bool b
  | .int n => .int n
  | .str s => .str s
  | .list items => .array (itemsToJson items)
  | .map entries => .object (entriesToJson entries)

/-- The documents of values. -/
def itemsToJson : List Value → List Json
  | [] => []
  | v :: vs => v.toJson :: itemsToJson vs

/-- The entries of an object. -/
def entriesToJson : List (String × Value) → List (String × Json)
  | [] => []
  | (k, v) :: rest => (k, v.toJson) :: entriesToJson rest

end

mutual

/-- The value that a document stands for. -/
def ofJson? : Json → Option Value
  | .bool b => some (.bool b)
  | .int n => (Number.fit? n).map .int
  | .str s => some (.str s)
  | .array items => (itemsOfJson? items).map .list
  | .object entries => (entriesOfJson? entries).map ofPairs
  | .null | .float _ | .unreadable => none

/-- The values that documents stand for. -/
def itemsOfJson? : List Json → Option (List Value)
  | [] => some []
  | j :: js => do
    let v ← ofJson? j
    let vs ← itemsOfJson? js
    return v :: vs

/-- The entries that an object stands for. -/
def entriesOfJson? : List (String × Json) → Option (List (String × Value))
  | [] => some []
  | (k, j) :: rest => do
    let v ← ofJson? j
    let pairs ← entriesOfJson? rest
    return (k, v) :: pairs

end

end GuardedNet.Value
