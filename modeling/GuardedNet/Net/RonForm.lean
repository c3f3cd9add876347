import GuardedNet.Net.Element
import GuardedNet.Ron.Decode

/-!
# Documents of nets as RON

Records with the fields of the elements, as in JSON; optional parts say whether they are
there.
-/

namespace GuardedNet

open Ron

namespace Value

mutual

/-- The document of a value. -/
def toRon : Value → Ron
  | .bool b => .bool b
  | .int n => Ron.int n
  | .str s => .str s
  | .list items => .list (itemsToRon items)
  | .map entries => .map (entriesToRon entries)

/-- The documents of values. -/
def itemsToRon : List Value → List Ron
  | [] => []
  | v :: vs => v.toRon :: itemsToRon vs

/-- The entries of a map. -/
def entriesToRon : List (String × Value) → List (Ron × Ron)
  | [] => []
  | (k, v) :: rest => (.str k, v.toRon) :: entriesToRon rest

end

mutual

/-- The value that a document stands for. A byte is an integer, bytes are the text that they
encode, a tuple is a list and a record a map, whatever its name. -/
def ofRon? : Ron → Option Value
  | .numeral text => ((anyInteger? text).bind Number.fit?).map .int
  | .byte b => some (.int b.toNat)
  | .str s => some (.str s)
  | .bytes data => (textOfBytes? data).map .str
  | .bool b => some (.bool b)
  | .absent | .present _ | .word _ | .char _ | .unit => none
  | .list items => (itemsOfRon? items).map .list
  | .tuple _ items => (itemsOfRon? items).map .list
  | .map entries => (entriesOfRon? entries).map ofPairs
  | .record _ fields => (fieldsOfRon? fields).map ofPairs

/-- The values that documents stand for. -/
def itemsOfRon? : List Ron → Option (List Value)
  | [] => some []
  | r :: rs => do
    let v ← ofRon? r
    let vs ← itemsOfRon? rs
    return v :: vs

/-- The entries that a map stands for. -/
def entriesOfRon? : List (Ron × Ron) → Option (List (String × Value))
  | [] => some []
  | (k, r) :: rest => do
    let key ← match k with
      | .str s => some s
      | .bytes data => textOfBytes? data
      | _ => none
    let v ← ofRon? r
    let pairs ← entriesOfRon? rest
    return (key, v) :: pairs

/-- The entries that a record stands for. -/
def fieldsOfRon? : List (String × Ron) → Option (List (String × Value))
  | [] => some []
  | (k, r) :: rest => do
    let v ← ofRon? r
    let pairs ← fieldsOfRon? rest
    return (k, v) :: pairs

end

end Value

/-- A field that is written only when it is present, and then says so. -/
def presentField {α : Type} (name : String) (encode : α → Ron) : Option α → List (String × Ron)
  | some a => [(name, .present (encode a))]
  | none => []

/-- The kind of a place. -/
def PlaceKind.ofRon? : Ron → Option PlaceKind
  | .word "token" => some .token
  | .word "data" => some .data
  | _ => none

/-- The document of a place. -/
def Place.toRon (place : Place) : Ron :=
  .record none ([("id", .str place.id), ("kind", .word place.kind.name),
    ("initial", place.initial.toRon), ("exported", .bool place.exported)]
    ++ presentField "capacity" Ron.int place.capacity)

/-- The place that a document stands for. -/
def Place.ofRon? (dialect : Dialect) (r : Ron) : Option Place := do
  match ← r.record? dialect "Place" ["id", "kind", "initial", "exported", "capacity"] with
  | [id, kind, initial, exported, capacity] => do
    let id ← required? text? id
    let kind ← withDefault? .token PlaceKind.ofRon? kind
    let initial ← withDefault? (.int 0) Value.ofRon? initial
    let exported ← withDefault? false bool? exported
    let capacity ← withDefault? none (optional? dialect int?) capacity
    return ⟨id, kind, initial, exported, capacity⟩
  | _ => none

/-- The document of a transition. -/
def Transition.toRon (transition : Transition) : Ron :=
  .record none (("id", .str transition.id) :: presentField "guard" .str transition.guard
    ++ [("rate", Ron.float transition.rate transition.isNegated)])

/-- The transition that a document stands for. -/
def Transition.ofRon? (dialect : Dialect) (r : Ron) : Option Transition := do
  match ← r.record? dialect "Transition" ["id", "guard", "rate"] with
  | [id, guard, rate] => do
    let id ← required? text? id
    let guard ← withDefault? none (optional? dialect text?) guard
    let isNegated := (rate.map isMinusNaN).getD false
    let rate ← withDefault? 1.0 float? rate
    return ⟨id, guard, rate, isNegated⟩
  | _ => none

/-- The document of an arc. -/
def Arc.toRon (arc : Arc) : Ron :=
  .record none ([("source", .str arc.source), ("target", .str arc.target)]
    ++ (if arc.keys.isEmpty then [] else [("keys", .list (arc.keys.map .str))])
    ++ presentField "value" .str arc.value)

/-- The arc that a document stands for. -/
def Arc.ofRon? (dialect : Dialect) (r : Ron) : Option Arc := do
  match ← r.record? dialect "Arc" ["source", "target", "keys", "value"] with
  | [source, target, keys, value] => do
    let source ← required? text? source
    let target ← required? text? target
    let keys ← withDefault? [] (list? text?) keys
    let value ← withDefault? none (optional? dialect text?) value
    return ⟨source, target, keys, value⟩
  | _ => none

/-- The document of an invariant. -/
def Invariant.toRon (invariant : Invariant) : Ron :=
  .record none [("id", .str invariant.id), ("expression", .str invariant.expression)]

/-- The invariant that a document stands for. -/
def Invariant.ofRon? (dialect : Dialect) (r : Ron) : Option Invariant := do
  match ← r.record? dialect "Invariant" ["id", "expression"] with
  | [id, expression] => do
    let id ← required? text? id
    let expression ← required? text? expression
    return ⟨id, expression⟩
  | _ => none

namespace Document

/-- The document of a net. -/
def toRon (d : Document) : Ron :=
  .record none [("name", .str d.name), ("version", .str d.version),
    ("places", .list (d.places.map Place.toRon)),
    ("transitions", .list (d.transitions.map Transition.toRon)),
    ("arcs", .list (d.arcs.map Arc.toRon)),
    ("invariants", .list (d.invariants.map Invariant.toRon))]

/-- The document that a RON document stands for. -/
def ofRon? (dialect : Dialect) (r : Ron) : Option Document := do
  match ← r.record? dialect "ModelDocument"
      ["name", "version", "places", "transitions", "arcs", "invariants"] with
  | [name, version, places, transitions, arcs, invariants] => do
    let name ← required? text? name
    let version ← withDefault? "" text? version
    let places ← withDefault? [] (list? (Place.ofRon? dialect)) places
    let transitions ← withDefault? [] (list? (Transition.ofRon? dialect)) transitions
    let arcs ← withDefault? [] (list? (Arc.ofRon? dialect)) arcs
    let invariants ← withDefault? [] (list? (Invariant.ofRon? dialect)) invariants
    return ⟨name, version, places, transitions, arcs, invariants⟩
  | _ => none

end Document

end GuardedNet
