import GuardedNet.Json.Value
import GuardedNet.Net.Element

/-!
# Documents of nets as JSON

Records with the fields of the elements. Fields with a usual value may be left out; optional
parts that are absent and empty lists of keys are not written.
-/

namespace GuardedNet

open Json

/-- A field that is written only when it is present. -/
def optionalField {α : Type} (name : String) (encode : α → Json) : Option α → List (String × Json)
  | some a => [(name, encode a)]
  | none => []

/-- The kind of a place, as its word or as an object with the word as its only key. -/
def PlaceKind.ofJson? : Json → Option PlaceKind
  | .str "token" => some .token
  | .str "data" => some .data
  | .object [("token", .null)] => some .token
  | .object [("data", .null)] => some .data
  | _ => none

/-- An initial value, which stands three levels deep in a document. -/
def initialOfJson? (j : Json) : Option Value :=
  if j.nesting + 3 ≤ maxNesting then Value.ofJson? j else none

/-- The document of a place. -/
def Place.toJson (place : Place) : Json :=
  .object ([("id", .str place.id), ("kind", .str place.kind.name),
    ("initial", place.initial.toJson), ("exported", .bool place.exported)]
    ++ optionalField "capacity" .int place.capacity)

/-- The place that a document stands for. -/
def Place.ofJson? (j : Json) : Option Place := do
  match ← j.record? ["id", "kind", "initial", "exported", "capacity"] with
  | [id, kind, initial, exported, capacity] => do
    let id ← required? text? id
    let kind ← withDefault? .token PlaceKind.ofJson? kind
    let initial ← withDefault? (.int 0) initialOfJson? initial
    let exported ← withDefault? false bool? exported
    let capacity ← withDefault? none (optional? int?) capacity
    return ⟨id, kind, initial, exported, capacity⟩
  | _ => none

/-- The document of a transition; `encode` writes its rate. -/
def Transition.toJsonWith (encode : Float → Json) (transition : Transition) : Json :=
  .object (("id", .str transition.id) :: optionalField "guard" .str transition.guard
    ++ [("rate", encode transition.rate)])

/-- The transition that a document stands for. -/
def Transition.ofJson? (j : Json) : Option Transition := do
  match ← j.record? ["id", "guard", "rate"] with
  | [id, guard, rate] => do
    let id ← required? text? id
    let guard ← withDefault? none (optional? text?) guard
    let rate ← withDefault? 1.0 float? rate
    return { id, guard, rate }
  | _ => none

/-- The document of an arc. -/
def Arc.toJson (arc : Arc) : Json :=
  .object ([("source", .str arc.source), ("target", .str arc.target)]
    ++ (if arc.keys.isEmpty then [] else [("keys", .ofTexts arc.keys)])
    ++ optionalField "value" .str arc.value)

/-- The arc that a document stands for. -/
def Arc.ofJson? (j : Json) : Option Arc := do
  match ← j.record? ["source", "target", "keys", "value"] with
  | [source, target, keys, value] => do
    let source ← required? text? source
    let target ← required? text? target
    let keys ← withDefault? [] (list? text?) keys
    let value ← withDefault? none (optional? text?) value
    return ⟨source, target, keys, value⟩
  | _ => none

/-- The document of an invariant. -/
def Invariant.toJson (invariant : Invariant) : Json :=
  .object [("id", .str invariant.id), ("expression", .str invariant.expression)]

/-- The invariant that a document stands for. -/
def Invariant.ofJson? (j : Json) : Option Invariant := do
  match ← j.record? ["id", "expression"] with
  | [id, expression] => do
    let id ← required? text? id
    let expression ← required? text? expression
    return ⟨id, expression⟩
  | _ => none

namespace Document

/-- The document of a net; `encode` writes the rates. -/
def toJsonWith (encode : Float → Json) (d : Document) : Json :=
  .object [("name", .str d.name), ("version", .str d.version),
    ("places", .array (d.places.map Place.toJson)),
    ("transitions", .array (d.transitions.map (Transition.toJsonWith encode))),
    ("arcs", .array (d.arcs.map Arc.toJson)),
    ("invariants", .array (d.invariants.map Invariant.toJson))]

/-- The document of a net. -/
def toJson (d : Document) : Json := d.toJsonWith .float

/-- The document that a JSON document stands for. -/
def ofJson? (j : Json) : Option Document := do
  match ← j.record? ["name", "version", "places", "transitions", "arcs", "invariants"] with
  | [name, version, places, transitions, arcs, invariants] => do
    let name ← required? text? name
    let version ← withDefault? "" text? version
    let places ← withDefault? [] (list? Place.ofJson?) places
    let transitions ← withDefault? [] (list? Transition.ofJson?) transitions
    let arcs ← withDefault? [] (list? Arc.ofJson?) arcs
    let invariants ← withDefault? [] (list? Invariant.ofJson?) invariants
    return ⟨name, version, places, transitions, arcs, invariants⟩
  | _ => none

end Document

end GuardedNet
