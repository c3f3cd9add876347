import GuardedNet.Json.Basic
import GuardedNet.Net.Basic

/-!
# Correspondences

A correspondence names for the elements of one net the elements of another. It is checked,
not searched for: it must be a bijection that keeps arcs and initial values.
-/

namespace GuardedNet

/-- A correspondence from the ids of one net to the ids of another. -/
structure Correspondence where
  places : Dictionary String
  transitions : Dictionary String
deriving DecidableEq, Inhabited

/-- A way in which a correspondence fails. -/
inductive CorrespondenceFault where
  | unmapped (kind : ElementKind) (id : String)
  | unknownSource (kind : ElementKind) (id : String)
  | unknownTarget (kind : ElementKind) (id : String)
  | notInjective (kind : ElementKind) (target : String) (sources : List String)
  | sizeMismatch (kind : ElementKind) (left right : Nat)
  | missingArc (source target : String)
  | initialMismatch (place : String) (left right : Int)
deriving DecidableEq, Inhabited

namespace CorrespondenceFault

/-- The wording of a fault. -/
def message : CorrespondenceFault → String
  | .unmapped kind id => kind.name ++ " `" ++ id ++ "` is not mapped"
  | .unknownSource kind id => "mapping names unknown source " ++ kind.name ++ " `" ++ id ++ "`"
  | .unknownTarget kind id => "mapping targets unknown " ++ kind.name ++ " `" ++ id ++ "`"
  | .notInjective kind target sources =>
    kind.name ++ " `" ++ target ++ "` is the image of " ++ Text.joined ", " sources
  | .sizeMismatch kind left right =>
    kind.name ++ " counts differ: " ++ Number.natText left ++ " vs " ++ Number.natText right
  | .missingArc source target => "mapped arc " ++ source ++ " -> " ++ target ++ " does not exist"
  | .initialMismatch place left right =>
    "initial tokens of `" ++ place ++ "` differ: " ++ Number.intText left ++ " vs "
      ++ Number.intText right

/-- The document of a fault. -/
def toJson : CorrespondenceFault → Json
  | .unmapped kind id =>
    .object [("kind", .str "unmapped"), ("element", .str kind.name), ("id", .str id)]
  | .unknownSource kind id =>
    .object [("kind", .str "unknown_source"), ("element", .str kind.name), ("id", .str id)]
  | .unknownTarget kind id =>
    .object [("kind", .str "unknown_target"), ("element", .str kind.name), ("id", .str id)]
  | .notInjective kind target sources =>
    .object [("kind", .str "not_injective"), ("element", .str kind.name), ("target", .str target),
      ("sources", .ofTexts sources)]
  | .sizeMismatch kind left right =>
    .object [("kind", .str "size_mismatch"), ("element", .str kind.name), ("left", .ofNat left),
      ("right", .ofNat right)]
  | .missingArc source target =>
    .object [("kind", .str "missing_arc"), ("source_id", .str source), ("target_id", .str target)]
  | .initialMismatch place left right =>
    .object [("kind", .str "initial_mismatch"), ("place", .str place), ("left", .int left),
      ("right", .int right)]

end CorrespondenceFault

namespace Correspondence

/-- The correspondence that a document stands for. -/
def ofJson? (j : Json) : Option Correspondence := do
  match ← j.record? ["places", "transitions"] with
  | [places, transitions] => do
    let places ← Json.withDefault? [] (Json.dictionary? Json.text?) places
    let transitions ← Json.withDefault? [] (Json.dictionary? Json.text?) transitions
    return ⟨places, transitions⟩
  | _ => none

/-- The image of an id. -/
def image? (c : Correspondence) (id : String) : Option String :=
  match Dictionary.get? id c.places with
  | some image => some image
  | none => Dictionary.get? id c.transitions

/-- The ids that a mapping takes to a target, in order. -/
def preimage (mapping : Dictionary String) (target : String) : List String :=
  (mapping.filter fun entry => entry.2 == target).map (·.1)

/-- The faults of a mapping of one kind of element, between nets with the given ids. -/
def mappingFaults (kind : ElementKind) (left right : List String)
    (mapping : Dictionary String) : List CorrespondenceFault :=
  let targets := Dictionary.keys (Dictionary.ofPairs (mapping.map fun entry => (entry.2, ())))
  (left.filter fun id => !Dictionary.contains id mapping).map (.unmapped kind)
    ++ mapping.flatMap (fun (source, target) =>
      (if left.contains source then [] else [.unknownSource kind source])
        ++ (if right.contains target then [] else [.unknownTarget kind target]))
    ++ targets.filterMap fun target =>
      let sources := preimage mapping target
      if 1 < sources.length then some (.notInjective kind target sources) else none

/-- A number of elements that differs. -/
def sizeFault (kind : ElementKind) (left right : Nat) : List CorrespondenceFault :=
  if left = right then [] else [.sizeMismatch kind left right]

/-- The images of arcs that find no arc left for them among those of the other net. -/
def arcFaults (c : Correspondence) (available : List (String × String)) :
    List Arc → List CorrespondenceFault
  | [] => []
  | arc :: arcs =>
    match c.image? arc.source, c.image? arc.target with
    | some source, some target =>
      if (source, target) ∈ available then c.arcFaults (available.erase (source, target)) arcs
      else .missingArc source target :: c.arcFaults available arcs
    | _, _ => c.arcFaults available arcs

/-- A place whose initial value is not that of its image. -/
def initialFault (c : Correspondence) (right : Net) (place : Place) : List CorrespondenceFault :=
  match (Dictionary.get? place.id c.places).bind fun id => right.places.find? (·.id == id) with
  | some image =>
    if place.initial = image.initial then []
    else [.initialMismatch place.id place.initialTokens image.initialTokens]
  | none => []

/-- All faults of a correspondence between two nets. -/
def faults (c : Correspondence) (left right : Net) : List CorrespondenceFault :=
  mappingFaults .place (left.places.map (·.id)) (right.places.map (·.id)) c.places
    ++ mappingFaults .transition (left.transitions.map (·.id)) (right.transitions.map (·.id))
      c.transitions
    ++ sizeFault .place left.places.length right.places.length
    ++ sizeFault .transition left.transitions.length right.transitions.length
    ++ sizeFault .arc left.arcs.length right.arcs.length
    ++ c.arcFaults (right.arcs.map fun arc => (arc.source, arc.target)) left.arcs
    ++ left.places.flatMap (c.initialFault right)

/-- Whether two nets are the same but for the names that a correspondence exchanges. -/
def isIsomorphism (c : Correspondence) (left right : Net) : Bool := (c.faults left right).isEmpty

/-- What a check of a correspondence reports. -/
def journal (c : Correspondence) (left right : Net) : Journal :=
  match c.faults left right with
  | [] => []
  | faults =>
    [.debug ("witness `" ++ left.name ++ "` -> `" ++ right.name ++ "` rejected with "
      ++ Number.natText faults.length ++ " violation(s)")]

end Correspondence

end GuardedNet
