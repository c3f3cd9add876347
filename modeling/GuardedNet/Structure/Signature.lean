import GuardedNet.Json.Basic
import GuardedNet.Net.Basic

/-!
# Signatures

What can be counted about a net without regard to names and order. Nets with different
signatures are different; nets with one signature may still be.
-/

namespace GuardedNet

/-- The arcs into and out of an element, and its tokens at the start. -/
structure Profile where
  inputs : Nat
  outputs : Nat
  initial : Int
deriving DecidableEq, Inhabited

namespace Profile

/-- Whether a profile does not come after another, by its parts in order. -/
def isSortedPair (a b : Profile) : Bool :=
  if a.inputs ≠ b.inputs then a.inputs < b.inputs
  else if a.outputs ≠ b.outputs then a.outputs < b.outputs
  else a.initial ≤ b.initial

/-- The document of a profile. -/
def toJson (p : Profile) : Json := .array [.ofNat p.inputs, .ofNat p.outputs, .int p.initial]

end Profile

/-- Counts and sorted profiles of a net. -/
structure Signature where
  placeCount : Nat
  transitionCount : Nat
  arcCount : Nat
  totalInitialTokens : Int
  placeProfiles : List Profile
  transitionProfiles : List Profile
deriving DecidableEq, Inhabited

/-- What a signature counts. -/
inductive Component where
  | places
  | transitions
  | arcs
deriving DecidableEq, Inhabited

/-- The word for what is counted. -/
def Component.name : Component → String
  | .places => "place"
  | .transitions => "transition"
  | .arcs => "arc"

/-- The word for what is counted, in documents. -/
def Component.tag : Component → String
  | .places => "places"
  | .transitions => "transitions"
  | .arcs => "arcs"

/-- A difference between two signatures. -/
inductive SignatureDifference where
  | count (component : Component) (left right : Nat)
  | totalInitialTokens (left right : Int)
  | placeProfiles (mismatched : Nat)
  | transitionProfiles (mismatched : Nat)
deriving DecidableEq, Inhabited

namespace SignatureDifference

/-- The wording of a difference. -/
def message : SignatureDifference → String
  | .count component left right =>
    component.name ++ " count differs: " ++ Number.natText left ++ " vs " ++ Number.natText right
  | .totalInitialTokens left right =>
    "total initial tokens differ: " ++ Number.intText left ++ " vs " ++ Number.intText right
  | .placeProfiles mismatched => Number.natText mismatched ++ " place profile(s) differ"
  | .transitionProfiles mismatched => Number.natText mismatched ++ " transition profile(s) differ"

/-- The document of a difference. -/
def toJson : SignatureDifference → Json
  | .count component left right =>
    .object [("kind", .str "count"), ("component", .str component.tag), ("left", .ofNat left),
      ("right", .ofNat right)]
  | .totalInitialTokens left right =>
    .object [("kind", .str "total_initial_tokens"), ("left", .int left), ("right", .int right)]
  | .placeProfiles mismatched =>
    .object [("kind", .str "place_profiles"), ("mismatched", .ofNat mismatched)]
  | .transitionProfiles mismatched =>
    .object [("kind", .str "transition_profiles"), ("mismatched", .ofNat mismatched)]

end SignatureDifference

namespace Signature

/-- The profile of a place. -/
def placeProfile (net : Net) (index : Nat) (place : Place) : Profile :=
  ⟨Number.total (net.produced.row index), Number.total (net.consumed.row index),
    place.initialTokens⟩

/-- The profile of a transition; its tokens are those of the places it takes from, by weight. -/
def transitionProfile (net : Net) (t : Nat) : Profile where
  inputs := net.consumed.columnTotal t
  outputs := net.produced.columnTotal t
  initial := (List.zip (net.consumed.column t) net.places).foldl
    (fun total (weight, place) =>
      Number.clamp (total + Number.clamp (Number.clamp (weight : Int) * place.initialTokens))) 0

/-- The signature of a net. -/
def ofNet (net : Net) : Signature where
  placeCount := net.places.length
  transitionCount := net.transitions.length
  arcCount := net.arcs.length
  totalInitialTokens := net.totalInitialTokens
  placeProfiles := (net.places.zipIdx.map fun (place, index) =>
    placeProfile net index place).mergeSort Profile.isSortedPair
  transitionProfiles := ((List.range net.transitions.length).map
    (transitionProfile net)).mergeSort Profile.isSortedPair

/-- How many positions of two lists differ, one that only one list has counted too. -/
def mismatched (left right : List Profile) : Nat :=
  ((List.zip left right).filter fun (l, r) => l ≠ r).length
    + (max left.length right.length - min left.length right.length)

/-- A count that differs. -/
def countDifference (component : Component) (left right : Nat) : List SignatureDifference :=
  if left = right then [] else [.count component left right]

/-- All differences between two signatures. -/
def differences (s other : Signature) : List SignatureDifference :=
  countDifference .places s.placeCount other.placeCount
    ++ countDifference .transitions s.transitionCount other.transitionCount
    ++ countDifference .arcs s.arcCount other.arcCount
    ++ (if s.totalInitialTokens = other.totalInitialTokens then []
      else [.totalInitialTokens s.totalInitialTokens other.totalInitialTokens])
    ++ (if s.placeProfiles = other.placeProfiles then []
      else [.placeProfiles (mismatched s.placeProfiles other.placeProfiles)])
    ++ (if s.transitionProfiles = other.transitionProfiles then []
      else [.transitionProfiles (mismatched s.transitionProfiles other.transitionProfiles)])

/-- The document of a signature. -/
def toJson (s : Signature) : Json :=
  .object [("place_count", .ofNat s.placeCount), ("transition_count", .ofNat s.transitionCount),
    ("arc_count", .ofNat s.arcCount), ("total_initial_tokens", .int s.totalInitialTokens),
    ("place_profiles", .array (s.placeProfiles.map Profile.toJson)),
    ("transition_profiles", .array (s.transitionProfiles.map Profile.toJson))]

end Signature

/-- The signatures of two nets and how they differ. -/
structure SignatureComparison where
  left : Signature
  right : Signature
  differences : List SignatureDifference
deriving DecidableEq, Inhabited

namespace SignatureComparison

/-- Compares two nets by their signatures. -/
def ofNets (left right : Net) : SignatureComparison :=
  let l := Signature.ofNet left
  let r := Signature.ofNet right
  ⟨l, r, l.differences r⟩

/-- Whether the signatures are the same. -/
def equivalent (c : SignatureComparison) : Bool := c.differences.isEmpty

/-- The document of a comparison. -/
def toJson (c : SignatureComparison) : Json :=
  .object [("left", c.left.toJson), ("right", c.right.toJson), ("equivalent", .bool c.equivalent),
    ("differences", .array (c.differences.map SignatureDifference.toJson))]

/-- What a comparison of two nets reports. -/
def journal (left right : Net) : Journal :=
  [.info ("signature comparison `" ++ left.name ++ "` vs `" ++ right.name ++ "`: "
    ++ Number.natText (ofNets left right).differences.length ++ " difference(s)")]

end SignatureComparison

end GuardedNet
