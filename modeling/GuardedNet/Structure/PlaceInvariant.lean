import GuardedNet.Structure.Matrix
import GuardedNet.Structure.Partition

/-!
# Place invariants

A weighted sum of tokens that no transition changes. A candidate is checked against the
matrix of a net; candidates with weights one come from the parts into which transitions that
make as many tokens as they take divide the places.
-/

namespace GuardedNet

/-- Weights of places by id, the weighted sum at the start, and whether every transition is
known to keep the sum. -/
structure PlaceInvariant where
  weights : Dictionary Int
  value : Int
  verified : Bool
deriving DecidableEq, Inhabited

/-- A transition that changes a weighted sum, and by how much. -/
structure WeightChange where
  transition : String
  effect : Int
deriving DecidableEq, Inhabited

/-- What a check of weights against a matrix found. -/
structure WeightCheck where
  unknownPlaces : List String
  violations : List WeightChange
deriving DecidableEq, Inhabited

/-- Whether no transition changes the weighted sum, and all weights are on places of the
matrix. -/
def WeightCheck.holds (check : WeightCheck) : Bool :=
  check.unknownPlaces.isEmpty && check.violations.isEmpty

namespace PlaceInvariant

/-- The weighted sum of the declared numbers of tokens; an unknown place has none. -/
def initialSum (net : Net) (weights : Dictionary Int) : Int :=
  Number.clamp (weights.foldl
    (fun total (place, weight) =>
      let tokens := ((net.places.find? (·.id == place)).map Place.initialTokens).getD 0
      Number.clampWide (total + weight * tokens)) 0)

/-- The candidate with the given weights. -/
def ofWeights (net : Net) (weights : Dictionary Int) : PlaceInvariant :=
  ⟨weights, initialSum net weights, false⟩

/-- The ids of the weighted places. -/
def places (invariant : PlaceInvariant) : List String := Dictionary.keys invariant.weights

/-! ### The check -/

/-- The weights other than zero on places of a matrix, by row. -/
def rowWeights (matrix : Matrix) (weights : Dictionary Int) : List (Nat × Int) :=
  weights.filterMap fun (place, weight) =>
    if weight = 0 then none else (matrix.placeIndex? place).map fun row => (row, weight)

/-- How much firing the transition of a column changes a weighted sum. -/
def effect (matrix : Matrix) (weights : Dictionary Int) (column : Nat) : Int :=
  (rowWeights matrix weights).foldl
    (fun total (row, weight) => Number.clampWide (total + weight * matrix.entry row column)) 0

/-- Checks that every transition keeps the weighted sum. -/
def check (invariant : PlaceInvariant) (matrix : Matrix) : WeightCheck where
  unknownPlaces := invariant.weights.filterMap fun (place, weight) =>
    if weight ≠ 0 ∧ matrix.placeIndex? place = none then some place else none
  violations := matrix.transitions.zipIdx.filterMap fun (transition, column) =>
    let change := effect matrix invariant.weights column
    if change = 0 then none else some ⟨transition, Number.clamp change⟩

/-- Whether every transition keeps the weighted sum. -/
def holdsIn (invariant : PlaceInvariant) (matrix : Matrix) : Bool := (invariant.check matrix).holds

/-- The candidate with the outcome of its check. -/
def verify (invariant : PlaceInvariant) (matrix : Matrix) : PlaceInvariant :=
  { invariant with verified := invariant.holdsIn matrix }

/-! ### Texts -/

/-- One weighted place; its sign stands apart from a place before it. -/
def termText (isFirst : Bool) (place : String) (weight : Int) : String :=
  let sign :=
    if isFirst then (if weight < 0 then "-" else "")
    else (if weight < 0 then " - " else " + ")
  let size := if weight.natAbs = 1 then place else Number.natText weight.natAbs ++ " * " ++ place
  sign ++ size

/-- The weighted sum. -/
def sumText : Dictionary Int → String
  | [] => "0"
  | (place, weight) :: rest =>
    termText true place weight
      ++ String.join (rest.map fun (place, weight) => termText false place weight)

/-- The invariant as a condition of the guard language. -/
def render (invariant : PlaceInvariant) : String :=
  sumText invariant.weights ++ " == " ++ Number.intText invariant.value

/-- The document of an invariant. -/
def toJson (invariant : PlaceInvariant) : Json :=
  .object [("weights", .object (invariant.weights.map fun (place, weight) => (place, .int weight))),
    ("value", .int invariant.value), ("verified", .bool invariant.verified)]

end PlaceInvariant

/-! ### Discovery -/

namespace Net

/-- The rows of the places that a transition touches, those it takes from first. -/
def partners (net : Net) (matrix : Matrix) (transition : Nat) : List Nat :=
  (net.inputs transition ++ net.outputs transition).filterMap fun place =>
    matrix.placeIndex? (net.placeId place)

/-- The lists of rows that conservative transitions touch, in the order of the declarations. -/
def conservativeLinks (net : Net) (matrix : Matrix) : List (List Nat) :=
  (List.range net.transitions.length).filterMap fun t =>
    match matrix.transitionIndex? (net.transitionId t) with
    | some column => if matrix.isConservative column then some (net.partners matrix t) else none
    | none => none

/-- The candidates with weights one for the parts of at least two places, each checked, in the
order of the labels of the parts. Two rows are joined when they follow one another among the
partners of a conservative transition. -/
def candidates (net : Net) (labelling : Labelling) (matrix : Matrix) : List PlaceInvariant :=
  let links := net.conservativeLinks matrix
  let labels := labelling matrix.places.length (links.flatMap neighbours)
  let parts := (grouped labels links.flatten.contains).filter fun rows => 2 ≤ rows.length
  parts.map fun rows =>
    let weights := rows.filterMap fun row => (matrix.places[row]?).map fun id => (id, 1)
    (PlaceInvariant.ofWeights net weights).verify matrix

/-- The candidates in the order of their places. -/
def discoverInvariants (net : Net) (labelling : Labelling) (matrix : Matrix) :
    List PlaceInvariant :=
  (net.candidates labelling matrix).mergeSort fun a b => Text.isSortedListPair a.places b.places

end Net

/-- The transitions that keep the number of tokens and those that do not, in order, and the
candidates for invariants. -/
structure Conservation where
  conservative : List String
  nonConservative : List String
  invariants : List PlaceInvariant
deriving DecidableEq, Inhabited

namespace Conservation

/-- Sorts the transitions of a net and discovers candidates for invariants. -/
def ofNet (labelling : Labelling) (net : Net) (matrix : Matrix) : Conservation where
  conservative := matrix.transitions.zipIdx.filterMap fun (transition, column) =>
    if matrix.isConservative column then some transition else none
  nonConservative := matrix.transitions.zipIdx.filterMap fun (transition, column) =>
    if matrix.isConservative column then none else some transition
  invariants := net.discoverInvariants labelling matrix

/-- Whether a transition keeps the number of tokens. -/
def isConservative (c : Conservation) (transition : String) : Bool :=
  c.conservative.contains transition

/-- The document of an analysis. -/
def toJson (c : Conservation) : Json :=
  .object [("conservative", .ofTexts c.conservative),
    ("non_conservative", .ofTexts c.nonConservative),
    ("invariants", .array (c.invariants.map PlaceInvariant.toJson))]

/-- What an analysis reports. -/
def journal (labelling : Labelling) (net : Net) (matrix : Matrix) : Journal :=
  let c := ofNet labelling net matrix
  let doubts := (net.candidates labelling matrix).filter fun invariant => !invariant.verified
  doubts.map (fun invariant =>
      .warn ("candidate invariant `" ++ invariant.render ++ "` is not structurally provable"))
    ++ [.info ("model `" ++ net.name ++ "`: " ++ Number.natText c.conservative.length
      ++ " conservative / " ++ Number.natText c.nonConservative.length
      ++ " non-conservative transitions, " ++ Number.natText c.invariants.length
      ++ " invariant(s)")]

end Conservation

end GuardedNet
