import GuardedNet.Structure.Nullspace
import GuardedNet.Structure.PlaceInvariant

/-!
# The basis of place invariants

All weights that every transition keeps, as combinations of a few vectors of integers.
-/

namespace GuardedNet

namespace Matrix

/-- The columns of a matrix as rows. -/
def transposed (matrix : Matrix) : List Nullspace.Vector :=
  (List.range matrix.transitions.length).map matrix.column

/-- The vectors of weights that every transition keeps. -/
def weightBasis (matrix : Matrix) : List Nullspace.Vector :=
  Nullspace.basis matrix.transposed matrix.places.length

/-- The weights other than zero by place, unless one of them leaves the bounds. -/
def weightsOf? (matrix : Matrix) (v : Nullspace.Vector) : Option (Dictionary Int) :=
  ((matrix.places.zip v).filter fun (_, n) => n ≠ 0).mapM fun (place, n) =>
    (Number.fit? n).map fun n => (place, n)

end Matrix

namespace Net

/-- The basis of the place invariants of a net, without the vectors that leave the bounds. -/
def invariantBasis (net : Net) (matrix : Matrix) : List PlaceInvariant :=
  matrix.weightBasis.filterMap fun v =>
    (matrix.weightsOf? v).map fun weights => (PlaceInvariant.ofWeights net weights).verify matrix

end Net

/-- What computing the basis reports: the first weight of each vector that leaves the bounds. -/
def Matrix.basisJournal (matrix : Matrix) : Journal :=
  matrix.weightBasis.filterMap fun v =>
    (v.find? fun n => (Number.fit? n).isNone).map fun n =>
      .warn ("basis vector coefficient " ++ Number.intText n ++ " overflows i64, skipped")

end GuardedNet
