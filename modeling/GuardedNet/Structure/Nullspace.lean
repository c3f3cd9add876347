/-!
# Integer nullspaces

The vectors that are orthogonal to given integer rows, by elimination without fractions: rows
are combined with integer factors and divided by their common divisors.
-/

namespace GuardedNet.Nullspace

/-- A vector of integers. -/
abbrev Vector := List Int

/-- The entry at a position, zero outside. -/
def entry (v : Vector) (i : Nat) : Int := v[i]?.getD 0

/-- The greatest common divisor of all entries. -/
def content (v : Vector) : Nat := v.foldl (fun g n => Nat.gcd g n.natAbs) 0

/-- Whether the first entry other than zero is negative. -/
def leadsNegative (v : Vector) : Bool :=
  match v.find? (· ≠ 0) with
  | some n => n < 0
  | none => false

/-- The vector divided by its content, with the first entry other than zero positive. -/
def normalize (v : Vector) : Vector :=
  let g := content v
  let divided := if g = 0 then v else v.map (· / (g : Int))
  if leadsNegative divided then divided.map (- ·) else divided

/-- The row with its entry in the pivot's column cleared. -/
def clear (pivot : Vector) (column : Nat) (row : Vector) : Vector :=
  let factor := entry row column
  if factor = 0 then row
  else normalize (List.zipWith (fun n lead => n * entry pivot column - factor * lead) row pivot)

/-- The rows with those at two positions exchanged. -/
def exchange (rows : List Vector) (i j : Nat) : List Vector :=
  (rows.set i (rows[j]?.getD [])).set j (rows[i]?.getD [])

/-- Where an elimination stands: the rows, and the columns whose pivots stand in the first rows
in order. -/
structure Echelon where
  rows : List Vector
  pivots : List Nat

/-- Looks for a pivot in a column and clears the column with it. -/
def step (e : Echelon) (column : Nat) : Echelon :=
  let rank := e.pivots.length
  match (List.range e.rows.length).find? fun i =>
      decide (rank ≤ i) && decide (entry (e.rows[i]?.getD []) column ≠ 0) with
  | none => e
  | some found =>
    let rows := exchange e.rows rank found
    let pivot := rows[rank]?.getD []
    ⟨rows.zipIdx.map fun (row, i) => if i = rank then row else clear pivot column row,
      e.pivots ++ [column]⟩

/-- Clears one column after the other. -/
def eliminate (rows : List Vector) (width : Nat) : Echelon :=
  (List.range width).foldl step ⟨rows, []⟩

namespace Echelon

/-- The pivot of a column, which stands in the given row. -/
def pivot (e : Echelon) (row column : Nat) : Int := entry (e.rows[row]?.getD []) column

/-- A number that every pivot divides. -/
def scale (e : Echelon) : Nat :=
  e.pivots.zipIdx.foldl (fun m (column, row) => Nat.lcm m (e.pivot row column).natAbs) 1

/-- The entry in a column of the vector for a free column. -/
def solutionEntry (e : Echelon) (free column : Nat) : Int :=
  if column = free then e.scale
  else
    match e.pivots.findIdx? (· == column) with
    | some row =>
      -(entry (e.rows[row]?.getD []) free * ((e.scale : Int) / e.pivot row column))
    | none => 0

/-- The vector for a free column. -/
def solution (e : Echelon) (width free : Nat) : Vector :=
  normalize ((List.range width).map (e.solutionEntry free))

end Echelon

/-- One vector for each column without a pivot. -/
def basis (rows : List Vector) (width : Nat) : List Vector :=
  let e := eliminate rows width
  ((List.range width).filter fun column => !e.pivots.contains column).map (e.solution width)

end GuardedNet.Nullspace
