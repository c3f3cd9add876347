import Mathlib.Data.Set.List
import Mathlib.LinearAlgebra.Dimension.Constructions
import GuardedNet.Proofs.Outcome
import GuardedNet.Proofs.Structure.Nullspace

/-!
# Normal bases in exact integer arithmetic

The vectors that an elimination leaves are normal (`normal_normalize`) and as many as the rank of
the rows leaves room for: the elimination keeps the space that the rows span (`rowSpace_eliminate`)
and its pivots count the dimension of that space (`Echelon.Reduced.finrank_rowSpace`).

No division on the way has a remainder or a zero divisor. That is said by a second computation,
which checks each division and fails at the first that is not exact: it never fails, and has the
result of the first (`Echelon.Reduced.solution?_eq`, `eliminate?_eq`).

Main statement: `basis_exact`.
-/

namespace GuardedNet.Nullspace

/-! ### Normal vectors -/

/-- A vector whose entries have no divisor in common, with a positive first entry other than
zero. -/
structure Normal (v : Vector) : Prop where
  primitive : ∀ d : Nat, (∀ n ∈ v, (d : Int) ∣ n) → d = 1
  leads : ∃ front n rest, v = front ++ n :: rest ∧ (∀ m ∈ front, m = 0) ∧ 0 < n

theorem content_dvd {v : Vector} {n : Int} (member : n ∈ v) : (content v : Int) ∣ n :=
  (foldl_gcd_dvd v 0).2 n member

theorem dvd_foldl_gcd {v : Vector} {d g : Nat} (start : d ∣ g) (all : ∀ n ∈ v, (d : Int) ∣ n) :
    d ∣ v.foldl (fun g n => Nat.gcd g n.natAbs) g := by
  induction v generalizing g with
  | nil => exact start
  | cons n v ih =>
    apply ih
    · exact Nat.dvd_gcd start (Int.natCast_dvd.1 (all n (List.mem_cons_self ..)))
    · exact fun m member => all m (List.mem_cons_of_mem _ member)

theorem dvd_content {v : Vector} {d : Nat} (all : ∀ n ∈ v, (d : Int) ∣ n) : d ∣ content v :=
  dvd_foldl_gcd (dvd_zero d) all

theorem content_ne_zero {v : Vector} (nonzero : ∃ n ∈ v, n ≠ 0) : content v ≠ 0 := by
  obtain ⟨n, member, notZero⟩ := nonzero
  intro zero
  have divides := content_dvd member
  rw [zero] at divides
  exact notZero (zero_dvd_iff.1 divides)

/-- What is left after division by the content has no divisor in common. -/
theorem primitive_divided {v : Vector} (notZero : content v ≠ 0) {d : Nat}
    (all : ∀ n ∈ v.map (· / (content v : Int)), (d : Int) ∣ n) : d = 1 := by
  have both : d * content v ∣ content v := by
    apply dvd_content
    intro n member
    have divided := all _ (List.mem_map_of_mem member)
    rw [← Int.ediv_mul_cancel (content_dvd member), Nat.cast_mul]
    exact mul_dvd_mul_right divided _
  exact Nat.dvd_one.1 ((mul_dvd_mul_iff_right notZero).1 (by rwa [one_mul]))

theorem leadsNegative_eq {v : Vector} (nonzero : ∃ n ∈ v, n ≠ 0) : ∃ front n rest,
    v = front ++ n :: rest ∧ (∀ m ∈ front, m = 0) ∧ n ≠ 0 ∧ leadsNegative v = decide (n < 0) := by
  obtain ⟨n, isFirst⟩ : ∃ n, v.find? (· ≠ 0) = some n := by
    rw [← Option.isSome_iff_exists, List.find?_isSome]
    simpa using nonzero
  obtain ⟨notZero, front, rest, rfl, zero⟩ := List.find?_eq_some_iff_append.1 isFirst
  refine ⟨front, n, rest, rfl, by simpa using zero, by simpa using notZero, ?_⟩
  rw [leadsNegative, isFirst]

theorem normal_normalize {v : Vector} (nonzero : ∃ n ∈ v, n ≠ 0) : Normal (normalize v) := by
  have notZero := content_ne_zero nonzero
  obtain ⟨n, member, other⟩ := nonzero
  have stillNonzero : ∃ m ∈ v.map (· / (content v : Int)), m ≠ 0 := by
    refine ⟨_, List.mem_map_of_mem member, fun zero => other ?_⟩
    rw [← Int.ediv_mul_cancel (content_dvd member), zero, zero_mul]
  obtain ⟨front, m, rest, same, zeros, lead, isNegative⟩ := leadsNegative_eq stillNonzero
  have primitive := fun d => primitive_divided (v := v) notZero (d := d)
  rw [normalize, if_neg notZero, isNegative]
  by_cases negative : m < 0
  · rw [decide_eq_true negative, if_pos rfl]
    constructor
    · intro d all
      apply primitive d
      intro k here
      exact (Int.dvd_neg).1 (all _ (List.mem_map_of_mem here))
    · refine ⟨front.map (- ·), -m, rest.map (- ·), by simp [same], ?_, by omega⟩
      intro k here
      obtain ⟨l, inFront, rfl⟩ := List.mem_map.1 here
      rw [zeros l inFront, neg_zero]
  · rw [decide_eq_false negative, if_neg Bool.false_ne_true]
    exact ⟨primitive, front, m, rest, same, zeros, by omega⟩

/-! ### The space of the rows -/

/-- The rational combinations of the rows. -/
def rowSpace (rows : List Vector) : Submodule ℚ (Nat → ℚ) :=
  Submodule.span ℚ {x | x ∈ rows.map coords}

namespace Echelon

variable {e next : Echelon} {width column found : Nat}

theorem rowSpace_eq_span_cell (e : Echelon) :
    rowSpace e.rows = Submodule.span ℚ (Set.range e.cell) := by
  apply le_antisymm
  · apply Submodule.span_mono
    intro x member
    obtain ⟨row, isRow, rfl⟩ := List.mem_map.1 member
    obtain ⟨k, here⟩ := List.mem_iff_getElem?.1 isRow
    refine ⟨k, funext fun i => ?_⟩
    rw [cell, here, Option.getD_some]
  · rw [Submodule.span_le]
    rintro x ⟨k, rfl⟩
    by_cases inside : k < e.rows.length
    · apply Submodule.subset_span
      refine List.mem_map.2 ⟨e.rows[k], List.getElem_mem inside, funext fun i => ?_⟩
      rw [cell, List.getElem?_eq_getElem inside, Option.getD_some]
    · have zero : e.cell k = 0 := funext (cell_of_length_le (Nat.not_lt.1 inside))
      rw [zero]
      exact Submodule.zero_mem _

/-- Clearing a column combines the rows with each other, and each old row is a combination of the
new ones. -/
theorem Clears.rowSpace_eq (clears : e.Clears column found next) :
    rowSpace next.rows = rowSpace e.rows := by
  rw [rowSpace_eq_span_cell, rowSpace_eq_span_cell]
  have own : next.cell e.pivots.length = e.cell found := funext clears.own
  apply le_antisymm
  · rw [Submodule.span_le]
    rintro x ⟨k, rfl⟩
    have foundIn : e.cell found ∈ Submodule.span ℚ (Set.range e.cell) :=
      Submodule.subset_span ⟨found, rfl⟩
    by_cases isOwn : k = e.pivots.length
    · rw [isOwn, own]
      exact foundIn
    · obtain ⟨factor, part, -, combined⟩ := clears.others k isOwn
      have sum : next.cell k = factor • e.cell (Equiv.swap e.pivots.length found k) -
          part • e.cell found := funext combined
      rw [sum]
      exact Submodule.sub_mem _ (Submodule.smul_mem _ _ (Submodule.subset_span ⟨_, rfl⟩))
        (Submodule.smul_mem _ _ foundIn)
  · rw [Submodule.span_le]
    rintro x ⟨k, rfl⟩
    have foundIn : e.cell found ∈ Submodule.span ℚ (Set.range next.cell) :=
      Submodule.subset_span ⟨_, own⟩
    by_cases isFound : k = found
    · rw [isFound]
      exact foundIn
    · -- the row stands where the exchange has put it
      have other : Equiv.swap e.pivots.length found k ≠ e.pivots.length := by
        rw [Ne, Equiv.swap_apply_eq_iff, Equiv.swap_apply_left]
        exact isFound
      obtain ⟨factor, part, nonzero, combined⟩ := clears.others _ other
      have sum : e.cell k = factor⁻¹ • (next.cell (Equiv.swap e.pivots.length found k) +
          part • e.cell found) := by
        funext i
        simp only [Pi.smul_apply, Pi.add_apply, smul_eq_mul, combined, Equiv.swap_apply_self]
        field_simp
        ring
      rw [sum]
      exact Submodule.smul_mem _ _ (Submodule.add_mem _ (Submodule.subset_span ⟨_, rfl⟩)
        (Submodule.smul_mem _ _ foundIn))

theorem Rectangular.cell_eq_zero (rect : e.Rectangular width) (k : Nat) {i : Nat}
    (outside : width ≤ i) : e.cell k i = 0 := by
  by_cases inside : k < e.rows.length
  · rw [cell, List.getElem?_eq_getElem inside, Option.getD_some, coords,
      entry_of_length_le ((rect _ (List.getElem_mem inside)).trans_le outside), Int.cast_zero]
  · exact cell_of_length_le (Nat.not_lt.1 inside) i

theorem Rectangular.rowSpace_foldl {columns : List Nat} (rect : e.Rectangular width) :
    rowSpace (columns.foldl Nullspace.step e).rows = rowSpace e.rows := by
  induction columns generalizing e with
  | nil => rfl
  | cons column columns ih =>
    obtain ⟨nextRect, ⟨same, -⟩ | ⟨found, clears⟩⟩ := rect.step column
    · rw [List.foldl_cons, same, ih rect]
    · rw [List.foldl_cons, ih nextRect, clears.rowSpace_eq]

/-- The rows without a pivot add nothing. -/
theorem Reduced.rowSpace_eq (reduced : e.Reduced width) (rect : e.Rectangular width) :
    rowSpace e.rows = Submodule.span ℚ {x | x ∈ (List.range e.pivots.length).map e.cell} := by
  rw [rowSpace_eq_span_cell]
  apply le_antisymm
  · rw [Submodule.span_le]
    rintro x ⟨k, rfl⟩
    by_cases isPivot : k < e.pivots.length
    · exact Submodule.subset_span (List.mem_map_of_mem (List.mem_range.2 isPivot))
    · have zero : e.cell k = 0 := by
        funext i
        by_cases inside : i < width
        · exact reduced.rest k (Nat.not_lt.1 isPivot) i inside
        · exact Rectangular.cell_eq_zero rect k (Nat.not_lt.1 inside)
      rw [zero]
      exact Submodule.zero_mem _
  · apply Submodule.span_mono
    intro x member
    obtain ⟨k, -, rfl⟩ := List.mem_map.1 member
    exact ⟨k, rfl⟩

/-- The rows with a pivot are independent, so that the pivots count the rank. -/
theorem Reduced.finrank_rowSpace (reduced : e.Reduced width) (rect : e.Rectangular width) :
    Module.finrank ℚ (rowSpace e.rows) = e.pivots.length := by
  have pivotOf : ∀ k ∈ List.range e.pivots.length, e.pivots[k]? = some (e.pivots[k]?.getD 0) := by
    intro k inside
    rw [List.getElem?_eq_getElem (List.mem_range.1 inside), Option.getD_some]
  have independent : LinearIndependent ℚ ((List.range e.pivots.length).map e.cell).get := by
    apply linearIndependent_of_own List.nodup_range fun k => e.pivots[k]?.getD 0
    · intro k inside
      exact reduced.lead k _ (pivotOf k inside)
    · intro k inside j _ other
      exact reduced.alone k _ (pivotOf k inside) j other.symm
  rw [reduced.rowSpace_eq rect, ← Set.range_list_get, finrank_span_eq_card independent,
    Fintype.card_fin, List.length_map, List.length_range]

/-- Every column either has a pivot or is free. -/
theorem Reduced.length_freeColumns (reduced : e.Reduced width) :
    (e.freeColumns width).length + e.pivots.length = width := by
  have perm : ((List.range width).filter fun column => e.pivots.contains column).Perm e.pivots := by
    rw [List.perm_ext_iff_of_nodup (List.nodup_range.filter _) reduced.distinct]
    intro column
    rw [List.mem_filter, List.mem_range, List.contains_iff_mem]
    exact and_iff_right_of_imp (reduced.within column)
  have split := List.length_eq_length_filter_add (l := List.range width)
    fun column => e.pivots.contains column
  rw [List.length_range, perm.length_eq] at split
  rw [freeColumns]
  omega

end Echelon

theorem rowSpace_eliminate {rows : List Vector} {width : Nat}
    (rect : ∀ row ∈ rows, row.length = width) :
    rowSpace (eliminate rows width).rows = rowSpace rows :=
  Echelon.Rectangular.rowSpace_foldl (e := ⟨rows, []⟩) rect

/-! ### Checked divisions -/

/-- The quotient, if the division has no remainder and no zero divisor. -/
def divide? (n d : Int) : Option Int := if d ≠ 0 ∧ d ∣ n then some (n / d) else none

theorem divide?_eq {n d : Int} (nonzero : d ≠ 0) (divides : d ∣ n) : divide? n d = some (n / d) :=
  if_pos ⟨nonzero, divides⟩

/-- Normalizing with checked divisions. -/
def normalize? (v : Vector) : Option Vector := do
  let divided ← if content v = 0 then some v else v.mapM (divide? · (content v))
  return if leadsNegative divided then divided.map (- ·) else divided

theorem normalize?_eq (v : Vector) : normalize? v = some (normalize v) := by
  by_cases zero : content v = 0
  · simp [normalize?, normalize, zero]
  · have divided : v.mapM (divide? · (content v)) = some (v.map (· / (content v : Int))) :=
      mapM_eq_some_map fun n member => divide?_eq (Nat.cast_ne_zero.2 zero) (content_dvd member)
    simp [normalize?, normalize, zero, divided]

/-- Clearing a row with checked divisions. -/
def clear? (pivot : Vector) (column : Nat) (row : Vector) : Option Vector :=
  let factor := entry row column
  if factor = 0 then some row
  else normalize? (List.zipWith (fun n lead => n * entry pivot column - factor * lead) row pivot)

theorem clear?_eq (pivot : Vector) (column : Nat) (row : Vector) :
    clear? pivot column row = some (clear pivot column row) := by
  rw [clear?, clear, normalize?_eq, ← apply_ite some]

/-- Clearing a column with checked divisions. -/
def step? (e : Echelon) (column : Nat) : Option Echelon :=
  let rank := e.pivots.length
  match (List.range e.rows.length).find? fun i =>
      decide (rank ≤ i) && decide (entry (e.rows[i]?.getD []) column ≠ 0) with
  | none => some e
  | some found => do
    let rows := exchange e.rows rank found
    let pivot := rows[rank]?.getD []
    let cleared ← rows.zipIdx.mapM fun (row, i) =>
      if i = rank then some row else clear? pivot column row
    return ⟨cleared, e.pivots ++ [column]⟩

theorem step?_eq (e : Echelon) (column : Nat) : step? e column = some (step e column) := by
  have cleared : ∀ (rows : List Vector) (pivot : Vector) (rank : Nat),
      (rows.zipIdx.mapM fun (row, i) =>
        if i = rank then some row else clear? pivot column row) =
      some (rows.zipIdx.map fun (row, i) =>
        if i = rank then row else clear pivot column row) := by
    intro rows pivot rank
    apply mapM_eq_some_map
    intro item _
    dsimp only
    rw [clear?_eq, ← apply_ite some]
  unfold step? step
  dsimp only
  generalize List.find? _ (List.range e.rows.length) = search
  cases search with
  | none => rfl
  | some found =>
    simp only [cleared]
    rfl

/-- The elimination with checked divisions. -/
def eliminate? (rows : List Vector) (width : Nat) : Option Echelon :=
  (List.range width).foldlM step? ⟨rows, []⟩

theorem eliminate?_eq (rows : List Vector) (width : Nat) :
    eliminate? rows width = some (eliminate rows width) := by
  rw [eliminate?, eliminate, funext₂ step?_eq]
  exact List.foldlM_pure

/-- The least common multiple, which is a product divided by a divisor of its factors. -/
def lcm? (m n : Nat) : Option Nat := (divide? (m * n) (Nat.gcd m n)).map Int.natAbs

theorem lcm?_eq {m n : Nat} (nonzero : m ≠ 0) : lcm? m n = some (Nat.lcm m n) := by
  have divides : ((Nat.gcd m n : Nat) : Int) ∣ (m : Int) * n :=
    (Int.natCast_dvd_natCast.2 (Nat.gcd_dvd_left m n)).mul_right _
  rw [lcm?, divide?_eq (Nat.cast_ne_zero.2 (Nat.gcd_ne_zero_left nonzero)) divides,
    Option.map_some, ← Nat.cast_mul, ← Int.natCast_ediv, Int.natAbs_natCast]
  rfl

namespace Echelon

variable {e : Echelon} {width free : Nat}

/-- The scale with checked divisions. -/
def scale? (e : Echelon) : Option Nat :=
  e.pivots.zipIdx.foldlM (fun m (column, row) => lcm? m (e.pivot row column).natAbs) 1

/-- An entry of the vector for a free column with checked divisions. -/
def solutionAt? (e : Echelon) (scale : Nat) (free column : Nat) : Option Int :=
  if column = free then some scale
  else
    match e.pivots.findIdx? (· == column) with
    | some row => do
      let share ← divide? scale (e.pivot row column)
      return -(entry (e.rows[row]?.getD []) free * share)
    | none => some 0

/-- The vector for a free column with checked divisions. -/
def solution? (e : Echelon) (width : Nat) (scale : Nat) (free : Nat) : Option Vector := do
  normalize? (← (List.range width).mapM (e.solutionAt? scale free))

theorem Reduced.scale?_eq (reduced : e.Reduced width) : e.scale? = some e.scale := by
  apply foldlM_eq_some_foldl (· ≠ 0)
  · intro m nonzero pivot member
    have positive := Int.natAbs_ne_zero.2
      (reduced.pivot_ne_zero (List.mem_zipIdx_iff_getElem?.1 member))
    exact ⟨lcm?_eq nonzero, Nat.lcm_ne_zero nonzero positive⟩
  · exact one_ne_zero

/-- The scale is divided by pivots only, and each divides it. -/
theorem Reduced.solutionAt?_eq (reduced : e.Reduced width) (free column : Nat) :
    e.solutionAt? e.scale free column = some (e.solutionEntry free column) := by
  unfold solutionAt? solutionEntry
  by_cases own : column = free
  · rw [if_pos own, if_pos own]
  · rw [if_neg own, if_neg own]
    cases search : e.pivots.findIdx? (· == column) with
    | none => rfl
    | some row =>
      obtain ⟨inside, isColumn, -⟩ := List.findIdx?_eq_some_iff_getElem.1 search
      have here : e.pivots[row]? = some column := by
        rw [List.getElem?_eq_getElem inside, beq_iff_eq.1 isColumn]
      simp only [divide?_eq (reduced.pivot_ne_zero here) (reduced.scale_spec.2 row column here)]
      rfl

theorem Reduced.solution?_eq (reduced : e.Reduced width) (free : Nat) :
    e.solution? width e.scale free = some (e.solution width free) := by
  rw [solution?, mapM_eq_some_map fun column _ => reduced.solutionAt?_eq free column]
  exact normalize?_eq _

end Echelon

/-- The basis with checked divisions. -/
def basis? (rows : List Vector) (width : Nat) : Option (List Vector) := do
  let e ← eliminate? rows width
  let scale ← e.scale?
  ((List.range width).filter fun column => !e.pivots.contains column).mapM
    (e.solution? width scale)

theorem basis?_eq {rows : List Vector} {width : Nat} (rect : ∀ row ∈ rows, row.length = width) :
    basis? rows width = some (basis rows width) := by
  have reduced := (progress_eliminate rect).reduced
  simp only [basis?, eliminate?_eq, reduced.scale?_eq, Option.bind_eq_bind, Option.bind_some]
  exact mapM_eq_some_map fun free _ => reduced.solution?_eq free

/-! ### The basis -/

/-- The vectors of the basis have an entry other than zero, in their free columns. -/
theorem normal_of_mem_basis {rows : List Vector} {width : Nat}
    (rect : ∀ row ∈ rows, row.length = width) {v : Vector} (member : v ∈ basis rows width) :
    Normal v := by
  have reduced := (progress_eliminate rect).reduced
  obtain ⟨free, isFree, rfl⟩ := List.mem_map.1 member
  apply normal_normalize
  refine ⟨_, List.mem_map_of_mem (List.mem_of_mem_filter isFree), ?_⟩
  rw [Echelon.solutionEntry_self]
  exact Nat.cast_ne_zero.2 reduced.scale_spec.1

theorem linearIndependent_basis {rows : List Vector} {width : Nat}
    (rect : ∀ row ∈ rows, row.length = width) :
    LinearIndependent ℚ ((basis rows width).map coords).get := by
  have reduced := (progress_eliminate rect).reduced
  have isMap : (basis rows width).map coords =
      ((eliminate rows width).freeColumns width).map
        fun free => coords ((eliminate rows width).solution width free) := List.map_map
  rw [isMap]
  apply linearIndependent_of_own (Echelon.nodup_freeColumns _ _) id
  · intro free member
    exact reduced.solution_own (Echelon.mem_freeColumns.1 member)
  · intro free member other _ apart
    exact Echelon.solution_other (Echelon.mem_freeColumns.1 member) apart

theorem orthogonal_of_mem_basis {rows : List Vector} {width : Nat}
    (rect : ∀ row ∈ rows, row.length = width) {v : Vector} (member : v ∈ basis rows width) :
    ∀ row ∈ rows, ∑ i ∈ Finset.range width, entry row i * entry v i = 0 := by
  intro row isRow
  have solves : coords v ∈ solutions rows width := by
    rw [← span_basis rect]
    exact Submodule.subset_span (List.mem_map_of_mem member)
  have orthogonal := solves.2 row isRow
  simp only [coords] at orthogonal
  exact_mod_cast orthogonal

/-- The basis of rows of one width has a vector for each column that the rank of the rows leaves
over. Its vectors are normal and orthogonal to every row. They are independent, and the rational
vectors that are orthogonal to every row are their combinations. Every division on the way is
exact. -/
theorem basis_exact {rows : List Vector} {width : Nat}
    (rect : ∀ row ∈ rows, row.length = width) :
    (basis rows width).length + Module.finrank ℚ (rowSpace rows) = width ∧
    (∀ v ∈ basis rows width, v.length = width ∧ Normal v ∧
      ∀ row ∈ rows, ∑ i ∈ Finset.range width, entry row i * entry v i = 0) ∧
    LinearIndependent ℚ ((basis rows width).map coords).get ∧
    Submodule.span ℚ {x | x ∈ (basis rows width).map coords} = solutions rows width ∧
    basis? rows width = some (basis rows width) := by
  obtain ⟨stillRect, reduced, -⟩ := progress_eliminate rect
  refine ⟨?_, ?_, linearIndependent_basis rect, span_basis rect, basis?_eq rect⟩
  · rw [← rowSpace_eliminate rect, reduced.finrank_rowSpace stillRect, basis, List.length_map]
    exact reduced.length_freeColumns
  · intro v member
    exact ⟨length_of_mem_basis member, normal_of_mem_basis rect member,
      orthogonal_of_mem_basis rect member⟩

/-- A zero row and a repeated one, of rank one. Both vectors are divided, and the first changes its
sign. -/
theorem basis_exact_repeated :
    (∀ row ∈ [[0, 0, 0], [2, 4, -6], [2, 4, -6]], List.length row = 3) ∧
    basis [[0, 0, 0], [2, 4, -6], [2, 4, -6]] 3 = [[2, -1, 0], [3, 0, 1]] ∧
    Module.finrank ℚ (rowSpace [[0, 0, 0], [2, 4, -6], [2, 4, -6]]) = 1 := by
  have vectors : basis [[0, 0, 0], [2, 4, -6], [2, 4, -6]] 3 = [[2, -1, 0], [3, 0, 1]] := by decide
  have rect : ∀ row ∈ ([[0, 0, 0], [2, 4, -6], [2, 4, -6]] : List Vector), row.length = 3 := by
    decide
  refine ⟨rect, vectors, ?_⟩
  have count := (basis_exact rect).1
  rw [vectors] at count
  exact Nat.add_left_cancel count

end GuardedNet.Nullspace
