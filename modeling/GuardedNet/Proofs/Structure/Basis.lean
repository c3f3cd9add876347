import Mathlib.LinearAlgebra.Span.Basic
import GuardedNet.Proofs.Dictionary
import GuardedNet.Proofs.Structure.Check
import GuardedNet.Proofs.Structure.Nullspace
import GuardedNet.Structure.Basis

/-!
# The basis of place invariants

The vectors of the basis stand for weights by place, and the check of weights for a system of
linear equations with one unknown for each row of the matrix. Main statement: the basis is
independent, and the weights that pass the check are its rational combinations
(`Net.invariantBasis_exact`).
-/

namespace GuardedNet

open Nullspace (coords solutions)

/-! ### Weights as vectors -/

/-- The weight of an id as a rational number, zero if it has none. -/
def weightOf (weights : Dictionary Int) (id : String) : ℚ :=
  ((Dictionary.get? id weights).getD 0 : Int)

theorem weightOf_ne_zero_iff {weights : Dictionary Int}
    (distinct : (Dictionary.keys weights).Nodup) {id : String} :
    weightOf weights id ≠ 0 ↔ ∃ n, (id, n) ∈ weights ∧ n ≠ 0 := by
  simp only [weightOf, Ne, Int.cast_eq_zero, ← Dictionary.get?_eq_some_iff distinct]
  cases Dictionary.get? id weights <;> simp

theorem weightOf_nil : weightOf [] = 0 := by
  funext id
  exact Int.cast_zero

theorem weightOf_cons {id : String} {n : Int} {weights : Dictionary Int}
    (distinct : (Dictionary.keys ((id, n) :: weights)).Nodup) :
    weightOf ((id, n) :: weights) = Pi.single id (n : ℚ) + weightOf weights := by
  obtain ⟨first, rest⟩ := List.nodup_cons.1 distinct
  funext other
  rw [Pi.add_apply, Pi.single_apply, weightOf, weightOf, Dictionary.get?_cons]
  by_cases same : id = other
  · subst same
    have none : Dictionary.get? id weights = none := by
      refine Option.eq_none_iff_forall_ne_some.2 fun m found => first ?_
      exact List.mem_map.2 ⟨_, (Dictionary.get?_eq_some_iff rest).1 found, rfl⟩
    simp [none]
  · simp [same, Ne.symm same]

namespace Matrix

variable {matrix : Matrix}

/-- A vector with an entry for each row, by the places of the rows. -/
def byPlace (matrix : Matrix) : (Nat → ℚ) →ₗ[ℚ] (String → ℚ) where
  toFun x id := ((matrix.placeIndex? id).map x).getD 0
  map_add' x y := by
    funext id
    cases found : matrix.placeIndex? id <;> simp [found]
  map_smul' c x := by
    funext id
    cases found : matrix.placeIndex? id <;> simp [found]

/-- Weights of places, by their rows. -/
def byRow (matrix : Matrix) : (String → ℚ) →ₗ[ℚ] (Nat → ℚ) where
  toFun weight row := ((matrix.places[row]?).map weight).getD 0
  map_add' weight other := by
    funext row
    rw [Pi.add_apply]
    cases matrix.places[row]? <;> simp
  map_smul' c weight := by
    funext row
    rw [Pi.smul_apply]
    cases matrix.places[row]? <;> simp

theorem byPlace_apply (x : Nat → ℚ) (id : String) :
    matrix.byPlace x id = ((matrix.placeIndex? id).map x).getD 0 := rfl

theorem byRow_apply (weight : String → ℚ) (row : Nat) :
    matrix.byRow weight row = ((matrix.places[row]?).map weight).getD 0 := rfl

theorem coords_column {column row : Nat} (inside : row < matrix.places.length) :
    coords (matrix.column column) row = matrix.entry row column := by
  simp [coords, Nullspace.entry, Matrix.column, inside]

section

variable (distinct : matrix.places.Nodup)
include distinct

theorem byPlace_at {row : Nat} (inside : row < matrix.places.length) (x : Nat → ℚ) :
    matrix.byPlace x (matrix.places[row]?.getD "") = x row := by
  have found : matrix.placeIndex? (matrix.places[row]?.getD "") = some row := by
    rw [placeIndex?_iff distinct, List.getElem?_eq_getElem inside, Option.getD_some]
  rw [byPlace_apply, found, Option.map_some, Option.getD_some]

theorem byRow_byPlace {x : Nat → ℚ} (within : ∀ i, matrix.places.length ≤ i → x i = 0) :
    matrix.byRow (matrix.byPlace x) = x := by
  funext row
  rw [byRow_apply]
  cases here : matrix.places[row]? with
  | none => exact (within row (List.getElem?_eq_none_iff.1 here)).symm
  | some id => simp [byPlace_apply, (placeIndex?_iff distinct).2 here]

theorem byPlace_byRow {weight : String → ℚ}
    (known : ∀ id, matrix.placeIndex? id = none → weight id = 0) :
    matrix.byPlace (matrix.byRow weight) = weight := by
  funext id
  rw [byPlace_apply]
  cases found : matrix.placeIndex? id with
  | none => exact (known id found).symm
  | some row => simp [byRow_apply, (placeIndex?_iff distinct).1 found]

theorem byRow_single (id : String) (n : ℚ) (row : Nat) :
    matrix.byRow (Pi.single id n) row = if matrix.placeIndex? id = some row then n else 0 := by
  simp only [byRow_apply, placeIndex?_iff distinct]
  cases matrix.places[row]? with
  | none => simp
  | some other => simp [Pi.single_apply]

/-- A weighted column is the product of the column with the weights by row. -/
theorem cast_weighted {weights : Dictionary Int} (keys : (Dictionary.keys weights).Nodup)
    (column : Nat) : (weighted weights (matrix.entryAt column) : ℚ) =
      ∑ row ∈ Finset.range matrix.places.length,
        coords (matrix.column column) row * matrix.byRow (weightOf weights) row := by
  induction weights with
  | nil => simp [weighted, weightOf_nil]
  | cons entry weights ih =>
    obtain ⟨id, n⟩ := entry
    -- the first weight counts in the row of its place alone
    have first : ∑ row ∈ Finset.range matrix.places.length,
        coords (matrix.column column) row * matrix.byRow (Pi.single id (n : ℚ)) row =
          n * matrix.entryAt column id := by
      simp only [byRow_single distinct, entryAt]
      cases found : matrix.placeIndex? id with
      | none => simp
      | some r =>
        have inside := (List.findIdx?_eq_some_iff_getElem.1 found).1
        simp [inside, coords_column inside, mul_comm]
    have later := ih (List.nodup_cons.1 keys).2
    simp only [weightOf_cons keys, map_add, Pi.add_apply, mul_add, Finset.sum_add_distrib, first,
      ← later]
    simp [weighted]

end

/-- Entries all of which stay within the bounds are taken as they are. -/
theorem mapM_fit?_eq_some_iff {entries weights : Dictionary Int} :
    (entries.mapM fun (place, n) => (Number.fit? n).map fun n => (place, n)) = some weights ↔
      weights = entries ∧ ∀ entry ∈ entries, Number.Fits entry.2 := by
  induction entries generalizing weights with
  | nil => simp [eq_comm]
  | cons entry entries ih =>
    obtain ⟨place, n⟩ := entry
    simp only [List.mapM_cons, Option.bind_eq_bind, Option.bind_eq_some_iff,
      Option.map_eq_some_iff, Option.pure_def, Option.some.injEq, Number.fit?_eq_some_iff, ih,
      List.forall_mem_cons]
    constructor
    · rintro ⟨_, ⟨_, ⟨fits, rfl⟩, rfl⟩, _, ⟨rfl, rest⟩, rfl⟩
      exact ⟨rfl, fits, rest⟩
    · rintro ⟨rfl, fits, rest⟩
      exact ⟨_, ⟨_, ⟨fits, rfl⟩, rfl⟩, _, ⟨rfl, rest⟩, rfl⟩

/-- A vector is skipped exactly if one of its entries leaves the bounds. -/
theorem isSome_weightsOf?_iff {v : Nullspace.Vector} (sized : v.length = matrix.places.length) :
    (matrix.weightsOf? v).isSome ↔ ∀ n ∈ v, Number.Fits n := by
  simp only [Option.isSome_iff_exists, weightsOf?, mapM_fit?_eq_some_iff, exists_eq_left,
    List.mem_filter, decide_eq_true_iff]
  constructor
  · intro fits n member
    by_cases zero : n = 0
    · subst zero
      decide
    · obtain ⟨row, inside, rfl⟩ := List.mem_iff_getElem.1 member
      have there : row < matrix.places.length := sized ▸ inside
      exact fits (matrix.places[row], v[row])
        ⟨List.mem_iff_getElem.2 ⟨row, by simp [inside, there], by simp⟩, zero⟩
  · intro fits entry listed
    exact fits entry.2 (List.of_mem_zip listed.1).2

section

variable (distinct : matrix.places.Nodup) {v : Nullspace.Vector}
  (sized : v.length = matrix.places.length) {weights : Dictionary Int}
  (made : matrix.weightsOf? v = some weights)
include distinct sized made

theorem isWeights_of_weightsOf? : IsWeights weights := by
  obtain ⟨rfl, fits⟩ := mapM_fit?_eq_some_iff.1 made
  refine ⟨List.Nodup.sublist (List.filter_sublist.map _) ?_, fits⟩
  rw [List.map_fst_zip (Nat.le_of_eq sized.symm)]
  exact distinct

/-- The weights of a vector are its entries other than zero. -/
theorem get?_of_weightsOf? {id : String} {n : Int} : Dictionary.get? id weights = some n ↔
    (∃ row, matrix.placeIndex? id = some row ∧ v[row]? = some n) ∧ n ≠ 0 := by
  have keys := (isWeights_of_weightsOf? distinct sized made).distinct
  rw [Dictionary.get?_eq_some_iff keys, (mapM_fit?_eq_some_iff.1 made).1, List.mem_filter,
    List.mem_iff_getElem?]
  simp [List.getElem?_zip_eq_some, placeIndex?_iff distinct]

theorem weightOf_of_weightsOf? : weightOf weights = matrix.byPlace (coords v) := by
  funext id
  rw [byPlace_apply, weightOf]
  cases found : Dictionary.get? id weights with
  | some n =>
    obtain ⟨⟨row, atRow, here⟩, -⟩ := (get?_of_weightsOf? distinct sized made).1 found
    simp [atRow, coords, Nullspace.entry, here]
  | none =>
    cases atRow : matrix.placeIndex? id with
    | none => simp
    | some row =>
      -- an entry other than zero would be listed
      have zero : Nullspace.entry v row = 0 := by
        by_contra nonzero
        unfold Nullspace.entry at nonzero
        cases here : v[row]? with
        | none => simp [here] at nonzero
        | some n =>
          rw [here, Option.getD_some] at nonzero
          rw [(get?_of_weightsOf? distinct sized made).2 ⟨⟨row, atRow, here⟩, nonzero⟩] at found
          cases found
      simp [coords, zero]

end

end Matrix

/-! ### The check as a system of equations -/

theorem Matrix.length_of_mem_transposed {matrix : Matrix} {row : Nullspace.Vector}
    (member : row ∈ matrix.transposed) : row.length = matrix.places.length := by
  obtain ⟨column, -, rfl⟩ := List.mem_map.1 member
  simp [Matrix.column]

/-- The vectors of weights span the solutions for the columns of a matrix. -/
theorem Matrix.span_weightBasis (matrix : Matrix) :
    Submodule.span ℚ {x | x ∈ matrix.weightBasis.map coords} =
      solutions matrix.transposed matrix.places.length :=
  Nullspace.span_basis fun _ => Matrix.length_of_mem_transposed

section

variable {net : Net} (formed : net.WellFormed)
include formed

/-- Weights pass the check exactly if they come from a solution for the columns of the matrix. -/
theorem PlaceInvariant.holdsIn_iff_mem (few : net.arcs.length < 2 ^ 63)
    {invariant : PlaceInvariant} (isWeights : IsWeights invariant.weights) :
    invariant.holdsIn (Matrix.ofNet net) = true ↔ weightOf invariant.weights ∈
      (solutions (Matrix.ofNet net).transposed (Matrix.ofNet net).places.length).map
        (Matrix.ofNet net).byPlace := by
  have distinct := Matrix.nodup_places_ofNet formed
  rw [holdsIn_iff formed few isWeights, Submodule.mem_map]
  constructor
  · rintro ⟨known, kept⟩
    refine ⟨(Matrix.ofNet net).byRow (weightOf invariant.weights), ⟨fun i outside => ?_, ?_⟩, ?_⟩
    · rw [Matrix.byRow_apply, List.getElem?_eq_none outside]
      rfl
    · intro row member
      obtain ⟨column, inside, rfl⟩ := List.mem_map.1 member
      rw [← Matrix.cast_weighted distinct isWeights.distinct,
        kept column (List.mem_range.1 inside), Int.cast_zero]
    · refine Matrix.byPlace_byRow distinct fun id unknown => ?_
      by_contra weighs
      obtain ⟨n, member, nonzero⟩ := (weightOf_ne_zero_iff isWeights.distinct).1 weighs
      have found := known _ member nonzero
      rw [unknown] at found
      cases found
  · rintro ⟨x, ⟨within, orthogonal⟩, same⟩
    refine ⟨fun entry member nonzero => ?_, fun column inside => ?_⟩
    · have weighs := (weightOf_ne_zero_iff isWeights.distinct).2 ⟨entry.2, member, nonzero⟩
      rw [← same, Matrix.byPlace_apply] at weighs
      cases found : (Matrix.ofNet net).placeIndex? entry.1 with
      | none => simp [found] at weighs
      | some row => rfl
    · rw [← Int.cast_eq_zero (α := ℚ), Matrix.cast_weighted distinct isWeights.distinct, ← same,
        Matrix.byRow_byPlace distinct within]
      exact orthogonal _ (List.mem_map_of_mem (List.mem_range.2 inside))

end

/-! ### The basis -/

namespace Net

variable {net : Net} (formed : net.WellFormed)
include formed

/-- The weights of the basis are those of the vectors that stay within the bounds. -/
theorem weightOf_invariantBasis :
    ((net.invariantBasis (Matrix.ofNet net)).map fun invariant => weightOf invariant.weights) =
      ((Matrix.ofNet net).weightBasis.filter fun v => ((Matrix.ofNet net).weightsOf? v).isSome).map
        fun v => (Matrix.ofNet net).byPlace (coords v) := by
  have distinct := Matrix.nodup_places_ofNet formed
  rw [invariantBasis, List.map_filterMap, ← List.filterMap_eq_map, List.filterMap_filter]
  refine List.filterMap_congr fun v member => ?_
  cases made : (Matrix.ofNet net).weightsOf? v with
  | none => simp
  | some weights =>
    have sized := Nullspace.length_of_mem_basis member
    simp [Matrix.weightOf_of_weightsOf? distinct sized made, PlaceInvariant.verify,
      PlaceInvariant.ofWeights]

theorem linearIndependent_invariantBasis :
    LinearIndependent ℚ ((net.invariantBasis (Matrix.ofNet net)).map
      fun invariant => weightOf invariant.weights).get := by
  let matrix := Matrix.ofNet net
  let width := matrix.places.length
  let e := Nullspace.eliminate matrix.transposed width
  have reduced : e.Reduced width :=
    (Nullspace.progress_eliminate fun _ => Matrix.length_of_mem_transposed).reduced
  have asColumns : matrix.weightBasis = (e.freeColumns width).map (e.solution width) := rfl
  -- the place of a free column is weighted by the vector of that column alone
  let own (column : Nat) : String := matrix.places[column]?.getD ""
  have atOwn : ∀ {column : Nat}, e.Free width column → ∀ x : Nat → ℚ,
      matrix.byPlace x (own column) = x column := fun isFree =>
    Matrix.byPlace_at (Matrix.nodup_places_ofNet formed) isFree.1
  rw [weightOf_invariantBasis formed]
  change LinearIndependent ℚ ((matrix.weightBasis.filter _).map _).get
  rw [asColumns, List.filter_map, List.map_map]
  refine Nullspace.linearIndependent_of_own ((e.nodup_freeColumns width).filter _) own ?_ ?_
  · intro column member
    have isFree := Nullspace.Echelon.mem_freeColumns.1 (List.mem_of_mem_filter member)
    rw [Function.comp_apply, atOwn isFree]
    exact reduced.solution_own isFree
  · intro column member other _ apart
    have isFree := Nullspace.Echelon.mem_freeColumns.1 (List.mem_of_mem_filter member)
    rw [Function.comp_apply, atOwn isFree]
    exact Nullspace.Echelon.solution_other isFree apart

variable (few : net.arcs.length < 2 ^ 63)
include few

theorem verified_of_mem_invariantBasis {invariant : PlaceInvariant}
    (member : invariant ∈ net.invariantBasis (Matrix.ofNet net)) : invariant.verified = true := by
  obtain ⟨v, ofBasis, made⟩ := List.mem_filterMap.1 member
  obtain ⟨weights, isMade, rfl⟩ := Option.map_eq_some_iff.1 made
  have distinct := Matrix.nodup_places_ofNet formed
  have sized := Nullspace.length_of_mem_basis ofBasis
  have solves : coords v ∈
      solutions (Matrix.ofNet net).transposed (Matrix.ofNet net).places.length := by
    rw [← Matrix.span_weightBasis]
    exact Submodule.subset_span (List.mem_map_of_mem ofBasis)
  have isWeights : IsWeights (PlaceInvariant.ofWeights net weights).weights :=
    Matrix.isWeights_of_weightsOf? distinct sized isMade
  exact (PlaceInvariant.holdsIn_iff_mem formed few isWeights).2
    ⟨coords v, solves, (Matrix.weightOf_of_weightsOf? distinct sized isMade).symm⟩

/-- If no vector is skipped, all weights that pass the check are combinations. -/
theorem holdsIn_iff_mem_span
    (fits : ∀ v ∈ (Matrix.ofNet net).weightBasis, ∀ n ∈ v, Number.Fits n)
    {invariant : PlaceInvariant} (isWeights : IsWeights invariant.weights) :
    invariant.holdsIn (Matrix.ofNet net) = true ↔ weightOf invariant.weights ∈
      Submodule.span ℚ {weight | weight ∈ (net.invariantBasis (Matrix.ofNet net)).map
        fun invariant => weightOf invariant.weights} := by
  have noneSkipped : ∀ v ∈ (Matrix.ofNet net).weightBasis,
      ((Matrix.ofNet net).weightsOf? v).isSome := fun v member =>
    (Matrix.isSome_weightsOf?_iff (Nullspace.length_of_mem_basis member)).2 (fits v member)
  have image : {weight | weight ∈ (net.invariantBasis (Matrix.ofNet net)).map
      fun invariant => weightOf invariant.weights} =
        (Matrix.ofNet net).byPlace '' {x | x ∈ (Matrix.ofNet net).weightBasis.map coords} := by
    rw [weightOf_invariantBasis formed, List.filter_eq_self.2 noneSkipped]
    ext weight
    simp
  rw [PlaceInvariant.holdsIn_iff_mem formed few isWeights, ← Matrix.span_weightBasis, image,
    Submodule.map_span]

end Net

/-- The basis of the place invariants is sound, independent and complete. Each of its invariants
passes the check, and their weights are independent. If no entry of a vector leaves the bounds, so
that none is skipped, then any weights pass the check exactly if they are a rational combination of
those of the basis. -/
theorem Net.invariantBasis_exact {d : Document} {net : Net} (valid : Net.ofDocument d = .ok net)
    (few : net.arcs.length < 2 ^ 63) :
    let matrix := Matrix.ofNet net
    let basis := net.invariantBasis matrix
    let vectors := basis.map fun invariant => weightOf invariant.weights
    (∀ invariant ∈ basis, invariant.verified = true) ∧
    LinearIndependent ℚ vectors.get ∧
    ((∀ v ∈ matrix.weightBasis, ∀ n ∈ v, Number.Fits n) →
      ∀ invariant : PlaceInvariant, IsWeights invariant.weights →
        (invariant.holdsIn matrix = true ↔
          weightOf invariant.weights ∈ Submodule.span ℚ {weight | weight ∈ vectors})) := by
  intro matrix basis vectors
  have formed := Net.wellFormed_of_ofDocument valid
  refine ⟨fun invariant => ?_, ?_, fun fits invariant isWeights => ?_⟩
  · exact verified_of_mem_invariantBasis formed few
  · exact linearIndependent_invariantBasis formed
  · exact holdsIn_iff_mem_span formed few fits isWeights

/-- A note weighs as much as two coins, whatever a coin weighs. -/
theorem Net.invariantBasis_exact_exchange :
    ∃ net, Net.ofDocument exchange = .ok net ∧
      let basis := net.invariantBasis (Matrix.ofNet net)
      let vectors := basis.map fun invariant => weightOf invariant.weights
      basis = [⟨[("coin", 1), ("note", 2)], 3, true⟩] ∧
        weightOf [("coin", -3), ("note", -6)] ∈ Submodule.span ℚ {weight | weight ∈ vectors} ∧
        weightOf [("coin", 1), ("note", 1)] ∉ Submodule.span ℚ {weight | weight ∈ vectors} := by
  refine ⟨_, rfl, ?_⟩
  obtain ⟨-, -, complete⟩ := invariantBasis_exact (d := exchange) rfl (by decide)
  rw [Matrix.ofNet_of_pairwise (by decide) (by decide)] at complete ⊢
  have spans := complete (by decide)
  refine ⟨by decide, ?_, ?_⟩
  · exact (spans ⟨_, 0, false⟩ ⟨by decide, by decide⟩).1 (by decide)
  · intro member
    have holds := (spans ⟨_, 0, false⟩ ⟨by decide, by decide⟩).2 member
    exact absurd holds (by decide)

end GuardedNet
