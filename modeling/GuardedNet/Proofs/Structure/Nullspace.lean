import Mathlib.Algebra.BigOperators.Ring.Finset
import Mathlib.Algebra.Field.Rat
import Mathlib.Algebra.Order.Ring.Int
import Mathlib.Data.Int.Cast.Field
import Mathlib.LinearAlgebra.LinearIndependent.Basic
import Mathlib.Logic.Equiv.Basic
import Mathlib.Tactic.FieldSimp
import Mathlib.Tactic.LinearCombination
import Mathlib.Tactic.Ring
import GuardedNet.Structure.Nullspace

/-!
# Nullspaces over the rationals

The elimination keeps the rational vectors that are orthogonal to all rows
(`progress_eliminate`), and the vectors that are read off at its end span them (`span_basis`).
-/

namespace GuardedNet.Nullspace

/-! ### Vectors -/

/-- The entries of a vector as rational numbers. -/
def coords (v : Vector) (i : Nat) : ℚ := entry v i

theorem entry_of_length_le {v : Vector} {i : Nat} (outside : v.length ≤ i) : entry v i = 0 := by
  rw [entry, List.getElem?_eq_none outside, Option.getD_none]

theorem entry_map (change : Int → Int) (zero : change 0 = 0) (v : Vector) (i : Nat) :
    entry (v.map change) i = change (entry v i) := by
  rw [entry, entry, List.getElem?_map]
  cases v[i]? with
  | none => exact zero.symm
  | some n => rfl

theorem entry_zipWith {join : Int → Int → Int} (zero : join 0 0 = 0) {v w : Vector}
    (same : v.length = w.length) (i : Nat) :
    entry (List.zipWith join v w) i = join (entry v i) (entry w i) := by
  by_cases inside : i < v.length
  · have inside' : i < w.length := same ▸ inside
    simp [entry, inside, inside']
  · have outside := Nat.not_lt.1 inside
    have outside' : w.length ≤ i := same ▸ outside
    have both : (List.zipWith join v w).length ≤ i := by
      rw [List.length_zipWith]
      omega
    rw [entry_of_length_le outside, entry_of_length_le outside', entry_of_length_le both, zero]

theorem foldl_gcd_dvd (v : Vector) (g : Nat) :
    v.foldl (fun g n => Nat.gcd g n.natAbs) g ∣ g ∧
      ∀ n ∈ v, ((v.foldl (fun g n => Nat.gcd g n.natAbs) g : Nat) : Int) ∣ n := by
  induction v generalizing g with
  | nil => simp
  | cons n v ih =>
    obtain ⟨first, later⟩ := ih (Nat.gcd g n.natAbs)
    refine ⟨first.trans (Nat.gcd_dvd_left _ _), ?_⟩
    rintro m (_ | ⟨_, member⟩)
    · exact Int.natCast_dvd.2 (first.trans (Nat.gcd_dvd_right _ _))
    · exact later m member

theorem content_dvd_entry (v : Vector) (i : Nat) : (content v : Int) ∣ entry v i := by
  rw [entry]
  cases here : v[i]? with
  | none => exact dvd_zero _
  | some n => exact (foldl_gcd_dvd v 0).2 n (List.mem_of_getElem? here)

@[simp] theorem length_normalize (v : Vector) : (normalize v).length = v.length := by
  unfold normalize
  dsimp only
  split <;> split <;> simp

/-- A normalized vector is a multiple of the vector. -/
theorem coords_normalize (v : Vector) :
    ∃ factor : ℚ, factor ≠ 0 ∧ ∀ i, coords (normalize v) i = factor * coords v i := by
  obtain ⟨divided, divisor, nonzero, isDivided, same⟩ : ∃ (divided : Vector) (divisor : ℚ),
      divisor ≠ 0 ∧ (∀ i, coords divided i = divisor * coords v i) ∧
        normalize v = if leadsNegative divided then divided.map (- ·) else divided := by
    by_cases zero : content v = 0
    · refine ⟨v, 1, one_ne_zero, fun i => (one_mul _).symm, ?_⟩
      simp only [normalize, zero, if_true]
    · have zero' : (content v : ℚ) ≠ 0 := Nat.cast_ne_zero.2 zero
      refine ⟨v.map (· / (content v : Int)), (content v : ℚ)⁻¹, inv_ne_zero zero', fun i => ?_, ?_⟩
      · rw [coords, coords, entry_map (· / (content v : Int)) (Int.zero_ediv _),
          Int.cast_div (content_dvd_entry v i)]
        · rw [Int.cast_natCast, div_eq_inv_mul]
        · exact_mod_cast zero'
      · simp only [normalize, zero, if_false]
  rw [same]
  split
  · refine ⟨-divisor, neg_ne_zero.2 nonzero, fun i => ?_⟩
    rw [coords, entry_map _ neg_zero, Int.cast_neg, neg_mul, ← isDivided]
    rfl
  · exact ⟨divisor, nonzero, isDivided⟩

/-! ### Clearing a column -/

@[simp] theorem length_clear {pivot row : Vector} (column : Nat)
    (same : row.length = pivot.length) : (clear pivot column row).length = row.length := by
  unfold clear
  dsimp only
  split <;> simp [same]

/-- Clearing combines the row with the pivot's row. -/
theorem coords_clear {pivot row : Vector} {column : Nat} (same : row.length = pivot.length)
    (lead : coords pivot column ≠ 0) :
    (∃ factor part : ℚ, factor ≠ 0 ∧
      ∀ i, coords (clear pivot column row) i = factor * coords row i - part * coords pivot i) ∧
    coords (clear pivot column row) column = 0 := by
  unfold clear
  dsimp only
  split
  · rename_i zero
    refine ⟨⟨1, 0, one_ne_zero, fun i => by ring⟩, ?_⟩
    rw [coords, zero, Int.cast_zero]
  · obtain ⟨scale, nonzero, scaled⟩ := coords_normalize
      (List.zipWith (fun n lead => n * entry pivot column - entry row column * lead) row pivot)
    have combined : ∀ i, coords (List.zipWith
        (fun n lead => n * entry pivot column - entry row column * lead) row pivot) i =
          coords row i * coords pivot column - coords row column * coords pivot i := by
      intro i
      rw [coords, entry_zipWith (by ring) same]
      simp only [coords, Int.cast_sub, Int.cast_mul]
    refine ⟨⟨scale * coords pivot column, scale * coords row column,
      mul_ne_zero nonzero lead, fun i => ?_⟩, ?_⟩
    · rw [scaled, combined]
      ring
    · rw [scaled, combined]
      ring

theorem getElem?_exchange {rows : List Vector} {i j : Nat} (iInside : i < rows.length)
    (jInside : j < rows.length) (k : Nat) : (exchange rows i j)[k]? = rows[Equiv.swap i j k]? := by
  rw [exchange, List.getElem?_set, List.getElem?_set, List.length_set, Equiv.swap_apply_def]
  by_cases isJ : j = k
  · subst isJ
    by_cases isI : j = i <;> simp [isI, iInside, jInside]
  · by_cases isI : i = k
    · subst isI
      simp [isJ, iInside, jInside]
    · simp [isJ, isI, Ne.symm isJ, Ne.symm isI]

/-! ### One column of the elimination -/

namespace Echelon

/-- The entry at a row and a column. -/
def cell (e : Echelon) (row column : Nat) : ℚ := coords (e.rows[row]?.getD []) column

/-- Every row has the width. -/
def Rectangular (e : Echelon) (width : Nat) : Prop := ∀ row ∈ e.rows, row.length = width

theorem cell_of_length_le {e : Echelon} {row : Nat} (outside : e.rows.length ≤ row)
    (column : Nat) : e.cell row column = 0 := by
  rw [cell, List.getElem?_eq_none outside]
  simp [coords, entry]

/-- A column is cleared with the row that was found: it becomes the pivot's row, and every other
row is combined with it. -/
structure Clears (e : Echelon) (column found : Nat) (next : Echelon) : Prop where
  beyond : e.pivots.length ≤ found
  lead : e.cell found column ≠ 0
  pivots : next.pivots = e.pivots ++ [column]
  own : ∀ i, next.cell e.pivots.length i = e.cell found i
  others : ∀ k, k ≠ e.pivots.length → ∃ factor part : ℚ, factor ≠ 0 ∧
    ∀ i, next.cell k i = factor * e.cell (Equiv.swap e.pivots.length found k) i -
      part * e.cell found i
  zero : ∀ k, k ≠ e.pivots.length → next.cell k column = 0

end Echelon

/-- A step leaves everything as it is if none of the rows left has an entry in the column. Else it
takes the first that has. -/
theorem step_eq (e : Echelon) (column : Nat) :
    (step e column = e ∧ ∀ k, e.pivots.length ≤ k → e.cell k column = 0) ∨
    ∃ found, e.pivots.length ≤ found ∧ found < e.rows.length ∧ e.cell found column ≠ 0 ∧
      (step e column).pivots = e.pivots ++ [column] ∧
      ∀ k, (step e column).rows[k]? =
        (e.rows[Equiv.swap e.pivots.length found k]?).map fun row =>
          if k = e.pivots.length then row else clear (e.rows[found]?.getD []) column row := by
  unfold step
  dsimp only
  split
  · rename_i none
    refine .inl ⟨rfl, fun k beyond => ?_⟩
    by_cases inside : k < e.rows.length
    · have zero := List.find?_eq_none.1 none k (List.mem_range.2 inside)
      simpa [beyond, Echelon.cell, coords] using zero
    · exact Echelon.cell_of_length_le (Nat.not_lt.1 inside) column
  · rename_i found isFound
    have inside := List.mem_range.1 (List.mem_of_find?_eq_some isFound)
    have picked := List.find?_some isFound
    simp only [Bool.and_eq_true, decide_eq_true_eq] at picked
    have rankInside : e.pivots.length < e.rows.length := by omega
    refine .inr ⟨found, picked.1, inside, ?_, rfl, fun k => ?_⟩
    · exact Int.cast_ne_zero.2 picked.2
    · rw [List.getElem?_map, List.getElem?_zipIdx, getElem?_exchange rankInside inside,
        getElem?_exchange rankInside inside, Equiv.swap_apply_left, Option.map_map]
      simp only [Nat.zero_add]
      rfl

/-- A column is cleared, unless none of the rows left has an entry in it. -/
theorem Echelon.Rectangular.step {e : Echelon} {width : Nat} (rect : e.Rectangular width)
    (column : Nat) :
    (step e column).Rectangular width ∧
    ((Nullspace.step e column = e ∧ ∀ k, e.pivots.length ≤ k → e.cell k column = 0) ∨
      ∃ found, e.Clears column found (Nullspace.step e column)) := by
  rcases step_eq e column with ⟨same, zero⟩ | ⟨found, beyond, inside, lead, pivots, rows⟩
  · rw [same]
    exact ⟨rect, .inl ⟨rfl, zero⟩⟩
  have foundRow : e.rows[found]?.getD [] ∈ e.rows := by
    rw [List.getElem?_eq_getElem inside]
    exact List.getElem_mem inside
  have sameLength : ∀ row ∈ e.rows, row.length = (e.rows[found]?.getD []).length :=
    fun row member => (rect row member).trans (rect _ foundRow).symm
  constructor
  · intro row member
    obtain ⟨k, here⟩ := List.mem_iff_getElem?.1 member
    rw [rows, Option.map_eq_some_iff] at here
    obtain ⟨old, isOld, rfl⟩ := here
    have oldMember := List.mem_of_getElem? isOld
    split
    · exact rect old oldMember
    · rw [length_clear column (sameLength old oldMember), rect old oldMember]
  have others : ∀ k, k ≠ e.pivots.length → (∃ factor part : ℚ, factor ≠ 0 ∧
      ∀ i, (Nullspace.step e column).cell k i =
        factor * e.cell (Equiv.swap e.pivots.length found k) i - part * e.cell found i) ∧
      (Nullspace.step e column).cell k column = 0 := by
    intro k other
    simp only [cell, rows, if_neg other]
    cases isOld : e.rows[Equiv.swap e.pivots.length found k]? with
    | none => exact ⟨⟨1, 0, one_ne_zero, fun i => by simp [coords, entry]⟩, by simp [coords, entry]⟩
    | some old => exact coords_clear (sameLength old (List.mem_of_getElem? isOld)) lead
  refine .inr ⟨found, beyond, lead, pivots, fun i => ?_, fun k other => (others k other).1,
    fun k other => (others k other).2⟩
  rw [cell, cell, rows, Equiv.swap_apply_left]
  simp

/-! ### Solutions -/

/-- The rational vectors within the width that are orthogonal to all rows. -/
def solutions (rows : List Vector) (width : Nat) : Submodule ℚ (Nat → ℚ) where
  carrier := {x | (∀ i, width ≤ i → x i = 0) ∧
    ∀ row ∈ rows, ∑ i ∈ Finset.range width, coords row i * x i = 0}
  zero_mem' := by simp
  add_mem' := by
    rintro x y ⟨xWithin, xOrthogonal⟩ ⟨yWithin, yOrthogonal⟩
    refine ⟨fun i outside => ?_, fun row member => ?_⟩
    · simp [xWithin i outside, yWithin i outside]
    · simp [mul_add, Finset.sum_add_distrib, xOrthogonal row member, yOrthogonal row member]
  smul_mem' := by
    rintro c x ⟨within, orthogonal⟩
    refine ⟨fun i outside => by simp [within i outside], fun row member => ?_⟩
    have scaled := congrArg (c * ·) (orthogonal row member)
    simpa [Finset.mul_sum, mul_left_comm] using scaled

namespace Echelon

variable {e next : Echelon} {width column found : Nat} {x : Nat → ℚ}

/-- The product of a row with a vector. -/
def product (e : Echelon) (width : Nat) (x : Nat → ℚ) (row : Nat) : ℚ :=
  ∑ i ∈ Finset.range width, e.cell row i * x i

theorem mem_solutions_iff : x ∈ solutions e.rows width ↔
    (∀ i, width ≤ i → x i = 0) ∧ ∀ row, e.product width x row = 0 := by
  refine and_congr_right fun _ => ⟨fun orthogonal row => ?_, fun orthogonal row member => ?_⟩
  · by_cases inside : row < e.rows.length
    · have here := orthogonal _ (List.getElem_mem inside)
      simpa [product, cell, inside] using here
    · simp [product, cell_of_length_le (Nat.not_lt.1 inside)]
  · obtain ⟨k, here⟩ := List.mem_iff_getElem?.1 member
    simpa [product, cell, here] using orthogonal k

theorem Clears.product_own (clears : e.Clears column found next) (width : Nat) (x : Nat → ℚ) :
    next.product width x e.pivots.length = e.product width x found :=
  Finset.sum_congr rfl fun i _ => by rw [clears.own]

theorem Clears.product_others (clears : e.Clears column found next) (width : Nat) (x : Nat → ℚ)
    {k : Nat} (other : k ≠ e.pivots.length) : ∃ factor part : ℚ, factor ≠ 0 ∧
      next.product width x k =
        factor * e.product width x (Equiv.swap e.pivots.length found k) -
          part * e.product width x found := by
  obtain ⟨factor, part, nonzero, combined⟩ := clears.others k other
  refine ⟨factor, part, nonzero, ?_⟩
  simp only [product, combined, Finset.mul_sum, ← Finset.sum_sub_distrib]
  exact Finset.sum_congr rfl fun i _ => by ring

/-- Clearing a column keeps the vectors that are orthogonal to all rows. -/
theorem Clears.solutions_eq (clears : e.Clears column found next) :
    solutions next.rows width = solutions e.rows width := by
  ext x
  rw [mem_solutions_iff, mem_solutions_iff]
  refine and_congr_right fun _ => ⟨fun zero k => ?_, fun zero k => ?_⟩
  · have foundZero : e.product width x found = 0 := clears.product_own width x ▸ zero _
    by_cases isFound : k = found
    · rw [isFound, foundZero]
    -- the row stands where the exchange has put it
    have other : Equiv.swap e.pivots.length found k ≠ e.pivots.length := by
      rw [Ne, Equiv.swap_apply_eq_iff, Equiv.swap_apply_left]
      exact isFound
    obtain ⟨factor, part, nonzero, combined⟩ := clears.product_others width x other
    rw [zero, foundZero, Equiv.swap_apply_self, mul_zero, sub_zero] at combined
    exact (mul_eq_zero.1 combined.symm).resolve_left nonzero
  · by_cases own : k = e.pivots.length
    · rw [own, clears.product_own, zero]
    · obtain ⟨factor, part, -, combined⟩ := clears.product_others width x own
      rw [combined, zero, zero, mul_zero, mul_zero, sub_zero]

/-- The columns before `done` are cleared: a pivot is the only entry of its column, and the rows
without a pivot are zero. -/
structure Reduced (e : Echelon) (done : Nat) : Prop where
  distinct : e.pivots.Nodup
  within : ∀ p ∈ e.pivots, p < done
  lead : ∀ k p : Nat, e.pivots[k]? = some p → e.cell k p ≠ 0
  alone : ∀ k p : Nat, e.pivots[k]? = some p → ∀ j, j ≠ k → e.cell j p = 0
  rest : ∀ k, e.pivots.length ≤ k → ∀ i < done, e.cell k i = 0

theorem Clears.getElem?_pivots (clears : e.Clears column found next) {k p : Nat}
    (here : next.pivots[k]? = some p) :
    k < e.pivots.length ∧ e.pivots[k]? = some p ∨ k = e.pivots.length ∧ p = column := by
  rw [clears.pivots, List.getElem?_append] at here
  split at here
  · exact .inl ⟨by assumption, here⟩
  · obtain ⟨inside, rfl⟩ := List.getElem?_eq_some_iff.1 here
    rw [List.length_singleton] at inside
    exact .inr ⟨by omega, by simp⟩

/-- In the columns that are done the row that is found is zero, and so the others are scaled. -/
theorem Clears.cell_done (clears : e.Clears column found next) (reduced : e.Reduced column)
    {i : Nat} (done : i < column) : next.cell e.pivots.length i = 0 ∧
      ∀ k, k ≠ e.pivots.length → ∃ factor : ℚ, factor ≠ 0 ∧
        next.cell k i = factor * e.cell (Equiv.swap e.pivots.length found k) i := by
  have foundZero : e.cell found i = 0 := reduced.rest found clears.beyond i done
  refine ⟨by rw [clears.own, foundZero], fun k other => ?_⟩
  obtain ⟨factor, part, nonzero, combined⟩ := clears.others k other
  exact ⟨factor, nonzero, by rw [combined, foundZero, mul_zero, sub_zero]⟩

theorem Clears.reduced (clears : e.Clears column found next) (reduced : e.Reduced column) :
    next.Reduced (column + 1) := by
  have beyond := clears.beyond
  constructor
  · rw [clears.pivots]
    refine reduced.distinct.append (List.nodup_singleton _) fun p member isColumn => ?_
    have less := reduced.within p member
    rw [List.mem_singleton.1 isColumn] at less
    exact Nat.lt_irrefl _ less
  · intro p member
    rw [clears.pivots, List.mem_append, List.mem_singleton] at member
    rcases member with old | rfl
    · exact Nat.lt_succ_of_lt (reduced.within p old)
    · exact Nat.lt_succ_self _
  · intro k p here
    rcases clears.getElem?_pivots here with ⟨old, atOld⟩ | ⟨rfl, rfl⟩
    · have done := reduced.within p (List.mem_of_getElem? atOld)
      obtain ⟨factor, nonzero, scaled⟩ := (clears.cell_done reduced done).2 k (Nat.ne_of_lt old)
      rw [scaled, Equiv.swap_apply_of_ne_of_ne (by omega) (by omega)]
      exact mul_ne_zero nonzero (reduced.lead k p atOld)
    · rw [clears.own]
      exact clears.lead
  · intro k p here j other
    rcases clears.getElem?_pivots here with ⟨old, atOld⟩ | ⟨rfl, rfl⟩
    · obtain ⟨ownZero, others⟩ :=
        clears.cell_done reduced (reduced.within p (List.mem_of_getElem? atOld))
      by_cases own : j = e.pivots.length
      · rw [own, ownZero]
      · have apart : Equiv.swap e.pivots.length found j ≠ k := by
          rw [Ne, Equiv.swap_apply_eq_iff, Equiv.swap_apply_of_ne_of_ne (by omega) (by omega)]
          exact other
        obtain ⟨factor, -, scaled⟩ := others j own
        rw [scaled, reduced.alone k p atOld _ apart, mul_zero]
    · exact clears.zero j other
  · intro k left i inside
    rw [clears.pivots, List.length_append, List.length_singleton] at left
    rcases Nat.lt_succ_iff_lt_or_eq.1 inside with done | rfl
    · have stillLeft : e.pivots.length ≤ Equiv.swap e.pivots.length found k := by
        rw [Equiv.swap_apply_def]
        split
        · exact beyond
        · split <;> omega
      obtain ⟨factor, -, scaled⟩ := (clears.cell_done reduced done).2 k (by omega)
      rw [scaled, reduced.rest _ stillLeft i done, mul_zero]
    · exact clears.zero k (by omega)

theorem Reduced.skip (reduced : e.Reduced column)
    (zero : ∀ k, e.pivots.length ≤ k → e.cell k column = 0) : e.Reduced (column + 1) where
  distinct := reduced.distinct
  within p member := Nat.lt_succ_of_lt (reduced.within p member)
  lead := reduced.lead
  alone := reduced.alone
  rest k left i inside := by
    rcases Nat.lt_succ_iff_lt_or_eq.1 inside with done | rfl
    · exact reduced.rest k left i done
    · exact zero k left

end Echelon

/-- What an elimination has done after some columns. -/
structure Progress (rows : List Vector) (width done : Nat) (e : Echelon) : Prop where
  rect : e.Rectangular width
  reduced : e.Reduced done
  solutions : solutions e.rows width = Nullspace.solutions rows width

theorem Progress.step {rows : List Vector} {width column : Nat} {e : Echelon}
    (progress : Progress rows width column e) :
    Progress rows width (column + 1) (step e column) := by
  obtain ⟨rect, reduced, solutions⟩ := progress
  obtain ⟨nextRect, ⟨same, zero⟩ | ⟨found, clears⟩⟩ := rect.step column
  · rw [same]
    exact ⟨rect, reduced.skip zero, solutions⟩
  · exact ⟨nextRect, clears.reduced reduced, clears.solutions_eq.trans solutions⟩

/-- The elimination clears all columns and keeps the solutions. -/
theorem progress_eliminate {rows : List Vector} {width : Nat}
    (rect : ∀ row ∈ rows, row.length = width) :
    Progress rows width width (eliminate rows width) := by
  suffices all : ∀ done, Progress rows width done ((List.range done).foldl step ⟨rows, []⟩) from
    all width
  intro done
  induction done with
  | zero =>
    refine ⟨rect, ⟨List.nodup_nil, ?_, ?_, ?_, ?_⟩, rfl⟩
    all_goals simp
  | succ done ih =>
    rw [List.range_succ, List.foldl_append]
    exact ih.step

/-! ### The vectors of free columns -/

namespace Echelon

variable {e : Echelon} {width free : Nat}

theorem foldl_lcm {α : Type} {part : α → Nat} {parts : List α}
    (positive : ∀ a ∈ parts, part a ≠ 0) {m : Nat} (nonzero : m ≠ 0) :
    parts.foldl (fun m a => Nat.lcm m (part a)) m ≠ 0 ∧
      m ∣ parts.foldl (fun m a => Nat.lcm m (part a)) m ∧
      ∀ a ∈ parts, part a ∣ parts.foldl (fun m a => Nat.lcm m (part a)) m := by
  induction parts generalizing m with
  | nil => exact ⟨nonzero, dvd_rfl, fun a member => by cases member⟩
  | cons a parts ih =>
    obtain ⟨notZero, first, later⟩ :=
      ih (fun b member => positive b (List.mem_cons_of_mem _ member))
        (Nat.lcm_ne_zero nonzero (positive a (List.mem_cons_self ..)))
    refine ⟨notZero, (Nat.dvd_lcm_left _ _).trans first, ?_⟩
    rintro b (_ | ⟨_, member⟩)
    · exact (Nat.dvd_lcm_right _ _).trans first
    · exact later b member

theorem Reduced.pivot_ne_zero (reduced : e.Reduced width) {k p : Nat}
    (here : e.pivots[k]? = some p) : e.pivot k p ≠ 0 :=
  fun zero => reduced.lead k p here (Int.cast_eq_zero.2 zero)

/-- Every pivot divides the scale, which is not zero. -/
theorem Reduced.scale_spec (reduced : e.Reduced width) :
    e.scale ≠ 0 ∧ ∀ k p : Nat, e.pivots[k]? = some p → e.pivot k p ∣ (e.scale : Int) := by
  have positive : ∀ a ∈ e.pivots.zipIdx, (e.pivot a.2 a.1).natAbs ≠ 0 := by
    rintro ⟨p, k⟩ member
    exact Int.natAbs_ne_zero.2 (reduced.pivot_ne_zero (List.mem_zipIdx_iff_getElem?.1 member))
  obtain ⟨nonzero, -, divides⟩ := foldl_lcm positive one_ne_zero
  refine ⟨nonzero, fun k p here => ?_⟩
  exact Int.natAbs_dvd_natAbs.1 (divides (p, k) (List.mem_zipIdx_iff_getElem?.2 here))

theorem solutionEntry_self (e : Echelon) (free : Nat) : e.solutionEntry free free = e.scale :=
  if_pos rfl

theorem solutionEntry_of_not_mem {column : Nat} (other : column ≠ free)
    (noPivot : column ∉ e.pivots) : e.solutionEntry free column = 0 := by
  have none : e.pivots.findIdx? (· == column) = none := by
    rw [List.findIdx?_eq_none_iff]
    intro p member
    exact beq_eq_false_iff_ne.2 fun same => noPivot (same ▸ member)
  rw [solutionEntry, if_neg other, none]

/-- At a pivot the vector makes up for the entry in the free column. -/
theorem Reduced.cell_mul_solutionEntry (reduced : e.Reduced width) {k p : Nat}
    (here : e.pivots[k]? = some p) (other : p ≠ free) :
    e.cell k p * e.solutionEntry free p = -(e.cell k free * e.scale) := by
  have found : e.pivots.findIdx? (· == p) = some k := by
    obtain ⟨inside, rfl⟩ := List.getElem?_eq_some_iff.1 here
    rw [List.findIdx?_eq_some_iff_findIdx_eq]
    exact ⟨inside, reduced.distinct.idxOf_getElem k inside⟩
  have lead : (e.pivot k p : ℚ) ≠ 0 := reduced.lead k p here
  have divided := Int.cast_div (reduced.scale_spec.2 k p here) lead
  rw [solutionEntry, if_neg other, found]
  simp only [Int.cast_neg, Int.cast_mul, divided]
  change (e.pivot k p : ℚ) * -(e.cell k free * _) = _
  field_simp
  rfl

/-- The column has no pivot. -/
def Free (e : Echelon) (width free : Nat) : Prop := free < width ∧ free ∉ e.pivots

/-- The row of a pivot is zero in the columns of the other pivots. -/
theorem Reduced.cell_eq_zero (reduced : e.Reduced width) {k p i : Nat}
    (here : e.pivots[k]? = some p) (other : i ≠ p) (isPivot : i ∈ e.pivots) : e.cell k i = 0 := by
  obtain ⟨j, atJ⟩ := List.mem_iff_getElem?.1 isPivot
  refine reduced.alone j i atJ k ?_
  rintro rfl
  exact other (Option.some.inj (atJ.symm.trans here))

/-- The vector of a free column is orthogonal to every row. -/
theorem Reduced.sum_solutionEntry (reduced : e.Reduced width) (isFree : e.Free width free)
    (k : Nat) : ∑ i ∈ Finset.range width, e.cell k i * (e.solutionEntry free i : ℚ) = 0 := by
  by_cases left : e.pivots.length ≤ k
  · refine Finset.sum_eq_zero fun i inside => ?_
    rw [reduced.rest k left i (Finset.mem_range.1 inside), zero_mul]
  obtain ⟨p, here⟩ : ∃ p, e.pivots[k]? = some p :=
    ⟨_, List.getElem?_eq_getElem (Nat.not_le.1 left)⟩
  have member := List.mem_of_getElem? here
  have apart : free ≠ p := fun same => isFree.2 (same ▸ member)
  rw [Finset.sum_eq_add free p apart, reduced.cell_mul_solutionEntry here apart.symm,
    solutionEntry_self, Int.cast_natCast, add_neg_cancel]
  · rintro i - ⟨notFree, notPivot⟩
    by_cases isPivot : i ∈ e.pivots
    · rw [reduced.cell_eq_zero here notPivot isPivot, zero_mul]
    · rw [solutionEntry_of_not_mem notFree isPivot, Int.cast_zero, mul_zero]
  · exact fun outside => absurd (Finset.mem_range.2 isFree.1) outside
  · exact fun outside => absurd (Finset.mem_range.2 (reduced.within p member)) outside

/-- The entries of the vector of a free column, up to a factor. -/
theorem coords_solution (e : Echelon) (width free : Nat) : ∃ factor : ℚ, factor ≠ 0 ∧
    ∀ i, coords (e.solution width free) i =
      factor * if i < width then (e.solutionEntry free i : ℚ) else 0 := by
  obtain ⟨factor, nonzero, scaled⟩ :=
    coords_normalize ((List.range width).map (e.solutionEntry free))
  refine ⟨factor, nonzero, fun i => ?_⟩
  rw [solution, scaled, coords, entry]
  split <;> simp [*]

/-- The vector of a free column is a solution. -/
theorem Reduced.solution_mem (reduced : e.Reduced width) (isFree : e.Free width free) :
    coords (e.solution width free) ∈ solutions e.rows width := by
  obtain ⟨factor, -, scaled⟩ := e.coords_solution width free
  refine mem_solutions_iff.2 ⟨fun i outside => ?_, fun k => ?_⟩
  · rw [scaled, if_neg (Nat.not_lt.2 outside), mul_zero]
  · have orthogonal := congrArg (factor * ·) (reduced.sum_solutionEntry isFree k)
    rw [Finset.mul_sum, mul_zero] at orthogonal
    rw [product, ← orthogonal]
    refine Finset.sum_congr rfl fun i inside => ?_
    rw [scaled, if_pos (Finset.mem_range.1 inside), mul_left_comm]

theorem Reduced.solution_own (reduced : e.Reduced width) (isFree : e.Free width free) :
    coords (e.solution width free) free ≠ 0 := by
  obtain ⟨factor, nonzero, scaled⟩ := e.coords_solution width free
  rw [scaled, if_pos isFree.1, solutionEntry_self, Int.cast_natCast]
  exact mul_ne_zero nonzero (Nat.cast_ne_zero.2 reduced.scale_spec.1)

theorem solution_other {other : Nat} (otherFree : e.Free width other) (apart : other ≠ free) :
    coords (e.solution width free) other = 0 := by
  obtain ⟨factor, -, scaled⟩ := e.coords_solution width free
  rw [scaled, if_pos otherFree.1, solutionEntry_of_not_mem apart otherFree.2, Int.cast_zero,
    mul_zero]

/-- A solution is determined by its entries in the free columns. -/
theorem Reduced.eq_zero_of_free (reduced : e.Reduced width) {x : Nat → ℚ}
    (solves : x ∈ solutions e.rows width) (zero : ∀ i, e.Free width i → x i = 0) : x = 0 := by
  obtain ⟨within, orthogonal⟩ := mem_solutions_iff.1 solves
  funext i
  by_cases inside : i < width
  · by_cases isPivot : i ∈ e.pivots
    · obtain ⟨k, here⟩ := List.mem_iff_getElem?.1 isPivot
      -- the row of the pivot has nothing else to add
      have only : e.product width x k = e.cell k i * x i := by
        refine Finset.sum_eq_single i (fun j jInside apart => ?_) fun outside => ?_
        · by_cases other : j ∈ e.pivots
          · rw [reduced.cell_eq_zero here apart other, zero_mul]
          · rw [zero j ⟨Finset.mem_range.1 jInside, other⟩, mul_zero]
        · exact absurd (Finset.mem_range.2 inside) outside
      rw [orthogonal k] at only
      exact (mul_eq_zero.1 only.symm).resolve_left (reduced.lead k i here)
    · exact zero i ⟨inside, isPivot⟩
  · exact within i (Nat.not_lt.1 inside)

/-- The columns without a pivot in order. -/
def freeColumns (e : Echelon) (width : Nat) : List Nat :=
  (List.range width).filter fun column => !e.pivots.contains column

theorem mem_freeColumns {e : Echelon} {width free : Nat} :
    free ∈ e.freeColumns width ↔ e.Free width free := by
  simp [freeColumns, Free]

theorem nodup_freeColumns (e : Echelon) (width : Nat) : (e.freeColumns width).Nodup :=
  List.nodup_range.filter _

/-- A solution is the sum of the vectors of the free columns, scaled to its entries there. -/
theorem Reduced.eq_sum (reduced : e.Reduced width) {x : Nat → ℚ}
    (solves : x ∈ solutions e.rows width) :
    x = ∑ free ∈ (e.freeColumns width).toFinset,
      (x free / coords (e.solution width free) free) • coords (e.solution width free) := by
  rw [← sub_eq_zero]
  refine reduced.eq_zero_of_free (Submodule.sub_mem _ solves ?_) fun i isFree => ?_
  · refine Submodule.sum_mem _ fun free member => Submodule.smul_mem _ _ ?_
    exact reduced.solution_mem (mem_freeColumns.1 (List.mem_toFinset.1 member))
  · have member : i ∈ (e.freeColumns width).toFinset :=
      List.mem_toFinset.2 (mem_freeColumns.2 isFree)
    rw [Pi.sub_apply, Finset.sum_apply, Finset.sum_eq_single_of_mem i member]
    · rw [Pi.smul_apply, smul_eq_mul, div_mul_cancel₀ _ (reduced.solution_own isFree), sub_self]
    · intro other _ apart
      rw [Pi.smul_apply, solution_other isFree apart.symm, smul_zero]

end Echelon

/-! ### The basis -/

theorem length_of_mem_basis {rows : List Vector} {width : Nat} {v : Vector}
    (member : v ∈ basis rows width) : v.length = width := by
  obtain ⟨free, -, rfl⟩ := List.mem_map.1 member
  simp [Echelon.solution]

/-- The vectors that are orthogonal to all rows are the rational combinations of the basis. -/
theorem span_basis {rows : List Vector} {width : Nat} (rect : ∀ row ∈ rows, row.length = width) :
    Submodule.span ℚ {x | x ∈ (basis rows width).map coords} = solutions rows width := by
  obtain ⟨-, reduced, same⟩ := progress_eliminate rect
  rw [← same]
  apply le_antisymm
  · rw [Submodule.span_le]
    intro x member
    obtain ⟨v, ofBasis, rfl⟩ := List.mem_map.1 member
    obtain ⟨free, isFree, rfl⟩ := List.mem_map.1 ofBasis
    exact reduced.solution_mem (Echelon.mem_freeColumns.1 isFree)
  · intro x solves
    rw [reduced.eq_sum solves]
    refine Submodule.sum_mem _ fun free member => Submodule.smul_mem _ _ ?_
    refine Submodule.subset_span (List.mem_map_of_mem ?_)
    exact List.mem_map_of_mem (List.mem_toFinset.1 member)

/-- Vectors are independent if each has an entry of its own, where the others are zero. -/
theorem linearIndependent_of_own {κ : Type} {columns : List Nat} (distinct : columns.Nodup)
    {vector : Nat → κ → ℚ} (own : Nat → κ) (lead : ∀ c ∈ columns, vector c (own c) ≠ 0)
    (apart : ∀ c ∈ columns, ∀ d ∈ columns, c ≠ d → vector d (own c) = 0) :
    LinearIndependent ℚ (columns.map vector).get := by
  let column (i : Fin (columns.map vector).length) : Nat :=
    columns.get (i.cast (List.length_map _))
  have isColumn : ∀ i, column i ∈ columns := fun i => List.get_mem _ _
  have vectorOf : ∀ i, (columns.map vector).get i = vector (column i) := by simp [column]
  have injective : Function.Injective column :=
    (List.nodup_iff_injective_get.1 distinct).comp (Fin.cast_injective _)
  rw [linearIndependent_iff']
  intro some factors sum i member
  have here := congrFun sum (own (column i))
  rw [Finset.sum_apply, Finset.sum_eq_single_of_mem i member] at here
  · rw [Pi.smul_apply, vectorOf] at here
    exact (mul_eq_zero.1 here).resolve_right (lead _ (isColumn i))
  · intro j _ other
    have zero := apart _ (isColumn i) _ (isColumn j) (injective.ne other.symm)
    rw [Pi.smul_apply, vectorOf, zero, smul_zero]

end GuardedNet.Nullspace
