import Mathlib.Algebra.Order.BigOperators.Group.List
import Mathlib.Algebra.Order.Group.Nat
import Mathlib.Algebra.Order.Ring.Int
import Mathlib.Data.List.Induction
import Mathlib.Data.List.Infix
import Mathlib.Data.List.Nodup
import GuardedNet.Proofs.Net.ById
import GuardedNet.Proofs.Structure.Matrix
import GuardedNet.Structure.PlaceInvariant

/-!
# The check of weights

Weights are checked with sums that are clamped to 128 bits. Main statement: for a net of fewer
than `2 ^ 63` arcs nothing is ever clamped, so that weights pass exactly if they are on places of
the net and every column of the matrix adds up to zero (`PlaceInvariant.holdsIn_iff`).
-/

namespace GuardedNet

/-! ### Adding up in the wide range -/

namespace Number

/-- The integer lies within 128 bits with a sign. -/
abbrev FitsWide (n : Int) : Prop := -(2 ^ 127) ≤ n ∧ n ≤ 2 ^ 127 - 1

theorem clampWide_eq {n : Int} (fits : FitsWide n) : clampWide n = n := by
  unfold clampWide wideLimit
  omega

/-- Terms add up exactly as long as no partial sum leaves the range. -/
theorem foldl_clampWide {terms : List Int} (fits : ∀ front, front <+: terms → FitsWide front.sum) :
    terms.foldl (fun total term => clampWide (total + term)) 0 = terms.sum := by
  induction terms using List.reverseRecOn with
  | nil => rfl
  | append_singleton terms term ih =>
    have earlier := ih fun front before => fits front (before.trans (List.prefix_append _ _))
    have whole := fits _ (List.prefix_refl _)
    rw [List.sum_append, List.sum_singleton] at whole ⊢
    rw [List.foldl_append, earlier]
    exact clampWide_eq whole

end Number

/-! ### Weights -/

/-- One bounded weight for each id. -/
structure IsWeights (weights : Dictionary Int) : Prop where
  distinct : (Dictionary.keys weights).Nodup
  fits : ∀ entry ∈ weights, Number.Fits entry.2

theorem IsWeights.sublist {weights some : Dictionary Int} (isWeights : IsWeights weights)
    (among : some.Sublist weights) : IsWeights some where
  distinct := isWeights.distinct.sublist (among.map _)
  fits entry member := isWeights.fits entry (among.subset member)

/-- The sum of amounts, each times the weight of its id. -/
def weighted (weights : Dictionary Int) (amount : String → Int) : Int :=
  (weights.map fun entry => entry.2 * amount entry.1).sum

/-- Entries that add nothing may be left out. -/
theorem weighted_filter {weights : Dictionary Int} {amount : String → Int}
    {keeps : String × Int → Bool}
    (nothing : ∀ entry ∈ weights, keeps entry = false → entry.2 * amount entry.1 = 0) :
    weighted (weights.filter keeps) amount = weighted weights amount := by
  unfold weighted
  induction weights with
  | nil => rfl
  | cons entry weights ih =>
    have later := ih fun other member => nothing other (List.mem_cons_of_mem _ member)
    cases kept : keeps entry with
    | true => simp [kept, later]
    | false => simp [kept, later, nothing entry (List.mem_cons_self ..) kept]

theorem natAbs_weighted_le {weights : Dictionary Int}
    (fits : ∀ entry ∈ weights, Number.Fits entry.2) (amount : String → Int) :
    (weighted weights amount).natAbs ≤
      2 ^ 63 * ((Dictionary.keys weights).map fun id => (amount id).natAbs).sum := by
  unfold weighted Dictionary.keys
  induction weights with
  | nil => simp
  | cons entry weights ih =>
    have later := ih fun other member => fits other (List.mem_cons_of_mem _ member)
    obtain ⟨low, high⟩ := fits entry (List.mem_cons_self ..)
    have size : entry.2.natAbs ≤ 2 ^ 63 := by
      unfold Number.least Number.greatest at *
      omega
    have first := Nat.mul_le_mul_right (amount entry.1).natAbs size
    rw [← Int.natAbs_mul] at first
    simp only [List.map_cons, List.sum_cons, Nat.mul_add]
    omega

/-! ### Arcs at places -/

namespace Net

/-- Every arc is at one place, so it counts for at most one of distinct ids. -/
theorem sum_countP_placeId_le (net : Net) {ids : List String} (distinct : ids.Nodup)
    (flows : List Flow) :
    (ids.map fun id => flows.countP fun flow => net.placeId flow.place == id).sum ≤
      flows.length := by
  induction flows with
  | nil => simp
  | cons flow flows ih =>
    have atMost := List.nodup_iff_count_le_one.1 distinct (net.placeId flow.place)
    simp only [List.countP_cons, List.sum_map_add, List.length_cons, sum_ite_beq]
    omega

end Net

namespace Matrix

/-- The entry at the row of a place; an unknown place has none. -/
def entryAt (matrix : Matrix) (column : Nat) (id : String) : Int :=
  ((matrix.placeIndex? id).map fun row => matrix.entry row column).getD 0

theorem natAbs_sum_sign_le (flows : List Flow) (picks : Flow → Prop) [DecidablePred picks] :
    (flows.map fun flow => if picks flow then flow.sign else 0).sum.natAbs ≤
      flows.countP fun flow => picks flow := by
  induction flows with
  | nil => simp
  | cons flow flows ih =>
    have one : flow.sign.natAbs = 1 := by
      unfold Flow.sign
      split <;> rfl
    rw [List.map_cons, List.sum_cons, List.countP_cons]
    by_cases picked : picks flow
    · simp only [picked, if_true, decide_true]
      omega
    · simpa [picked] using ih

/-- An entry is no more than the arcs at its place. -/
theorem natAbs_entryAt_le (net : Net) (column : Nat) (id : String) :
    ((ofNet net).entryAt column id).natAbs ≤
      net.flows.countP fun flow => net.placeId flow.place == id := by
  unfold entryAt
  cases found : (ofNet net).placeIndex? id with
  | none => simp
  | some row =>
    rw [Option.map_some, Option.getD_some, entry_ofNet_eq_sum]
    refine Nat.le_trans (natAbs_sum_sign_le _ _) (List.countP_mono_left fun flow _ hit => ?_)
    -- two ids with one row are the same
    obtain ⟨inside, isId, -⟩ := List.findIdx?_eq_some_iff_getElem.1 found
    obtain ⟨_, isOther, -⟩ := List.findIdx?_eq_some_iff_getElem.1 (of_decide_eq_true hit).1
    rw [beq_iff_eq] at isId isOther ⊢
    rw [← isOther, isId]

/-- The entries of a column are what its transition gives to places less what it takes from them. -/
theorem entryAt_ofNet {net : Net} (formed : net.WellFormed) {t column : Nat}
    (inside : t < net.transitions.length)
    (columnOf : (ofNet net).transitions[column]? = some (net.transitionId t)) (id : String) :
    (ofNet net).entryAt column id = ((net.placeIndex? id).map fun p =>
      (net.produced.entry p t : Int) - net.consumed.entry p t).getD 0 := by
  have listed : ∀ other, other ∈ (ofNet net).places ↔ other ∈ net.places.map (·.id) := by
    intro other
    rw [places_ofNet, (Text.perm_sorted _).mem_iff]
  cases found : net.placeIndex? id with
  | none =>
    have absent : (ofNet net).placeIndex? id = none := by
      refine List.findIdx?_eq_none_iff.2 fun other member => ?_
      obtain ⟨place, isPlace, rfl⟩ := List.mem_map.1 ((listed other).1 member)
      exact List.findIdx?_eq_none_iff.1 found place isPlace
    rw [entryAt, absent]
    rfl
  | some p =>
    obtain ⟨place, here, rfl⟩ := exists_of_findIdx?_id found
    have placeInside : p < net.places.length := (List.getElem?_eq_some_iff.1 here).1
    have named : net.placeId p = place.id := by
      rw [Net.placeId, Net.places, here]
      rfl
    obtain ⟨row, rowOf⟩ := List.mem_iff_getElem?.1
      ((listed _).2 (List.mem_map_of_mem (List.mem_of_getElem? here)))
    rw [entryAt, (placeIndex?_ofNet_iff formed).2 rowOf, Option.map_some, Option.getD_some,
      Option.map_some, Option.getD_some]
    exact entry_ofNet formed (named ▸ rowOf) columnOf placeInside inside

end Matrix

/-! ### The check -/

section

variable {net : Net} (formed : net.WellFormed) (few : net.arcs.length < 2 ^ 63)
include formed few

/-- Bounded weights of distinct places never add up to more than the wide range holds. -/
theorem fitsWide_weighted {weights : Dictionary Int} (isWeights : IsWeights weights)
    (column : Nat) : Number.FitsWide (weighted weights ((Matrix.ofNet net).entryAt column)) := by
  have scaled := natAbs_weighted_le isWeights.fits ((Matrix.ofNet net).entryAt column)
  have arcs : ((Dictionary.keys weights).map fun id =>
      ((Matrix.ofNet net).entryAt column id).natAbs).sum ≤ net.arcs.length := by
    rw [← formed.length_flows]
    refine Nat.le_trans (List.sum_le_sum fun id _ => ?_)
      (net.sum_countP_placeId_le isWeights.distinct net.flows)
    exact Matrix.natAbs_entryAt_le net column id
  unfold Number.FitsWide
  omega

namespace PlaceInvariant

/-- The effect that the check computes for a column is exact. -/
theorem effect_ofNet {weights : Dictionary Int} (isWeights : IsWeights weights) (column : Nat) :
    effect (Matrix.ofNet net) weights column =
      weighted weights ((Matrix.ofNet net).entryAt column) := by
  let keeps (entry : String × Int) : Bool :=
    entry.2 ≠ 0 && ((Matrix.ofNet net).placeIndex? entry.1).isSome
  have rows : (rowWeights (Matrix.ofNet net) weights).map
      (fun entry => entry.2 * (Matrix.ofNet net).entry entry.1 column) =
        (weights.filter keeps).map
          fun entry => entry.2 * (Matrix.ofNet net).entryAt column entry.1 := by
    clear isWeights
    induction weights with
    | nil => rfl
    | cons entry weights ih =>
      unfold rowWeights at ih ⊢
      by_cases zero : entry.2 = 0
      · simpa [zero, keeps] using ih
      · cases found : (Matrix.ofNet net).placeIndex? entry.1 with
        | none => simpa [zero, found, keeps] using ih
        | some row => simpa [zero, found, keeps, Matrix.entryAt] using ih
  have asTerms : effect (Matrix.ofNet net) weights column =
      ((rowWeights (Matrix.ofNet net) weights).map
        fun entry => entry.2 * (Matrix.ofNet net).entry entry.1 column).foldl
          (fun total term => Number.clampWide (total + term)) 0 := by
    rw [List.foldl_map]
    rfl
  rw [asTerms, rows, Number.foldl_clampWide]
  · refine weighted_filter fun entry _ dropped => ?_
    rcases Bool.and_eq_false_iff.1 dropped with zero | unknown
    · rw [of_not_not (of_decide_eq_false zero), zero_mul]
    · rw [Matrix.entryAt, Option.isNone_iff_eq_none.1 (Option.isSome_eq_false_iff.1 unknown),
        Option.map_none, Option.getD_none, mul_zero]
  · intro front before
    -- a partial sum is that of some of the weights
    obtain ⟨picked, among, rfl⟩ := List.prefix_map_iff.1 before
    exact fitsWide_weighted formed few
      (isWeights.sublist (among.sublist.trans List.filter_sublist)) column

end PlaceInvariant

end

namespace PlaceInvariant

theorem mem_violations_iff {invariant : PlaceInvariant} {matrix : Matrix} {found : WeightChange} :
    found ∈ (invariant.check matrix).violations ↔
      ∃ column : Nat, matrix.transitions[column]? = some found.transition ∧
        effect matrix invariant.weights column ≠ 0 ∧
        found.effect = Number.clamp (effect matrix invariant.weights column) := by
  simp only [check, List.mem_filterMap, Prod.exists, List.mem_zipIdx_iff_getElem?]
  constructor
  · rintro ⟨transition, column, here, listed⟩
    split at listed
    · cases listed
    · rename_i changes
      obtain rfl := Option.some.inj listed
      exact ⟨column, here, changes, rfl⟩
  · rintro ⟨column, here, changes, same⟩
    refine ⟨found.transition, column, here, ?_⟩
    rw [if_neg changes, ← same]

/-- Weights pass the check exactly if they are on places of the net and every transition keeps
the weighted sum. -/
theorem holdsIn_iff {net : Net} (formed : net.WellFormed) (few : net.arcs.length < 2 ^ 63)
    {invariant : PlaceInvariant} (isWeights : IsWeights invariant.weights) :
    invariant.holdsIn (Matrix.ofNet net) = true ↔
      (∀ entry ∈ invariant.weights, entry.2 ≠ 0 →
        ((Matrix.ofNet net).placeIndex? entry.1).isSome) ∧
      ∀ column < (Matrix.ofNet net).transitions.length,
        weighted invariant.weights ((Matrix.ofNet net).entryAt column) = 0 := by
  rw [holdsIn, WeightCheck.holds, Bool.and_eq_true, List.isEmpty_iff, List.isEmpty_iff]
  refine and_congr ?_ ?_
  · simp [check, List.filterMap_eq_nil_iff, Option.isSome_iff_ne_none]
  · rw [List.eq_nil_iff_forall_not_mem]
    refine ⟨fun none column inside => ?_, fun kept found listed => ?_⟩
    · by_contra changes
      rw [← effect_ofNet formed few isWeights] at changes
      exact none ⟨_, _⟩
        (mem_violations_iff.2 ⟨column, List.getElem?_eq_getElem inside, changes, rfl⟩)
    · obtain ⟨column, here, changes, -⟩ := mem_violations_iff.1 listed
      rw [effect_ofNet formed few isWeights] at changes
      exact changes (kept column (List.getElem?_eq_some_iff.1 here).1)

end PlaceInvariant

end GuardedNet
