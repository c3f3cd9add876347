import Mathlib.Algebra.BigOperators.Group.Finset.Basic
import Mathlib.Algebra.BigOperators.Ring.List
import Mathlib.Algebra.Order.Ring.Int
import Mathlib.Tactic.NormNum
import Mathlib.Tactic.Ring
import GuardedNet.Dynamics.Reaction
import GuardedNet.Proofs.Outcome
import GuardedNet.Proofs.Structure.Check
import GuardedNet.Proofs.Structure.Incidence

/-!
# The stoichiometry of reactions

The reactions of a net list places by position, as often as the tables count them. Main statement:
`Problem.slopes_exact`. Every position that a reaction lists is there, so that the slopes are
computed without reading or writing elsewhere. In exact numbers they are those of mass action,
and they keep every weighted sum that passes the check of weights against the matrix.
-/

namespace GuardedNet

/-! ### Repeated places -/

/-- How often a place is repeated by a column whose first place is `start`. -/
theorem count_flatMap_replicate (column : List Nat) (start p : Nat) :
    ((column.zipIdx start).flatMap fun (weight, place) => List.replicate weight place).count p =
      if start ≤ p then column[p - start]?.getD 0 else 0 := by
  induction column generalizing start with
  | nil => simp
  | cons weight column ih =>
    rw [List.zipIdx_cons, List.flatMap_cons, List.count_append, ih, List.count_replicate]
    by_cases first : start = p
    · subst first
      simp
    · by_cases before : start + 1 ≤ p
      · have later : p - start = p - (start + 1) + 1 := by omega
        have within : start ≤ p := by omega
        simp [first, before, within, later]
      · have outside : ¬start ≤ p := by omega
        simp [first, before, outside]

/-- A place is repeated as often as the column counts it. -/
theorem count_repeated (column : List Nat) (p : Nat) :
    (repeated column).count p = column[p]?.getD 0 :=
  (count_flatMap_replicate column 0 p).trans (by simp)

theorem lt_of_mem_repeated {column : List Nat} {p : Nat} (member : p ∈ repeated column) :
    p < column.length := by
  have counted : 0 < column[p]?.getD 0 := by
    rw [← count_repeated]
    exact List.count_pos_iff.2 member
  by_contra outside
  rw [List.getElem?_eq_none (Nat.le_of_not_lt outside)] at counted
  exact Nat.lt_irrefl 0 counted

/-! ### Slopes with every access checked -/

namespace Reaction

section

variable {α β : Type}

/-- The reaction with its rate read as another kind of number. -/
def mapRate (reading : α → β) (r : Reaction α) : Reaction β :=
  ⟨r.id, reading r.rate, r.inputs, r.outputs⟩

/-- The reaction takes from and gives to the first `places` places only. -/
def Within (places : Nat) (r : Reaction α) : Prop := ∀ p ∈ r.inputs ++ r.outputs, p < places

/-- The amounts with the one at a place changed, if there is one. -/
def alter? (amounts : Array α) (place : Nat) (update : α → α) : Option (Array α) :=
  if place < amounts.size then some (amounts.modify place update) else none

theorem size_foldl_modify (update : α → α) (listed : List Nat) (amounts : Array α) :
    (listed.foldl (fun out place => out.modify place update) amounts).size = amounts.size := by
  induction listed generalizing amounts with
  | nil => rfl
  | cons place listed ih => rw [List.foldl_cons, ih, Array.size_modify]

theorem foldlM_alter? (update : α → α) {listed : List Nat} {amounts : Array α}
    (inside : ∀ p ∈ listed, p < amounts.size) :
    listed.foldlM (fun out place => alter? out place update) amounts =
      some (listed.foldl (fun out place => out.modify place update) amounts) := by
  apply foldlM_eq_some_foldl (·.size = amounts.size)
  · intro out sized place member
    have there : place < out.size := sized ▸ inside place member
    exact ⟨if_pos there, Array.size_modify.trans sized⟩
  · rfl

variable [Zero α] [Add α] [Sub α] [Mul α] [BEq α]

/-- How fast a reaction runs, if it takes from places with amounts only. -/
def flux? (r : Reaction α) (amounts : Array α) : Option α :=
  r.inputs.foldlM (fun flux place => (amounts[place]?).map (flux * ·)) r.rate

/-- The slopes with the part of a reaction added, if there is one for each place it lists. -/
def addSlope? (amounts : Array α) (slopes : Array α) (r : Reaction α) : Option (Array α) := do
  let flux ← r.flux? amounts
  if flux == 0 then return slopes
  else
    let taken ← r.inputs.foldlM (fun out place => alter? out place (· - flux)) slopes
    r.outputs.foldlM (fun out place => alter? out place (· + flux)) taken

/-- How fast the amount in each of so many places changes, if the reactions list no others. -/
def slopes? (reactions : List (Reaction α)) (places : Nat) (amounts : Array α) :
    Option (Array α) :=
  reactions.foldlM (addSlope? amounts) (Array.replicate places 0)

omit [Add α] [Sub α] [BEq α] in
theorem flux?_eq {r : Reaction α} {amounts : Array α} (within : r.Within amounts.size) :
    r.flux? amounts = some (r.flux amounts) := by
  apply foldlM_eq_some_foldl fun _ => True
  · intro flux _ place member
    have there : place < amounts.size := within place (List.mem_append_left _ member)
    simp [there]
  · trivial

theorem addSlope_eq (amounts slopes : Array α) (r : Reaction α) :
    addSlope amounts slopes r =
      if r.flux amounts == 0 then slopes
      else r.outputs.foldl (fun out place => out.modify place (· + r.flux amounts))
        (r.inputs.foldl (fun out place => out.modify place (· - r.flux amounts)) slopes) := rfl

theorem size_addSlope (amounts slopes : Array α) (r : Reaction α) :
    (addSlope amounts slopes r).size = slopes.size := by
  rw [addSlope_eq]
  split
  · rfl
  · rw [size_foldl_modify, size_foldl_modify]

theorem addSlope?_eq {r : Reaction α} {amounts slopes : Array α} (within : r.Within amounts.size)
    (sized : slopes.size = amounts.size) :
    addSlope? amounts slopes r = some (addSlope amounts slopes r) := by
  have inputs : ∀ p ∈ r.inputs, p < slopes.size := fun p member =>
    sized ▸ within p (List.mem_append_left _ member)
  have outputs : ∀ p ∈ r.outputs, p < slopes.size := fun p member =>
    sized ▸ within p (List.mem_append_right _ member)
  rw [addSlope?, addSlope_eq, flux?_eq within, Option.bind_eq_bind, Option.bind_some]
  split
  · rfl
  · rw [foldlM_alter? _ inputs, Option.bind_eq_bind, Option.bind_some]
    apply foldlM_alter?
    simpa only [size_foldl_modify] using outputs

/-- Reactions that list only places with amounts are followed without a look elsewhere. -/
theorem slopes?_eq {reactions : List (Reaction α)} {amounts : Array α}
    (within : ∀ r ∈ reactions, r.Within amounts.size) :
    slopes? reactions amounts.size amounts = some (slopes reactions amounts.size amounts) := by
  apply foldlM_eq_some_foldl (·.size = amounts.size)
  · intro slopes sized r member
    exact ⟨addSlope?_eq (within r member) sized, (size_addSlope amounts slopes r).trans sized⟩
  · exact Array.size_replicate

end

/-! ### Mass action -/

section

variable {α K : Type} [CommRing K]

/-- How often a place is given to less how often it is taken from. -/
def change (r : Reaction α) (p : Nat) : Int := (r.outputs.count p : Int) - r.inputs.count p

/-- A reaction runs at its rate times the amounts, each as often as its place is taken from. -/
theorem flux_eq (r : Reaction K) (amounts : Array K) {places : Nat} (within : r.Within places) :
    r.flux amounts =
      r.rate * ∏ p ∈ Finset.range places, amounts.getD p 0 ^ r.inputs.count p := by
  have product : r.flux amounts = r.rate * (r.inputs.map fun p => amounts.getD p 0).prod := by
    unfold flux
    generalize r.rate = rate
    induction r.inputs generalizing rate with
    | nil => simp
    | cons place inputs ih => rw [List.foldl_cons, ih, List.map_cons, List.prod_cons, mul_assoc]
  have listed : r.inputs.toFinset ⊆ Finset.range places := by
    intro p member
    exact Finset.mem_range.2 (within p (List.mem_append_left _ (List.mem_toFinset.1 member)))
  rw [product, Finset.prod_list_map_count]
  congr 1
  refine Finset.prod_subset listed fun p _ absent => ?_
  rw [List.count_eq_zero_of_not_mem fun member => absent (List.mem_toFinset.2 member), pow_zero]

theorem getElem?_foldl_modify (flow : K) (listed : List Nat) (slopes : Array K) (p : Nat) :
    (listed.foldl (fun out place => out.modify place (· + flow)) slopes)[p]? =
      slopes[p]?.map (· + listed.count p * flow) := by
  induction listed generalizing slopes with
  | nil => simp
  | cons place listed ih =>
    rw [List.foldl_cons, ih, Array.getElem?_modify, List.count_cons]
    by_cases same : place = p
    · subst same
      cases slopes[place]? with
      | none => simp
      | some slope =>
        simp only [if_true, Option.map_some, beq_self_eq_true, Nat.cast_add, Nat.cast_one]
        congr 1
        ring
    · simp [same]

variable [DecidableEq K]

/-- A reaction moves its flux along each of its arcs. -/
theorem getElem?_addSlope (amounts slopes : Array K) (r : Reaction K) (p : Nat) :
    (addSlope amounts slopes r)[p]? = slopes[p]?.map (· + r.change p * r.flux amounts) := by
  rw [addSlope_eq]
  split
  · rename_i still
    simp [beq_iff_eq.1 still]
  · -- taking the flux is giving its negative, so one lemma serves the inputs and the outputs
    simp only [sub_eq_add_neg, getElem?_foldl_modify, Option.map_map]
    congr 1
    funext slope
    simp only [Function.comp_apply, change]
    push_cast
    ring

/-- The slope of a place is the sum of what the reactions give to it less what they take. -/
theorem getElem?_slopes (reactions : List (Reaction K)) (places : Nat) (amounts : Array K)
    (p : Nat) :
    (slopes reactions places amounts)[p]? =
      if p < places then some (reactions.map fun r => (r.change p : K) * r.flux amounts).sum
      else none := by
  have onto : ∀ start : Array K, (reactions.foldl (addSlope amounts) start)[p]? =
      start[p]?.map (· + (reactions.map fun r => (r.change p : K) * r.flux amounts).sum) := by
    induction reactions with
    | nil => simp
    | cons r reactions ih =>
      intro start
      rw [List.foldl_cons, ih, getElem?_addSlope, Option.map_map]
      congr 1
      funext slope
      simp [add_assoc]
  rw [slopes, onto, Array.getElem?_replicate]
  split <;> simp

end

end Reaction

/-! ### The reactions of a net -/

theorem Table.getD_column (table : Table Nat) (p t : Nat) :
    (table.column t)[p]?.getD 0 = table.entry p t := by
  rw [column, List.getElem?_map, entry, get?, row]
  cases table.rows[p]? <;> rfl

namespace Net

theorem getElem?_reactions (net : Net) (t : Nat) :
    net.reactions[t]? = net.transitions[t]?.map fun transition =>
      ⟨transition.id, transition.rate, repeated (net.consumed.column t),
        repeated (net.produced.column t)⟩ := by
  rw [reactions, List.getElem?_map, List.getElem?_zipIdx, Option.map_map, Nat.zero_add]
  rfl

section

variable {net : Net} {t : Nat} {r : Reaction Float} (here : net.reactions[t]? = some r)
include here

theorem lt_of_reaction : t < net.transitions.length := by
  have listed := (List.getElem?_eq_some_iff.1 here).1
  simpa [reactions] using listed

/-- A reaction lists places as often as the tables count them. -/
theorem count_reaction (p : Nat) :
    r.inputs.count p = net.consumed.entry p t ∧ r.outputs.count p = net.produced.entry p t := by
  rw [getElem?_reactions] at here
  obtain ⟨transition, -, rfl⟩ := Option.map_eq_some_iff.1 here
  rw [count_repeated, count_repeated, Table.getD_column, Table.getD_column]
  exact ⟨rfl, rfl⟩

theorem within_reaction (formed : net.WellFormed) : r.Within net.places.length := by
  rw [getElem?_reactions] at here
  obtain ⟨transition, -, rfl⟩ := Option.map_eq_some_iff.1 here
  intro p member
  rcases List.mem_append.1 member with taken | given
  · have inside := lt_of_mem_repeated taken
    rwa [Table.length_column, formed.length_consumed] at inside
  · have inside := lt_of_mem_repeated given
    rwa [Table.length_column, formed.length_produced] at inside

end

theorem within_reactions {net : Net} (formed : net.WellFormed) :
    ∀ r ∈ net.reactions, r.Within net.places.length := by
  intro r member
  obtain ⟨t, here⟩ := List.mem_iff_getElem?.1 member
  exact within_reaction here formed

/-- Each transition has its reaction, which lists places as the tables count them. -/
theorem exists_reaction {net : Net} (formed : net.WellFormed) {t : Nat} {transition : Transition}
    (there : net.transitions[t]? = some transition) :
    ∃ r, net.reactions[t]? = some r ∧ r.id = transition.id ∧ r.rate = transition.rate ∧
      ∀ p < net.places.length, net.consumed.get? p t = some (r.inputs.count p) ∧
        net.produced.get? p t = some (r.outputs.count p) := by
  have here := net.getElem?_reactions t
  rw [there, Option.map_some] at here
  have inside := (List.getElem?_eq_some_iff.1 there).1
  refine ⟨_, here, rfl, rfl, fun p placeInside => ?_⟩
  obtain ⟨taken, given⟩ := count_reaction here p
  rw [taken, given]
  exact ⟨formed.get?_eq_entry placeInside inside .input false,
    formed.get?_eq_entry placeInside inside .output false⟩

/-! ### Weighted sums -/

section

variable {K : Type} [CommRing K]

/-- The sum of what the places hold, each times its weight. An id without a place holds
nothing. -/
def weigh (net : Net) (weights : Dictionary Int) (held : Nat → K) : K :=
  (weights.map fun entry => (entry.2 : K) * ((net.placeIndex? entry.1).map held).getD 0).sum

variable (net : Net) (weights : Dictionary Int)

/-- Only what the places of the net hold is weighed. -/
theorem weigh_congr {held other : Nat → K} (same : ∀ p < net.places.length, held p = other p) :
    net.weigh weights held = net.weigh weights other := by
  refine congrArg List.sum (List.map_congr_left fun entry _ => ?_)
  cases found : net.placeIndex? entry.1 with
  | none => rfl
  | some p =>
    obtain ⟨place, here, -⟩ := exists_of_findIdx?_id found
    rw [Option.map_some, Option.map_some, same p (List.getElem?_eq_some_iff.1 here).1]

theorem weigh_zero : net.weigh weights (fun _ => (0 : K)) = 0 := by
  refine List.sum_eq_zero fun term member => ?_
  obtain ⟨entry, -, rfl⟩ := List.mem_map.1 member
  cases net.placeIndex? entry.1 <;> exact mul_zero _

theorem weigh_add (held more : Nat → K) :
    net.weigh weights (fun p => held p + more p) =
      net.weigh weights held + net.weigh weights more := by
  unfold weigh
  rw [← List.sum_map_add]
  refine congrArg List.sum (List.map_congr_left fun entry _ => ?_)
  cases net.placeIndex? entry.1 with
  | none => simp
  | some p => simp [mul_add]

/-- Integers may be weighed before they are scaled. -/
theorem weigh_scaled (counts : Nat → Int) (scale : K) :
    net.weigh weights (fun p => (counts p : K) * scale) =
      (net.weigh weights counts : Int) * scale := by
  unfold weigh
  induction weights with
  | nil => simp
  | cons entry weights ih =>
    rw [List.map_cons, List.sum_cons, ih, List.map_cons, List.sum_cons]
    cases net.placeIndex? entry.1 with
    | none => simp
    | some p =>
      simp only [Option.map_some, Option.getD_some]
      push_cast
      ring

/-- What reactions add is kept if each of them keeps it. -/
theorem weigh_reactions {reactions : List (Reaction K)} (flux : Reaction K → K)
    (kept : ∀ r ∈ reactions, net.weigh weights r.change = 0) :
    net.weigh weights (fun p => (reactions.map fun r => (r.change p : K) * flux r).sum) = 0 := by
  induction reactions with
  | nil => exact net.weigh_zero weights
  | cons r reactions ih =>
    obtain ⟨first, rest⟩ := List.forall_mem_cons.1 kept
    simp only [List.map_cons, List.sum_cons]
    rw [weigh_add, weigh_scaled, first, ih rest, Int.cast_zero, zero_mul, add_zero]

end

/-- A reaction that keeps a weighted sum gives as much as it takes. -/
theorem weigh_outputs {α : Type} {net : Net} {weights : Dictionary Int} {r : Reaction α}
    (kept : net.weigh weights r.change = 0) :
    net.weigh weights (fun p => (r.outputs.count p : Int)) =
      net.weigh weights fun p => (r.inputs.count p : Int) := by
  have given : (fun p => (r.outputs.count p : Int)) =
      fun p => (r.inputs.count p : Int) + r.change p := by
    funext p
    rw [Reaction.change]
    omega
  rw [given, weigh_add, kept, add_zero]

/-- What a reaction changes, weighed, is what the check adds up for the column of its
transition. -/
theorem weigh_change {net : Net} (formed : net.WellFormed) {t column : Nat} {r : Reaction Float}
    (here : net.reactions[t]? = some r)
    (columnOf : (Matrix.ofNet net).transitions[column]? = some (net.transitionId t))
    (weights : Dictionary Int) :
    net.weigh weights r.change = weighted weights ((Matrix.ofNet net).entryAt column) := by
  refine congrArg List.sum (List.map_congr_left fun entry _ => ?_)
  rw [Matrix.entryAt_ofNet formed (lt_of_reaction here) columnOf, Int.cast_id]
  cases net.placeIndex? entry.1 with
  | none => rfl
  | some p =>
    obtain ⟨taken, given⟩ := count_reaction here p
    rw [Option.map_some, Option.map_some, Reaction.change, taken, given]

/-- Weights that pass the check are kept by every reaction. -/
theorem weigh_change_eq_zero {net : Net} (formed : net.WellFormed)
    (few : net.arcs.length < 2 ^ 63) {invariant : PlaceInvariant}
    (isWeights : IsWeights invariant.weights)
    (holds : invariant.holdsIn (Matrix.ofNet net) = true) {r : Reaction Float}
    (member : r ∈ net.reactions) : net.weigh invariant.weights r.change = 0 := by
  obtain ⟨t, here⟩ := List.mem_iff_getElem?.1 member
  obtain ⟨column, columnOf⟩ := Matrix.exists_column_iff.2 (transitionId_mem (lt_of_reaction here))
  rw [weigh_change formed here columnOf]
  exact ((PlaceInvariant.holdsIn_iff formed few isWeights).1 holds).2 column
    (List.getElem?_eq_some_iff.1 columnOf).1

end Net

/-! ### Slopes of a net -/

namespace Problem

section

variable {α : Type} [Zero α] [Add α] [Sub α] [Mul α] [BEq α]

/-- The slopes in some kind of number, as which the rates are read. -/
def slopesAs (problem : Problem) (reading : Float → α) (amounts : Array α) : Array α :=
  Reaction.slopes (problem.reactions.map (Reaction.mapRate reading)) problem.places.length amounts

end

/-- How fast the amount in each place changes, if the reactions list no other places. -/
def slopes? (problem : Problem) (amounts : Amounts) : Option Amounts :=
  Reaction.slopes? problem.reactions problem.places.length amounts

theorem slopesAs_id (problem : Problem) (amounts : Amounts) :
    problem.slopesAs id amounts = problem.slopes amounts := by
  have same : Reaction.mapRate (id : Float → Float) = id := rfl
  rw [slopesAs, same, List.map_id]
  rfl

section

variable {net : Net} (timeSpan : Float)

theorem length_places_ofNet : (ofNet net timeSpan).places.length = net.places.length :=
  List.length_map ..

section

variable (formed : net.WellFormed)
include formed

theorem within_ofNet : ∀ r ∈ (ofNet net timeSpan).reactions,
    r.Within (ofNet net timeSpan).places.length := by
  rw [length_places_ofNet]
  exact Net.within_reactions formed

/-- The slopes of a net are computed without reading or writing beside the amounts. -/
theorem slopes?_ofNet {amounts : Amounts}
    (sized : amounts.size = (ofNet net timeSpan).places.length) :
    (ofNet net timeSpan).slopes? amounts = some ((ofNet net timeSpan).slopes amounts) := by
  have within := within_ofNet timeSpan formed
  rw [← sized] at within
  rw [slopes?, slopes, ← sized]
  exact Reaction.slopes?_eq within

/-- In exact numbers the slopes are those of mass action. -/
theorem getElem?_slopesAs {K : Type} [CommRing K] [DecidableEq K] (reading : Float → K)
    (amounts : Array K) {p : Nat} (inside : p < (ofNet net timeSpan).places.length) :
    ((ofNet net timeSpan).slopesAs reading amounts)[p]? =
      some ((ofNet net timeSpan).reactions.map fun r =>
        ((r.outputs.count p : K) - r.inputs.count p) * (reading r.rate *
          ∏ q ∈ Finset.range (ofNet net timeSpan).places.length,
            amounts.getD q 0 ^ r.inputs.count q)).sum := by
  rw [slopesAs, Reaction.getElem?_slopes, if_pos inside, List.map_map]
  refine congrArg (fun terms => some (List.sum terms)) (List.map_congr_left fun r member => ?_)
  have within : (r.mapRate reading).Within (ofNet net timeSpan).places.length :=
    within_ofNet timeSpan formed r member
  rw [Function.comp_apply, Reaction.flux_eq _ _ within, Reaction.change]
  push_cast
  rfl

end

/-- In exact numbers the slopes change no weighted sum that every reaction keeps. -/
theorem weigh_slopesAs {weights : Dictionary Int}
    (kept : ∀ r ∈ net.reactions, net.weigh weights r.change = 0) {K : Type} [CommRing K]
    [DecidableEq K] (reading : Float → K) (amounts : Array K) :
    net.weigh weights (fun p => ((ofNet net timeSpan).slopesAs reading amounts).getD p 0) = 0 := by
  have keptRead : ∀ r ∈ net.reactions.map (Reaction.mapRate reading),
      net.weigh weights r.change = 0 := by
    intro r member
    obtain ⟨read, isReaction, rfl⟩ := List.mem_map.1 member
    exact kept read isReaction
  rw [← net.weigh_reactions weights (·.flux amounts) keptRead]
  -- the slopes end with the places, and nothing is weighed beyond them
  refine net.weigh_congr weights fun p inside => ?_
  rw [← length_places_ofNet timeSpan] at inside
  rw [Array.getD_eq_getD_getElem?, slopesAs, Reaction.getElem?_slopes, if_pos inside]
  rfl

end

/-- The reactions of a net against its tables and its matrix. There is one for each transition; it
lists each place as often as the tables count it, and no position without a place, so that no
flux and no slope reads or writes elsewhere. The slopes are computed alike in all numbers. In
those of a commutative ring they are the ones of mass action. Weights that pass the check against
the matrix, which bounded integers can hold, weigh the outputs of every reaction like its inputs:
the slopes change no weighted sum, whatever the amounts. -/
theorem slopes_exact {d : Document} {net : Net} (valid : Net.ofDocument d = .ok net)
    (timeSpan : Float) :
    let problem := ofNet net timeSpan
    let places := problem.places.length
    problem.reactions.length = net.transitions.length ∧
    (∀ (t : Nat) (transition : Transition), net.transitions[t]? = some transition →
      ∃ r, problem.reactions[t]? = some r ∧ r.id = transition.id ∧ r.rate = transition.rate ∧
        (∀ p < places, net.consumed.get? p t = some (r.inputs.count p) ∧
          net.produced.get? p t = some (r.outputs.count p)) ∧
        ∀ p ∈ r.inputs ++ r.outputs, p < places) ∧
    (∀ amounts : Amounts, problem.slopesAs id amounts = problem.slopes amounts ∧
      (amounts.size = places → problem.slopes? amounts = some (problem.slopes amounts) ∧
        ∀ r ∈ problem.reactions, r.flux? amounts = some (r.flux amounts))) ∧
    (∀ (K : Type) [CommRing K] [DecidableEq K] (reading : Float → K) (amounts : Array K),
      ∀ p < places, (problem.slopesAs reading amounts)[p]? =
        some (problem.reactions.map fun r => ((r.outputs.count p : K) - r.inputs.count p) *
          (reading r.rate *
            ∏ q ∈ Finset.range places, amounts.getD q 0 ^ r.inputs.count q)).sum) ∧
    ∀ invariant : PlaceInvariant, IsWeights invariant.weights → net.arcs.length < 2 ^ 63 →
      invariant.holdsIn (Matrix.ofNet net) = true →
      (∀ r ∈ problem.reactions, net.weigh invariant.weights (fun p => (r.outputs.count p : Int)) =
        net.weigh invariant.weights fun p => (r.inputs.count p : Int)) ∧
      ∀ (K : Type) [CommRing K] [DecidableEq K] (reading : Float → K) (amounts : Array K),
        net.weigh invariant.weights
          (fun p => (problem.slopesAs reading amounts).getD p 0) = 0 := by
  intro problem places
  have formed := Net.wellFormed_of_ofDocument valid
  have within := within_ofNet timeSpan formed
  refine ⟨?_, ?_, ?_, ?_, ?_⟩
  · simp [problem, ofNet, Net.reactions]
  · intro t transition there
    obtain ⟨r, here, named, rated, counted⟩ := Net.exists_reaction formed there
    rw [← length_places_ofNet timeSpan] at counted
    exact ⟨r, here, named, rated, counted, within r (List.mem_of_getElem? here)⟩
  · intro amounts
    refine ⟨problem.slopesAs_id amounts, fun sized => ⟨slopes?_ofNet timeSpan formed sized, ?_⟩⟩
    intro r member
    exact Reaction.flux?_eq (sized ▸ within r member)
  · intro K _ _ reading amounts p
    exact getElem?_slopesAs timeSpan formed reading amounts
  · intro invariant isWeights few holds
    have kept : ∀ r ∈ net.reactions, net.weigh invariant.weights r.change = 0 := fun r =>
      Net.weigh_change_eq_zero formed few isWeights holds
    exact ⟨fun r member => Net.weigh_outputs (kept r member), fun K _ _ =>
      weigh_slopesAs timeSpan kept⟩

/-- Monomers bind in pairs with the help of an enzyme, and pairs split. -/
def dimer : Document where
  name := "dimer"
  version := "1"
  places := [⟨"enzyme", .token, .int 1, false, none⟩, ⟨"monomer", .token, .int 4, false, none⟩,
    ⟨"pair", .token, .int 0, true, none⟩]
  transitions := [{ id := "bind", guard := none, rate := 0.5 },
    { id := "split", guard := none, rate := 0.5 }]
  arcs := [⟨"monomer", "bind", [], none⟩, ⟨"enzyme", "bind", [], none⟩,
    ⟨"monomer", "bind", [], none⟩, ⟨"bind", "pair", [], none⟩, ⟨"bind", "enzyme", [], none⟩,
    ⟨"pair", "split", [], none⟩, ⟨"split", "monomer", [], none⟩, ⟨"split", "monomer", [], none⟩]
  invariants := []

/-- With four monomers, one enzyme and two pairs, binding at one half takes sixteen monomers for
eight pairs, and splitting returns two for one. Monomers and twice the pairs are kept, and the
enzyme with any weight. -/
theorem slopes_exact_dimer :
    let weights : Dictionary Int := [("enzyme", 7), ("monomer", 1), ("pair", 2)]
    ∃ net, Net.ofDocument dimer = .ok net ∧
      let slopes := (ofNet net 1.0).slopesAs (fun _ => (1 / 2 : ℚ)) #[1, 4, 2]
      (PlaceInvariant.ofWeights net weights).holdsIn (Matrix.ofNet net) = true ∧
      slopes[1]? = some (-14 : ℚ) ∧ net.weigh weights (fun p => slopes.getD p 0) = 0 := by
  intro weights
  obtain ⟨net, valid, few, holds, reactions, counted⟩ :
      ∃ net, Net.ofDocument dimer = .ok net ∧ net.arcs.length < 2 ^ 63 ∧
        (PlaceInvariant.ofWeights net weights).holdsIn (Matrix.ofNet net) = true ∧
        (ofNet net 1.0).reactions =
          [⟨"bind", 0.5, [0, 1, 1], [0, 2]⟩, ⟨"split", 0.5, [2], [1, 1]⟩] ∧
        (ofNet net 1.0).places.length = 3 := by
    refine ⟨_, rfl, by decide, ?_, rfl, rfl⟩
    rw [Matrix.ofNet_of_pairwise (by decide) (by decide)]
    decide
  obtain ⟨-, -, -, massAction, kept⟩ := slopes_exact valid 1.0
  have monomers := massAction ℚ (fun _ => 1 / 2) #[1, 4, 2] 1 (by rw [counted]; decide)
  rw [reactions, counted] at monomers
  have isWeights : IsWeights weights := ⟨by decide, by decide⟩
  refine ⟨net, valid, holds, monomers.trans ?_,
    (kept (.ofWeights net weights) isWeights few holds).2 ℚ (fun _ => 1 / 2) #[1, 4, 2]⟩
  norm_num [Finset.prod_range_succ]

end Problem

end GuardedNet
