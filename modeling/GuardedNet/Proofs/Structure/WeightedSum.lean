import GuardedNet.Proofs.Run.History
import GuardedNet.Proofs.Structure.Check

/-!
# Weighted sums of tokens

The check of a place invariant looks at the matrix alone. Here it is tied to executions: what
firing does to the weighted sum of the tokens is what the check finds, and an invariant that
passes keeps its sum in every run (`Execution.weightedSum_follows_check`). The sum at the start
is the value of the invariant unless adding it up leaves the wide range on the way.
-/

namespace GuardedNet

/-! ### Sums over the places of a net -/

namespace Net

/-- The tokens of the place with an id; an unknown place has none. -/
def tokensAt (net : Net) (m : Marking) (id : String) : Int :=
  ((net.placeIndex? id).map m.tokens).getD 0

/-- The exact weighted sum of the tokens of a marking. -/
def weightedSum (net : Net) (weights : Dictionary Int) (m : Marking) : Int :=
  (weights.map fun entry => entry.2 * net.tokensAt m entry.1).sum

/-- How a transition changes the tokens of the place with an id. -/
def effectAt (net : Net) (t : Nat) (id : String) : Int :=
  ((net.placeIndex? id).map fun p => net.plainEffect p t).getD 0

/-- How a transition changes a weighted sum. -/
def weightedEffect (net : Net) (weights : Dictionary Int) (t : Nat) : Int :=
  (weights.map fun entry => entry.2 * net.effectAt t entry.1).sum

/-- Weights that are bounded, one for each id, and zero where there is no token place. -/
structure Weighs (net : Net) (weights : Dictionary Int) : Prop where
  distinct : (Dictionary.keys weights).Nodup
  fits : ∀ entry ∈ weights, Number.Fits entry.2
  placed : ∀ entry ∈ weights, entry.2 ≠ 0 →
    ∃ place ∈ net.places, place.id = entry.1 ∧ place.isToken = true

theorem Weighs.isWeights {net : Net} {weights : Dictionary Int} (weighs : net.Weighs weights) :
    IsWeights weights := ⟨weighs.distinct, weighs.fits⟩

section

variable {net : Net} (formed : net.WellFormed)
include formed

/-- At a token place every arc counts, since none has keys. -/
theorem plainEffect_eq {p : Nat} {place : Place} (here : net.places[p]? = some place)
    (token : place.isToken = true) (t : Nat) :
    net.plainEffect p t = (net.produced.entry p t : Int) - net.consumed.entry p t := by
  have plain : ∀ flow ∈ net.flows, flow.place = p → flow.keyed = false := by
    intro flow member same
    obtain ⟨arc, -, joins⟩ := formed.exists_joins member
    by_contra keyed
    have isData := joins.isData (by simpa using keyed) place (same ▸ here)
    rw [token] at isData
    cases isData
  have allPlain : ∀ picks : Flow → Bool,
      net.flows.countP (fun flow =>
        (picks flow && !flow.keyed) && (flow.place == p && flow.transition == t)) =
      net.flows.countP fun flow => picks flow && (flow.place == p && flow.transition == t) := by
    intro picks
    refine List.countP_congr fun flow member => ?_
    by_cases same : flow.place = p
    · simp [same, plain flow member same]
    · simp [same]
  rw [plainEffect, formed.entry_eq_countP formed.plainProduced,
    formed.entry_eq_countP formed.plainConsumed, formed.entry_eq_countP formed.produced,
    formed.entry_eq_countP formed.consumed, allPlain, allPlain]

end

end Net

/-! ### The check -/

namespace PlaceInvariant

section

variable {net : Net} (formed : net.WellFormed)
include formed

/-- The row of a token place holds what a transition does to the place. -/
theorem entryAt_eq_effectAt {place : Place} (member : place ∈ net.places)
    (token : place.isToken = true) {t column : Nat} (inside : t < net.transitions.length)
    (columnOf : (Matrix.ofNet net).transitions[column]? = some (net.transitionId t)) :
    (Matrix.ofNet net).entryAt column place.id = net.effectAt t place.id := by
  obtain ⟨p, here⟩ := List.mem_iff_getElem?.1 member
  have pInside := (List.getElem?_eq_some_iff.1 here).1
  have pNamed : net.placeId p = place.id := by simp [Net.placeId, here]
  rw [Matrix.entryAt_ofNet formed inside columnOf, Net.effectAt, ← pNamed,
    formed.placeIndex?_placeId pInside, Option.map_some, Option.map_some,
    Net.plainEffect_eq formed here token]

variable (few : net.arcs.length < 2 ^ 63)
include few

/-- The effect that the check computes for a column is what the transition does. -/
theorem effect_eq {weights : Dictionary Int} (weighs : net.Weighs weights) {t column : Nat}
    (inside : t < net.transitions.length)
    (columnOf : (Matrix.ofNet net).transitions[column]? = some (net.transitionId t)) :
    effect (Matrix.ofNet net) weights column = net.weightedEffect weights t := by
  rw [effect_ofNet formed few weighs.isWeights]
  refine congrArg List.sum (List.map_congr_left fun entry member => ?_)
  by_cases zero : entry.2 = 0
  · rw [zero, zero_mul, zero_mul]
  · obtain ⟨place, isPlace, named, token⟩ := weighs.placed entry member zero
    rw [← named, entryAt_eq_effectAt formed isPlace token inside columnOf]

variable {invariant : PlaceInvariant} (weighs : net.Weighs invariant.weights) {t : Nat}
  (inside : t < net.transitions.length)
include weighs inside

/-- A transition that the check does not list keeps the weighted sum. -/
theorem weightedEffect_of_unlisted
    (unlisted : ∀ found ∈ (invariant.check (Matrix.ofNet net)).violations,
      found.transition ≠ net.transitionId t) :
    net.weightedEffect invariant.weights t = 0 := by
  obtain ⟨column, columnOf⟩ := Matrix.exists_column_iff.2 (Net.transitionId_mem inside)
  by_contra changes
  rw [← effect_eq formed few weighs inside columnOf] at changes
  exact unlisted ⟨net.transitionId t, _⟩ (mem_violations_iff.2 ⟨column, columnOf, changes, rfl⟩) rfl

/-- What the check lists for a transition is how it changes the weighted sum. -/
theorem weightedEffect_of_listed {found : WeightChange}
    (listed : found ∈ (invariant.check (Matrix.ofNet net)).violations)
    (named : found.transition = net.transitionId t) :
    net.weightedEffect invariant.weights t ≠ 0 ∧
      found.effect = Number.clamp (net.weightedEffect invariant.weights t) := by
  obtain ⟨column, columnOf, changes, effect⟩ := mem_violations_iff.1 listed
  rw [named] at columnOf
  rw [effect_eq formed few weighs inside columnOf] at changes effect
  exact ⟨changes, effect⟩

end

end PlaceInvariant

/-! ### The value -/

theorem Number.clamp_eq {n : Int} (fits : Fits n) : clamp n = n := by
  unfold clamp
  omega

/-- A place starts with the declared number of tokens, unless that is negative. -/
theorem Net.tokensAt_initial {net : Net} {id : String}
    (nonneg : ∀ place ∈ net.places, place.id = id → 0 ≤ place.initialTokens) :
    net.tokensAt (Marking.initial net) id =
      ((net.places.find? (·.id == id)).map Place.initialTokens).getD 0 := by
  rw [List.find?_eq_bind_findIdx?_getElem?]
  change ((net.places.findIdx? (·.id == id)).map _).getD 0 = _
  cases found : net.places.findIdx? (·.id == id) with
  | none => rfl
  | some p =>
    obtain ⟨inside, named, -⟩ := List.findIdx?_eq_some_iff_getElem.1 found
    have here := List.getElem?_eq_getElem inside
    have enough := nonneg _ (List.mem_of_getElem? here) (by simpa using named)
    simp [here, Marking.tokens, Execution.getElem?_initial, Place.initialCell, enough]

namespace PlaceInvariant

/-- The value is the exact sum at the start, if it fits and no partial sum leaves the wide
range. -/
theorem value_ofWeights {net : Net} {weights : Dictionary Int}
    (nonneg : ∀ entry ∈ weights, entry.2 ≠ 0 →
      ∀ place ∈ net.places, place.id = entry.1 → 0 ≤ place.initialTokens)
    (fits : Number.Fits (net.weightedSum weights (Marking.initial net)))
    (partialFits : ∀ front, front <+: weights →
      Number.FitsWide (net.weightedSum front (Marking.initial net))) :
    (ofWeights net weights).value = net.weightedSum weights (Marking.initial net) := by
  have declared : ∀ entry ∈ weights,
      entry.2 * ((net.places.find? (·.id == entry.1)).map Place.initialTokens).getD 0 =
        entry.2 * net.tokensAt (Marking.initial net) entry.1 := by
    intro entry member
    by_cases zero : entry.2 = 0
    · simp [zero]
    · rw [Net.tokensAt_initial (nonneg entry member zero)]
  have asTerms : initialSum net weights =
      Number.clamp ((weights.map fun entry =>
        entry.2 * net.tokensAt (Marking.initial net) entry.1).foldl
          (fun total term => Number.clampWide (total + term)) 0) := by
    rw [← List.map_congr_left declared, List.foldl_map]
    rfl
  change initialSum net weights = _
  rw [asTerms, Number.foldl_clampWide]
  · exact Number.clamp_eq fits
  · intro front before
    obtain ⟨some, among, rfl⟩ := List.prefix_map_iff.1 before
    exact partialFits some among

end PlaceInvariant

/-! ### Runs -/

namespace Execution

/-- A firing changes every weighted sum by the effect of the transition. -/
theorem Fires.weightedSum {e : Execution} (formed : e.net.WellFormed)
    (here : Marking.Over e.net e.marking) {t : Nat} {next : Marking} (fires : e.Fires t next)
    (weights : Dictionary Int) :
    e.net.weightedSum weights next =
      e.net.weightedSum weights e.marking + e.net.weightedEffect weights t := by
  have each : ∀ id, e.net.tokensAt next id = e.net.tokensAt e.marking id + e.net.effectAt t id := by
    intro id
    unfold Net.tokensAt Net.effectAt
    cases e.net.placeIndex? id with
    | none => rfl
    | some p => exact fires.tokens formed here p
  rw [Net.weightedSum, Net.weightedSum, Net.weightedEffect, ← List.sum_map_add]
  refine congrArg List.sum (List.map_congr_left fun entry _ => ?_)
  rw [each, Int.mul_add]

/-- What every transition keeps is the same after every run. -/
theorem weightedSum_performAll {net : Net} (formed : net.WellFormed) {weights : Dictionary Int}
    (kept : ∀ t < net.transitions.length, net.weightedEffect weights t = 0) (checks : Bool)
    (requests : List Request) :
    net.weightedSum weights ((start net checks).performAll requests).marking =
      net.weightedSum weights (Marking.initial net) := by
  let holds (e : Execution) : Prop := (e.net = net ∧ e.Consistent) ∧
    net.weightedSum weights e.marking = net.weightedSum weights (Marking.initial net)
  have start : holds (start net checks) := ⟨⟨rfl, consistent_of_initial rfl rfl rfl⟩, rfl⟩
  refine (performAll_induction holds start ?_ ?_ requests).2
  · rintro e ⟨⟨rfl, -⟩, -⟩
    exact ⟨⟨rfl, consistent_of_initial rfl rfl rfl⟩, rfl⟩
  · rintro e t next ⟨⟨rfl, consistent⟩, same⟩ fires
    refine ⟨⟨rfl, consistent.commit formed fires⟩, ?_⟩
    change e.net.weightedSum weights next = _
    rw [fires.weightedSum formed consistent.sized, same, kept t fires.inside, Int.add_zero]

/-- The check of an invariant by the matrix tells what happens in executions. Whatever has been
asked of an execution, a transition that fires next keeps the exact weighted sum if the check
does not list it, and else changes it by an amount other than zero, listed as the nearest
bounded integer. An invariant that passes has the same sum after every run. That sum is the
value computed from the declarations if it is bounded, no weighted place declares a negative
number of tokens, and no partial sum leaves the wide range. -/
theorem weightedSum_follows_check {d : Document} {net : Net} (valid : Net.ofDocument d = .ok net)
    (few : net.arcs.length < 2 ^ 63) {invariant : PlaceInvariant}
    (weighs : net.Weighs invariant.weights) (checks : Bool) (requests : List Request) :
    let found := invariant.check (Matrix.ofNet net)
    let sum := net.weightedSum invariant.weights
    let e := (start net checks).performAll requests
    (∀ (request : Request) (id : String) (after : Execution),
      request.transition? = some id → e.attempt request = .ok after →
        ((∀ change ∈ found.violations, change.transition ≠ id) →
          sum after.marking - sum e.marking = 0) ∧
        ∀ change ∈ found.violations, change.transition = id →
          sum after.marking - sum e.marking ≠ 0 ∧
            change.effect = Number.clamp (sum after.marking - sum e.marking)) ∧
    (invariant.holdsIn (Matrix.ofNet net) = true →
      sum e.marking = sum (Marking.initial net) ∧
      ((∀ entry ∈ invariant.weights, entry.2 ≠ 0 →
          ∀ place ∈ net.places, place.id = entry.1 → 0 ≤ place.initialTokens) →
        Number.Fits (sum e.marking) →
        (∀ front, front <+: invariant.weights →
          Number.FitsWide (net.weightedSum front (Marking.initial net))) →
        sum e.marking = (PlaceInvariant.ofWeights net invariant.weights).value)) := by
  intro found sum e
  have formed := Net.wellFormed_of_ofDocument valid
  refine ⟨?_, fun holds => ?_⟩
  · obtain ⟨sameNet, -, consistent⟩ : e.net = net ∧ e.checksInvariants = checks ∧ e.Consistent :=
      consistent_performAll formed checks requests
    clear_value e
    subst sameNet
    intro request id after named done
    obtain ⟨t, next, atId, fires, rfl⟩ := attempt_eq_ok named done
    have isId : e.net.transitionId t = id := by
      rw [Net.transitionId, formed.transitionIndex?_eq_some_iff.1 atId, Option.getD_some]
    have change : sum (e.commit t next).marking - sum e.marking =
        e.net.weightedEffect invariant.weights t := by
      have moved := fires.weightedSum formed consistent.sized invariant.weights
      change e.net.weightedSum invariant.weights next - e.net.weightedSum _ e.marking = _
      omega
    rw [change, ← isId]
    exact ⟨PlaceInvariant.weightedEffect_of_unlisted formed few weighs fires.inside,
      fun _ => PlaceInvariant.weightedEffect_of_listed formed few weighs fires.inside⟩
  · have none : found.violations = [] := List.isEmpty_iff.1 (Bool.and_eq_true_iff.1 holds).2
    have same : sum e.marking = sum (Marking.initial net) :=
      weightedSum_performAll formed (fun t inside =>
        PlaceInvariant.weightedEffect_of_unlisted formed few weighs inside fun change listed => by
          rw [show (invariant.check (Matrix.ofNet net)).violations = [] from none] at listed
          cases listed) checks requests
    refine ⟨same, fun nonneg fits partialFits => ?_⟩
    rw [same] at fits ⊢
    exact (PlaceInvariant.value_ofWeights nonneg fits partialFits).symm

/-- Coins and twice the notes make three, whether the exchange can be repeated or not. -/
theorem weightedSum_follows_check_exchange :
    let weights : Dictionary Int := [("coin", 1), ("note", 2)]
    ∃ net, Net.ofDocument exchange = .ok net ∧ net.Weighs weights ∧
      net.weightedSum weights
        ((start net true).performAll [.fire "change", .fire "change"]).marking = 3 ∧
      (PlaceInvariant.ofWeights net weights).value = 3 := by
  intro weights
  obtain ⟨net, valid, few, weighs, holds, atStart, nonneg, partialFits⟩ :
      ∃ net, Net.ofDocument exchange = .ok net ∧ net.arcs.length < 2 ^ 63 ∧ net.Weighs weights ∧
        (PlaceInvariant.ofWeights net weights).holdsIn (Matrix.ofNet net) = true ∧
        net.weightedSum weights (Marking.initial net) = 3 ∧
        (∀ place ∈ net.places, 0 ≤ place.initialTokens) ∧
        ∀ front ∈ weights.inits,
          Number.FitsWide (net.weightedSum front (Marking.initial net)) := by
    refine ⟨_, rfl, by decide, ⟨by decide, by decide, by decide⟩, ?_, by decide, by decide,
      by decide⟩
    rw [Matrix.ofNet_of_pairwise (by decide) (by decide)]
    decide
  obtain ⟨same, value⟩ := (weightedSum_follows_check valid few
    (show net.Weighs (PlaceInvariant.ofWeights net weights).weights from weighs)
    true [.fire "change", .fire "change"]).2 holds
  have atEnd := same.trans atStart
  refine ⟨net, valid, weighs, atEnd, ?_⟩
  rw [← atEnd]
  exact (value (fun _ _ _ place member _ => nonneg place member) (by rw [atEnd]; decide)
    fun front before => partialFits front ((List.mem_inits front weights).2 before)).symm

end Execution

/-! ### Saturation -/

namespace PlaceInvariant

/-- Six full places. -/
def hoard : Document where
  name := "hoard"
  version := "1"
  places := ["a", "b", "c", "d", "e", "f"].map fun id =>
    ⟨id, .token, .int Number.greatest, true, none⟩
  transitions := []
  arcs := []
  invariants := []

/-- The greatest weights, three of them negative. -/
def hoardWeights : Dictionary Int :=
  [("a", -Number.greatest), ("b", -Number.greatest), ("c", -Number.greatest),
    ("d", Number.greatest), ("e", Number.greatest), ("f", Number.greatest)]

/-- A sum of zero whose value is the greatest bounded integer: the first three terms leave the
wide range, and the last three are added to its bound. -/
theorem value_saturates :
    ∃ net, Net.ofDocument hoard = .ok net ∧ net.arcs.length < 2 ^ 63 ∧ net.Weighs hoardWeights ∧
      (ofWeights net hoardWeights).holdsIn (Matrix.ofNet net) = true ∧
      (∀ place ∈ net.places, 0 ≤ place.initialTokens) ∧
      net.weightedSum hoardWeights (Marking.initial net) = 0 ∧
      (ofWeights net hoardWeights).value = Number.greatest := by
  refine ⟨_, rfl, by decide, ⟨by decide, by decide, by decide⟩, ?_, by decide, by decide,
    by decide⟩
  rw [Matrix.ofNet_of_pairwise (by decide) (by decide)]
  decide

end PlaceInvariant

end GuardedNet
