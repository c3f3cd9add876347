import Mathlib.Algebra.BigOperators.Group.Finset.Basic
import Mathlib.Combinatorics.SimpleGraph.Connectivity.Connected
import GuardedNet.Proofs.Structure.Check
import GuardedNet.Proofs.Structure.Discovery

/-!
# Candidates and conservative components

The candidates for invariants are said by ids alone: by the arcs between ids, the transitions that
give as many tokens as they take, and the graph in which such a transition joins the places that it
has arcs with. Rows and columns are left behind in `Net.WellFormed.isConservative_iff` and
`Net.WellFormed.exists_component`.

Main statement: the candidates are the components of that graph with at least two places, and no
such transition changes the sum over one of them (`Net.discoverInvariants_exact`).
-/

namespace GuardedNet

namespace Net

variable {net : Net}

/-! ### Transitions that conserve -/

/-- An arc leads between a transition and a place, in either direction. -/
def HasArc (net : Net) (transition place : String) : Prop :=
  0 < net.arcCount place transition ∨ 0 < net.arcCount transition place

/-- How many tokens a transition adds to some places altogether. -/
def netEffect (net : Net) (transition : String) (ids : List String) : Int :=
  (ids.map fun id => (net.arcCount transition id : Int) - net.arcCount id transition).sum

/-- A transition adds nothing to all places altogether. -/
def Conserves (net : Net) (transition : String) : Prop :=
  net.netEffect transition (net.places.map (·.id)) = 0

theorem arcCount_sub_eq_zero {transition place : String} (none : ¬ net.HasArc transition place) :
    (net.arcCount transition place : Int) - net.arcCount place transition = 0 := by
  unfold HasArc at none
  omega

theorem WellFormed.isConservative_iff (formed : net.WellFormed) {column : Nat} {transition : String}
    (columnOf : (Matrix.ofNet net).transitions[column]? = some transition) :
    (Matrix.ofNet net).isConservative column = true ↔ net.Conserves transition := by
  have entries : (Matrix.ofNet net).column column = (Matrix.ofNet net).places.map fun id =>
      (net.arcCount transition id : Int) - net.arcCount id transition := by
    unfold Matrix.column
    apply List.ext_getElem
    · simp
    · intro row _ inside
      rw [List.length_map] at inside
      rw [List.getElem_map, List.getElem_map, List.getElem_range,
        Matrix.entry_eq_arcCount formed (List.getElem?_eq_getElem inside) columnOf]
  have perm : (Matrix.ofNet net).places.Perm (net.places.map (·.id)) := by
    rw [Matrix.places_ofNet]
    exact Text.perm_sorted _
  rw [Matrix.isConservative, beq_iff_eq, Matrix.columnSum, entries, Conserves, netEffect]
  change List.sum _ = 0 ↔ _
  rw [(perm.map _).sum_eq]

/-! ### The graph of places -/

/-- The graph that links two places if a transition that conserves has arcs with both. -/
def conservativeGraph (net : Net) : SimpleGraph String where
  Adj p q := p ≠ q ∧ ∃ transition ∈ net.transitions.map (·.id),
    net.Conserves transition ∧ net.HasArc transition p ∧ net.HasArc transition q
  symm := ⟨by
    rintro p q ⟨apart, transition, isTransition, conserves, atP, atQ⟩
    exact ⟨apart.symm, transition, isTransition, conserves, atQ, atP⟩⟩
  loopless := ⟨fun _ linked => linked.1 rfl⟩

/-- A transition that conserves changes nothing in a component: either it has no arc there, or all
its arcs are there. -/
theorem netEffect_eq_zero (formed : net.WellFormed) {ids : List String} (distinct : ids.Nodup)
    (known : ∀ id ∈ ids, id ∈ net.places.map (·.id))
    {component : net.conservativeGraph.ConnectedComponent}
    (support : {id | id ∈ ids} = component.supp) {transition : String}
    (isTransition : transition ∈ net.transitions.map (·.id))
    (conserves : net.Conserves transition) :
    net.netEffect transition ids = 0 := by
  have inComponent : ∀ id, id ∈ ids ↔ id ∈ component.supp := fun id => by rw [← support]; rfl
  by_cases touched : ∃ id ∈ ids, net.HasArc transition id
  · obtain ⟨id, here, arc⟩ := touched
    have outside : ∀ other, other ∉ ids → ¬ net.HasArc transition other := by
      intro other notHere otherArc
      have apart : id ≠ other := fun same => notHere (same ▸ here)
      have linked : net.conservativeGraph.Adj id other :=
        ⟨apart, transition, isTransition, conserves, arc, otherArc⟩
      apply notHere
      rw [inComponent] at here ⊢
      exact (component.mem_supp_congr_adj linked).1 here
    -- the places outside add nothing, so that the sum is that of all places
    rw [← conserves, netEffect, netEffect, ← List.sum_toFinset _ distinct,
      ← List.sum_toFinset _ formed.placeIds]
    apply Finset.sum_subset
    · intro id member
      exact List.mem_toFinset.2 (known id (List.mem_toFinset.1 member))
    · intro id _ notHere
      exact arcCount_sub_eq_zero (outside id fun member => notHere (List.mem_toFinset.2 member))
  · apply List.sum_eq_zero
    intro n member
    obtain ⟨id, here, rfl⟩ := List.mem_map.1 member
    exact arcCount_sub_eq_zero fun arc => touched ⟨id, here, arc⟩

end Net

/-! ### Rows and places -/

/-- The ids of some rows. -/
def Matrix.idsOf (matrix : Matrix) (rows : List Nat) : List String :=
  rows.filterMap (matrix.places[·]?)

theorem Matrix.mem_idsOf {matrix : Matrix} {rows : List Nat} {id : String} :
    id ∈ matrix.idsOf rows ↔ ∃ row ∈ rows, matrix.places[row]? = some id :=
  List.mem_filterMap

namespace Net

variable {net : Net}

theorem mem_places_of_mem_idsOf {rows : List Nat} {id : String}
    (member : id ∈ (Matrix.ofNet net).idsOf rows) : id ∈ net.places.map (·.id) := by
  obtain ⟨row, -, rowOf⟩ := Matrix.mem_idsOf.1 member
  exact Matrix.exists_row_iff.1 ⟨row, rowOf⟩

namespace WellFormed

variable (formed : net.WellFormed)
include formed

theorem mem_places_of_hasArc {transition place : String}
    (isTransition : transition ∈ net.transitions.map (·.id))
    (arc : net.HasArc transition place) : place ∈ net.places.map (·.id) := by
  have notPlace := formed.idsApart transition isTransition
  rcases arc with input | output
  · obtain ⟨a, member, ends⟩ := List.mem_map.1 (List.count_pos_iff.1 input)
    obtain ⟨rfl, rfl⟩ := Prod.mk.inj ends
    rcases formed.ends_cases member with ⟨source, -⟩ | ⟨-, target⟩
    · exact source
    · exact absurd target notPlace
  · obtain ⟨a, member, ends⟩ := List.mem_map.1 (List.count_pos_iff.1 output)
    obtain ⟨rfl, rfl⟩ := Prod.mk.inj ends
    rcases formed.ends_cases member with ⟨source, -⟩ | ⟨-, target⟩
    · exact absurd source notPlace
    · exact target

/-- Connected rows are those of places that the graph connects. -/
theorem reachable_of_connected {a b : Nat}
    (connected : Connected (net.conservativeLinks (Matrix.ofNet net)) a b) :
    net.conservativeGraph.Reachable ((Matrix.ofNet net).places[a]?.getD "")
      ((Matrix.ofNet net).places[b]?.getD "") := by
  induction connected with
  | rel a b linked =>
    obtain ⟨column, transition, columnOf, conservative, ⟨p, rowP, atP⟩, q, rowQ, atQ⟩ :=
      formed.linked_iff.1 linked
    rw [rowP, rowQ, Option.getD_some, Option.getD_some]
    by_cases same : p = q
    · rw [same]
    · have linked : net.conservativeGraph.Adj p q := ⟨same, transition,
        Matrix.exists_column_iff.1 ⟨_, columnOf⟩,
        (formed.isConservative_iff columnOf).1 conservative, atP, atQ⟩
      exact linked.reachable
  | refl a => exact .rfl
  | symm a b _ ih => exact ih.symm
  | trans a b c _ _ first second => exact first.trans second

theorem exists_connected_row {a : Nat} {p q : String}
    (rowOf : (Matrix.ofNet net).places[a]? = some p)
    (reachable : net.conservativeGraph.Reachable p q) :
    ∃ b : Nat, (Matrix.ofNet net).places[b]? = some q ∧
      Connected (net.conservativeLinks (Matrix.ofNet net)) a b := by
  rw [SimpleGraph.reachable_iff_reflTransGen] at reachable
  induction reachable with
  | refl => exact ⟨a, rowOf, .refl a⟩
  | tail _ linked ih =>
    obtain ⟨b, rowB, connected⟩ := ih
    obtain ⟨-, transition, isTransition, conserves, atB, atC⟩ := linked
    obtain ⟨c, rowC⟩ := Matrix.exists_row_iff.2 (formed.mem_places_of_hasArc isTransition atC)
    obtain ⟨column, columnOf⟩ := Matrix.exists_column_iff.2 isTransition
    refine ⟨c, rowC, .trans _ _ _ connected (.rel _ _ (formed.linked_iff.2 ?_))⟩
    exact ⟨column, transition, columnOf, (formed.isConservative_iff columnOf).2 conserves,
      ⟨_, rowB, atB⟩, _, rowC, atC⟩

theorem row_unique {a b : Nat} {id : String} (rowA : (Matrix.ofNet net).places[a]? = some id)
    (rowB : (Matrix.ofNet net).places[b]? = some id) : a = b := by
  rw [← Matrix.placeIndex?_ofNet_iff formed] at rowA rowB
  exact Option.some.inj (rowA.symm.trans rowB)

theorem nodup_idsOf {rows : List Nat} (ordered : rows.Pairwise (· < ·)) :
    ((Matrix.ofNet net).idsOf rows).Nodup :=
  List.Nodup.filterMap (fun _ _ _ rowA rowB => formed.row_unique rowA rowB)
    (ordered.imp Nat.ne_of_lt)

/-- The places of connected rows are a component. -/
theorem exists_component {rows : List Nat}
    (isComponent : IsComponent (net.conservativeLinks (Matrix.ofNet net)) rows) :
    ∃ component : net.conservativeGraph.ConnectedComponent, component.supp.Nontrivial ∧
      {id | id ∈ (Matrix.ofNet net).idsOf rows} = component.supp := by
  have rowOf : ∀ row ∈ rows, ∃ id, (Matrix.ofNet net).places[row]? = some id := by
    intro row member
    have inside := lt_of_mem_flatten formed.conservativeLinks_inside
      (isComponent.mem_flatten member)
    exact ⟨_, List.getElem?_eq_getElem inside⟩
  obtain ⟨m, mIn, -⟩ := isComponent.exists_other 0
  obtain ⟨n, nIn, apart⟩ := isComponent.exists_other m
  obtain ⟨p, rowP⟩ := rowOf m mIn
  obtain ⟨q, rowQ⟩ := rowOf n nIn
  have support : {id | id ∈ (Matrix.ofNet net).idsOf rows} =
      (net.conservativeGraph.connectedComponentMk p).supp := by
    ext id
    rw [Set.mem_ofPred_eq, Matrix.mem_idsOf, SimpleGraph.ConnectedComponent.mem_supp_iff,
      SimpleGraph.ConnectedComponent.eq, SimpleGraph.reachable_comm]
    constructor
    · rintro ⟨row, member, rowId⟩
      have reachable := formed.reachable_of_connected ((isComponent.closed m mIn row).1 member)
      rwa [rowP, rowId] at reachable
    · intro reachable
      obtain ⟨row, rowId, connected⟩ := formed.exists_connected_row rowP reachable
      exact ⟨row, (isComponent.closed m mIn row).2 connected, rowId⟩
  refine ⟨_, ?_, support⟩
  rw [← support]
  refine ⟨p, Matrix.mem_idsOf.2 ⟨m, mIn, rowP⟩, q, Matrix.mem_idsOf.2 ⟨n, nIn, rowQ⟩, ?_⟩
  rintro rfl
  exact apart (formed.row_unique rowP rowQ)

/-- Every component of at least two places has its rows. -/
theorem exists_rows {component : net.conservativeGraph.ConnectedComponent}
    (two : component.supp.Nontrivial) :
    ∃ rows, IsComponent (net.conservativeLinks (Matrix.ofNet net)) rows ∧
      {id | id ∈ (Matrix.ofNet net).idsOf rows} = component.supp := by
  classical
  obtain ⟨p, pIn, q, qIn, apart⟩ := two
  have reachable := component.reachable_of_mem_supp pIn qIn
  -- a place that is linked has an arc, and so a row
  obtain ⟨r, -, transition, isTransition, -, atP, -⟩ := reachable.nonempty_neighborSet_left apart
  obtain ⟨m, rowP⟩ := Matrix.exists_row_iff.2 (formed.mem_places_of_hasArc isTransition atP)
  obtain ⟨n, rowQ, connected⟩ := formed.exists_connected_row rowP reachable
  let links := net.conservativeLinks (Matrix.ofNet net)
  have equivalence : Equivalence (Connected links) := Relation.EqvGen.is_equivalence _
  have rowsApart : m ≠ n := by
    rintro rfl
    exact apart (Option.some.inj (rowP.symm.trans rowQ))
  let rows := (List.range (Matrix.ofNet net).places.length).filter fun row =>
    decide (Connected links m row)
  have mem_rows : ∀ row, row ∈ rows ↔ Connected links m row := by
    intro row
    rw [List.mem_filter, List.mem_range, decide_eq_true_eq, and_iff_right_iff_imp]
    intro joined
    rcases joined.eq_or_mem with rfl | ⟨-, linked⟩
    · exact (List.getElem?_eq_some_iff.1 rowP).1
    · exact lt_of_mem_flatten formed.conservativeLinks_inside linked
  have isComponent : IsComponent links rows := by
    refine ⟨List.pairwise_lt_range.filter _, ?_, ?_⟩
    · have pair : [m, n].Subperm rows := by
        apply List.subperm_of_subset
        · simpa using rowsApart
        · simp only [List.cons_subset, List.nil_subset, and_true, mem_rows]
          exact ⟨equivalence.refl m, connected⟩
      exact pair.length_le
    · intro k kIn row
      rw [mem_rows] at kIn ⊢
      exact ⟨equivalence.trans (equivalence.symm kIn), equivalence.trans kIn⟩
  obtain ⟨other, -, support⟩ := formed.exists_component isComponent
  refine ⟨rows, isComponent, ?_⟩
  have pInOther : p ∈ other.supp := by
    rw [← support]
    exact Matrix.mem_idsOf.2 ⟨m, (mem_rows m).2 (equivalence.refl m), rowP⟩
  rw [support, SimpleGraph.ConnectedComponent.eq_of_common_vertex pInOther pIn]

end WellFormed

end Net

/-- Components with a number in common are the same. -/
theorem IsComponent.eq_of_mem {links : List (List Nat)} {rows rows' : List Nat}
    (isComponent : IsComponent links rows) (isComponent' : IsComponent links rows') {m : Nat}
    (member : m ∈ rows) (member' : m ∈ rows') : rows = rows' := by
  apply eq_of_pairwise_lt isComponent.ordered isComponent'.ordered
  intro n
  rw [isComponent.closed m member, isComponent'.closed m member']

/-! ### Candidates -/

namespace Net

variable {net : Net}

section

variable {labelling : Labelling} (formed : net.WellFormed) (isExact : labelling.IsExact)
include formed isExact

theorem WellFormed.mem_discoverInvariants_iff {candidate : PlaceInvariant} :
    candidate ∈ net.discoverInvariants labelling (Matrix.ofNet net) ↔
      ∃ rows, IsComponent (net.conservativeLinks (Matrix.ofNet net)) rows ∧
        net.candidateOn (Matrix.ofNet net) ((Matrix.ofNet net).idsOf rows) = candidate := by
  rw [discoverInvariants, (List.mergeSort_perm _ _).mem_iff, candidates_eq_map, List.mem_map]
  simp only [mem_components_iff isExact formed.conservativeLinks_inside]
  rfl

theorem WellFormed.pairwise_discoverInvariants :
    (net.discoverInvariants labelling (Matrix.ofNet net)).Pairwise
      fun a b => a.places.Disjoint b.places := by
  rw [discoverInvariants, (List.mergeSort_perm _ _).pairwise_iff fun disjoint => disjoint.symm,
    candidates_eq_map, List.pairwise_map]
  refine nodup_components.imp_of_mem fun {rows rows'} member member' apart => ?_
  rw [mem_components_iff isExact formed.conservativeLinks_inside] at member member'
  rw [places_candidateOn, places_candidateOn]
  intro id here here'
  obtain ⟨row, rowIn, rowOf⟩ := Matrix.mem_idsOf.1 here
  obtain ⟨row', rowIn', rowOf'⟩ := Matrix.mem_idsOf.1 here'
  rw [formed.row_unique rowOf' rowOf] at rowIn'
  exact apart (member.eq_of_mem member' rowIn rowIn')

end

theorem isWeights_ones {ids : List String} (distinct : ids.Nodup) :
    IsWeights (ids.map fun id => (id, 1)) := by
  constructor
  · simpa [Dictionary.keys, Function.comp_def] using distinct
  · intro entry member
    obtain ⟨id, -, rfl⟩ := List.mem_map.1 member
    exact (by decide : Number.Fits 1)

section

variable (formed : net.WellFormed) {ids : List String}
  (known : ∀ id ∈ ids, id ∈ net.places.map (·.id))
include formed known

/-- Weights one add up what a transition adds to their places. -/
theorem weighted_ones {column : Nat} {transition : String}
    (columnOf : (Matrix.ofNet net).transitions[column]? = some transition) :
    weighted (ids.map fun id => (id, 1)) ((Matrix.ofNet net).entryAt column) =
      net.netEffect transition ids := by
  rw [weighted, List.map_map, netEffect]
  congr 1
  apply List.map_congr_left
  intro id member
  obtain ⟨row, rowOf⟩ := Matrix.exists_row_iff.2 (known id member)
  rw [Function.comp_apply, one_mul, Matrix.entryAt,
    (Matrix.placeIndex?_ofNet_iff formed).2 rowOf]
  exact Matrix.entry_eq_arcCount formed rowOf columnOf

variable (few : net.arcs.length < 2 ^ 63) (distinct : ids.Nodup)
include few distinct

/-- A candidate is verified exactly if no transition changes the sum over its places. -/
theorem verified_candidateOn_iff :
    (net.candidateOn (Matrix.ofNet net) ids).verified = true ↔
      ∀ transition ∈ net.transitions.map (·.id), net.netEffect transition ids = 0 := by
  have isWeights : IsWeights (PlaceInvariant.ofWeights net (ids.map fun id => (id, 1))).weights :=
    isWeights_ones distinct
  have rows : ∀ entry ∈ ids.map fun id => (id, (1 : Int)), entry.2 ≠ 0 →
      ((Matrix.ofNet net).placeIndex? entry.1).isSome := by
    intro entry member _
    obtain ⟨id, here, rfl⟩ := List.mem_map.1 member
    obtain ⟨row, rowOf⟩ := Matrix.exists_row_iff.2 (known id here)
    rw [(Matrix.placeIndex?_ofNet_iff formed).2 rowOf]
    rfl
  refine (PlaceInvariant.holdsIn_iff formed few isWeights).trans ((and_iff_right rows).trans ?_)
  constructor
  · intro kept transition isTransition
    obtain ⟨column, columnOf⟩ := Matrix.exists_column_iff.2 isTransition
    rw [← weighted_ones formed known columnOf]
    exact kept column (List.getElem?_eq_some_iff.1 columnOf).1
  · intro kept column inside
    have columnOf := List.getElem?_eq_getElem inside
    exact (weighted_ones formed known columnOf).trans
      (kept _ (Matrix.exists_column_iff.1 ⟨_, columnOf⟩))

/-- The violations of a candidate are by transitions that change the sum over its places. -/
theorem netEffect_ne_zero_of_violation {change : WeightChange}
    (listed : change ∈ ((net.candidateOn (Matrix.ofNet net) ids).check
      (Matrix.ofNet net)).violations) :
    change.transition ∈ net.transitions.map (·.id) ∧ net.netEffect change.transition ids ≠ 0 := by
  obtain ⟨column, columnOf, changes, -⟩ := PlaceInvariant.mem_violations_iff.1 listed
  have effect := PlaceInvariant.effect_ofNet formed few (isWeights_ones distinct) column
  rw [weighted_ones formed known columnOf] at effect
  exact ⟨Matrix.exists_column_iff.1 ⟨_, columnOf⟩, fun zero => changes (effect.trans zero)⟩

end

namespace WellFormed

variable (formed : net.WellFormed)
include formed

theorem netEffect_idsOf {rows : List Nat}
    (isComponent : IsComponent (net.conservativeLinks (Matrix.ofNet net)) rows)
    {transition : String} (isTransition : transition ∈ net.transitions.map (·.id))
    (conserves : net.Conserves transition) :
    net.netEffect transition ((Matrix.ofNet net).idsOf rows) = 0 := by
  obtain ⟨component, -, support⟩ := formed.exists_component isComponent
  exact netEffect_eq_zero formed (formed.nodup_idsOf isComponent.ordered)
    (fun _ => mem_places_of_mem_idsOf) support isTransition conserves

variable {labelling : Labelling} (isExact : labelling.IsExact)
include isExact

/-- Candidates without a common place are different, so that a component has only one. -/
theorem existsUnique_candidate {component : net.conservativeGraph.ConnectedComponent}
    (two : component.supp.Nontrivial) :
    ∃! candidate, candidate ∈ net.discoverInvariants labelling (Matrix.ofNet net) ∧
      {id | id ∈ candidate.places} = component.supp := by
  obtain ⟨rows, isComponent, support⟩ := formed.exists_rows two
  have member := (formed.mem_discoverInvariants_iff isExact).2 ⟨rows, isComponent, rfl⟩
  have places := net.places_candidateOn (Matrix.ofNet net) ((Matrix.ofNet net).idsOf rows)
  refine ⟨_, ⟨member, by rw [places, support]⟩, ?_⟩
  rintro candidate ⟨isFound, same⟩
  by_contra apart
  obtain ⟨id, inComponent⟩ := two.nonempty
  have symmetric : Std.Symm fun a b : PlaceInvariant => a.places.Disjoint b.places :=
    ⟨fun _ _ disjoint => disjoint.symm⟩
  have sharesNone := (formed.pairwise_discoverInvariants isExact).forall isFound member apart
  rw [places] at sharesNone
  exact sharesNone (same.ge inComponent) (support.ge inComponent)

variable (few : net.arcs.length < 2 ^ 63) {candidate : PlaceInvariant}
  (member : candidate ∈ net.discoverInvariants labelling (Matrix.ofNet net))
include few member

theorem not_conserves_of_violation {change : WeightChange}
    (listed : change ∈ (candidate.check (Matrix.ofNet net)).violations) :
    ¬ net.Conserves change.transition := by
  intro conserves
  obtain ⟨rows, isComponent, rfl⟩ := (formed.mem_discoverInvariants_iff isExact).1 member
  obtain ⟨isTransition, changes⟩ := netEffect_ne_zero_of_violation formed
    (fun _ => mem_places_of_mem_idsOf) few (formed.nodup_idsOf isComponent.ordered) listed
  exact changes (formed.netEffect_idsOf isComponent isTransition conserves)

theorem verified_iff :
    candidate.verified = true ↔ ∀ transition ∈ net.transitions.map (·.id),
      ¬ net.Conserves transition → net.netEffect transition candidate.places = 0 := by
  obtain ⟨rows, isComponent, rfl⟩ := (formed.mem_discoverInvariants_iff isExact).1 member
  rw [verified_candidateOn_iff formed (fun _ => mem_places_of_mem_idsOf) few
    (formed.nodup_idsOf isComponent.ordered), places_candidateOn]
  refine ⟨fun all transition isTransition _ => all transition isTransition, ?_⟩
  intro others transition isTransition
  by_cases conserves : net.Conserves transition
  · exact formed.netEffect_idsOf isComponent isTransition conserves
  · exact others transition isTransition conserves

end WellFormed

/-- The candidates for invariants of a net are its conservative components. Each component of at
least two places has one candidate, and each candidate has such a component, with weight one on
each of its places. No two candidates share a place. A transition that conserves is never among the
violations of a candidate, so that a candidate is verified exactly if the transitions that do not
conserve add nothing to its places. All this holds whatever labels the joined rows get. The check
keeps its sums within 128 bits; fewer than `2 ^ 63` arcs, which is all that memory can hold, never
come near. -/
theorem discoverInvariants_exact {labelling : Labelling} (isExact : labelling.IsExact)
    {d : Document} (valid : Net.ofDocument d = .ok net) :
    let matrix := Matrix.ofNet net
    let found := net.discoverInvariants labelling matrix
    let transitions := net.transitions.map (·.id)
    (∀ component : net.conservativeGraph.ConnectedComponent, component.supp.Nontrivial →
      ∃! candidate, candidate ∈ found ∧ {id | id ∈ candidate.places} = component.supp) ∧
    (∀ candidate ∈ found, candidate.places.Nodup ∧ (∀ entry ∈ candidate.weights, entry.2 = 1) ∧
      ∃ component : net.conservativeGraph.ConnectedComponent, component.supp.Nontrivial ∧
        {id | id ∈ candidate.places} = component.supp) ∧
    found.Pairwise (fun a b => a.places.Disjoint b.places) ∧
    (net.arcs.length < 2 ^ 63 →
      (∀ candidate ∈ found, ∀ change ∈ (candidate.check matrix).violations,
        ¬ net.Conserves change.transition) ∧
      (∀ candidate ∈ found, candidate.verified = true ↔
        ∀ transition ∈ transitions, ¬ net.Conserves transition →
          net.netEffect transition candidate.places = 0) ∧
      ((∀ transition ∈ transitions, net.Conserves transition) →
        ∀ candidate ∈ found, candidate.verified = true)) := by
  intro matrix found transitions
  have formed := Net.wellFormed_of_ofDocument valid
  refine ⟨fun component => formed.existsUnique_candidate isExact, ?_,
    formed.pairwise_discoverInvariants isExact, fun few => ⟨?_, ?_, ?_⟩⟩
  · intro candidate member
    obtain ⟨rows, isComponent, rfl⟩ := (formed.mem_discoverInvariants_iff isExact).1 member
    rw [places_candidateOn]
    refine ⟨formed.nodup_idsOf isComponent.ordered, ?_, formed.exists_component isComponent⟩
    intro entry listed
    obtain ⟨id, -, rfl⟩ := List.mem_map.1 listed
    rfl
  · exact fun candidate member change => formed.not_conserves_of_violation isExact few member
  · exact fun candidate member => formed.verified_iff isExact few member
  · intro all candidate member
    rw [formed.verified_iff isExact few member]
    intro transition isTransition not
    exact absurd (all transition isTransition) not

end Net

/-- Two machines and some parts. Making a part looks at a second one and gives it back; a delivery
brings parts from outside. -/
def workshop : Document where
  name := "workshop"
  version := "1"
  places := [⟨"busy", .token, .int 0, true, none⟩, ⟨"done", .token, .int 0, true, none⟩,
    ⟨"idle", .token, .int 2, true, none⟩, ⟨"raw", .token, .int 5, true, none⟩]
  transitions := [{ id := "deliver", guard := none, rate := 1.0 },
    { id := "finish", guard := none, rate := 1.0 }, { id := "make", guard := none, rate := 1.0 },
    { id := "start", guard := none, rate := 1.0 }]
  arcs := [⟨"deliver", "raw", [], none⟩, ⟨"busy", "finish", [], none⟩,
    ⟨"finish", "idle", [], none⟩, ⟨"raw", "make", [], none⟩, ⟨"raw", "make", [], none⟩,
    ⟨"make", "raw", [], none⟩, ⟨"make", "done", [], none⟩, ⟨"idle", "start", [], none⟩,
    ⟨"start", "busy", [], none⟩]
  invariants := []

/-- The machines are kept. The parts are a component of their own, to which deliveries add. -/
theorem Net.discoverInvariants_exact_workshop :
    ∃ net, Net.ofDocument workshop = .ok net ∧ Partition.labelling.IsExact ∧
      net.arcs.length < 2 ^ 63 ∧
      net.discoverInvariants Partition.labelling (Matrix.ofNet net) =
        [⟨[("busy", 1), ("idle", 1)], 2, true⟩, ⟨[("done", 1), ("raw", 1)], 5, false⟩] ∧
      ¬ net.Conserves "deliver" ∧ net.netEffect "deliver" ["busy", "idle"] = 0 ∧
      ∃ component : net.conservativeGraph.ConnectedComponent,
        component.supp.Nontrivial ∧ {id | id ∈ ["done", "raw"]} = component.supp := by
  obtain ⟨net, valid, few, candidates, delivers, known⟩ :
      ∃ net, Net.ofDocument workshop = .ok net ∧ net.arcs.length < 2 ^ 63 ∧
        net.candidates Partition.labelling (Matrix.ofNet net) =
          [⟨[("busy", 1), ("idle", 1)], 2, true⟩, ⟨[("done", 1), ("raw", 1)], 5, false⟩] ∧
        ¬ net.Conserves "deliver" ∧ "deliver" ∈ net.transitions.map (·.id) := by
    refine ⟨_, rfl, by decide, ?_, ?_, by decide⟩
    · rw [Matrix.ofNet_of_pairwise (by decide) (by decide)]
      decide
    · unfold Conserves
      decide
  have found : net.discoverInvariants Partition.labelling (Matrix.ofNet net) =
      [⟨[("busy", 1), ("idle", 1)], 2, true⟩, ⟨[("done", 1), ("raw", 1)], 5, false⟩] := by
    rw [discoverInvariants, candidates, List.mergeSort_of_pairwise (by decide)]
  obtain ⟨-, support, -, checked⟩ := discoverInvariants_exact Partition.isExact_labelling valid
  have verified := (checked few).2.1
  rw [found] at support verified
  refine ⟨net, valid, Partition.isExact_labelling, few, found, delivers, ?_, ?_⟩
  · exact (verified _ (List.mem_cons_self ..)).1 rfl "deliver" known delivers
  · exact (support _ (List.mem_cons_of_mem _ (List.mem_cons_self ..))).2.2

end GuardedNet
