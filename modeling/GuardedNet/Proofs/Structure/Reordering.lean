import GuardedNet.Proofs.Structure.Discovery
import GuardedNet.Proofs.Text.Sorted
import GuardedNet.Structure.Basis

/-!
# The order of the declarations

A net depends on the order in which its document lists places, transitions and arcs: positions,
tables and the labels of parts all change with it. What is computed from the matrix does not.
Main statement: the matrix, the analysis and the basis of invariants of two documents that list
the same declarations are equal (`Document.Reorders.analysis_eq`).
-/

namespace GuardedNet

/-- The same places, transitions and arcs, perhaps in another order. -/
structure Document.Reorders (d d' : Document) : Prop where
  places : d.places.Perm d'.places
  transitions : d.transitions.Perm d'.transitions
  arcs : d.arcs.Perm d'.arcs

/-! ### Matrices by their entries -/

theorem Table.lengths_modify {α : Type} (table : Table α) (p t : Nat) (change : α → α) :
    (table.modify p t change).rows.map List.length = table.rows.map List.length := by
  refine List.ext_getElem? fun q => ?_
  simp only [modify, List.getElem?_map, List.getElem?_modify]
  cases table.rows[q]? with
  | none => rfl
  | some row =>
    by_cases same : p = q <;> simp [same]

namespace Matrix

variable {net : Net} {matrix matrix' : Matrix}

/-- The table has a row for each place, and in it an entry for each transition. -/
structure Shaped (matrix : Matrix) : Prop where
  columns : matrix.entries.columns = matrix.transitions.length
  lengths : matrix.entries.rows.map List.length =
    List.replicate matrix.places.length matrix.transitions.length

theorem Shaped.count (shaped : matrix.Shaped) (flow : Flow) : (count net matrix flow).Shaped := by
  unfold Matrix.count
  split
  · exact ⟨shaped.columns, (Table.lengths_modify ..).trans shaped.lengths⟩
  · exact shaped

theorem Shaped.foldl_count (shaped : matrix.Shaped) (flows : List Flow) :
    (flows.foldl (Matrix.count net) matrix).Shaped := by
  induction flows generalizing matrix with
  | nil => exact shaped
  | cons flow flows ih => exact ih (shaped.count flow)

theorem shaped_ofNet (net : Net) : (ofNet net).Shaped := by
  refine Shaped.foldl_count ⟨rfl, ?_⟩ net.flows
  simp [Table.filled]

theorem Shaped.length_row (shaped : matrix.Shaped) {row : List Int}
    (member : row ∈ matrix.entries.rows) : row.length = matrix.transitions.length := by
  have listed := List.mem_map_of_mem (f := List.length) member
  rw [shaped.lengths] at listed
  exact List.eq_of_mem_replicate listed

theorem Shaped.length_rows (shaped : matrix.Shaped) :
    matrix.entries.rows.length = matrix.places.length := by
  simpa using congrArg List.length shaped.lengths

/-- Matrices with the same ids and the same entries are equal. -/
theorem Shaped.ext (shaped : matrix.Shaped) (shaped' : matrix'.Shaped)
    (places : matrix.places = matrix'.places)
    (transitions : matrix.transitions = matrix'.transitions)
    (entries : ∀ row column, row < matrix.places.length → column < matrix.transitions.length →
      matrix.entry row column = matrix'.entry row column) : matrix = matrix' := by
  have rows : matrix.entries.rows = matrix'.entries.rows := by
    refine List.ext_getElem ?_ fun row here there => ?_
    · rw [shaped.length_rows, shaped'.length_rows, places]
    have length := shaped.length_row (List.getElem_mem here)
    have length' := shaped'.length_row (List.getElem_mem there)
    refine List.ext_getElem ?_ fun column inside inside' => ?_
    · rw [length, length', transitions]
    have same := entries row column (shaped.length_rows ▸ here) (length ▸ inside)
    simpa [entry, Table.get?, Table.row, here, there, inside, inside'] using same
  have columns : matrix.entries.columns = matrix'.entries.columns := by
    rw [shaped.columns, shaped'.columns, transitions]
  obtain ⟨_, _, _, _⟩ := matrix
  obtain ⟨_, _, _, _⟩ := matrix'
  simp_all

end Matrix

/-! ### Reordered nets -/

namespace Document.Reorders

variable {net net' : Net} (reorders : net.document.Reorders net'.document)
include reorders

theorem arcCount_eq : net.arcCount = net'.arcCount := by
  funext source target
  exact (reorders.arcs.map Arc.ends).count_eq (source, target)

variable (formed : net.WellFormed) (formed' : net'.WellFormed)
include formed formed'

theorem declaredTokens_eq : net.declaredTokens = net'.declaredTokens := by
  funext id
  by_cases known : ∃ place ∈ net.places, place.id = id
  · obtain ⟨place, member, rfl⟩ := known
    rw [formed.declaredTokens_id member,
      formed'.declaredTokens_id (reorders.places.mem_iff.1 member)]
  · have unknown : ∀ place ∈ net.places, ¬(place.id == id) = true := fun place member named =>
      known ⟨place, member, by simpa using named⟩
    have unknown' : ∀ place ∈ net'.places, ¬(place.id == id) = true := fun place member =>
      unknown place (reorders.places.mem_iff.2 member)
    rw [Net.declaredTokens, Net.declaredTokens, List.find?_eq_none.2 unknown,
      List.find?_eq_none.2 unknown']

theorem matrix_eq : Matrix.ofNet net = Matrix.ofNet net' := by
  have places : (Matrix.ofNet net).places = (Matrix.ofNet net').places := by
    rw [Matrix.places_ofNet, Matrix.places_ofNet]
    exact Text.sorted_eq_of_perm (reorders.places.map _)
  have transitions : (Matrix.ofNet net).transitions = (Matrix.ofNet net').transitions := by
    rw [Matrix.transitions_ofNet, Matrix.transitions_ofNet]
    exact Text.sorted_eq_of_perm (reorders.transitions.map _)
  refine (Matrix.shaped_ofNet net).ext (Matrix.shaped_ofNet net') places transitions ?_
  intro row column rowInside columnInside
  obtain ⟨place, rowOf⟩ : ∃ place, (Matrix.ofNet net).places[row]? = some place :=
    ⟨_, List.getElem?_eq_getElem rowInside⟩
  obtain ⟨transition, columnOf⟩ :
      ∃ transition, (Matrix.ofNet net).transitions[column]? = some transition :=
    ⟨_, List.getElem?_eq_getElem columnInside⟩
  rw [Matrix.entry_eq_arcCount formed rowOf columnOf,
    Matrix.entry_eq_arcCount formed' (places ▸ rowOf) (transitions ▸ columnOf),
    reorders.arcCount_eq]

theorem ofWeights_eq : PlaceInvariant.ofWeights net = PlaceInvariant.ofWeights net' := by
  have sums : ∀ (net : Net) (weights : Dictionary Int), PlaceInvariant.initialSum net weights =
      Number.clamp (weights.foldl (fun total entry =>
        Number.clampWide (total + entry.2 * net.declaredTokens entry.1)) 0) := fun _ _ => rfl
  funext weights
  rw [PlaceInvariant.ofWeights, PlaceInvariant.ofWeights, sums, sums,
    reorders.declaredTokens_eq formed formed']

/-- Two rows are linked in one net if they are in the other. -/
theorem linked_iff (a b : Nat) :
    Linked (net.conservativeLinks (Matrix.ofNet net)) a b ↔
      Linked (net'.conservativeLinks (Matrix.ofNet net')) a b := by
  have touches : net.Touches = net'.Touches := by
    funext matrix transition row
    rw [Net.Touches, Net.Touches, reorders.arcCount_eq]
  rw [formed.linked_iff, formed'.linked_iff, ← reorders.matrix_eq formed formed', touches]

theorem invariantBasis_eq :
    net.invariantBasis (Matrix.ofNet net) = net'.invariantBasis (Matrix.ofNet net') := by
  rw [Net.invariantBasis, Net.invariantBasis, reorders.ofWeights_eq formed formed',
    reorders.matrix_eq formed formed']

variable {labelling : Labelling} (isExact : labelling.IsExact)
include isExact

theorem candidates_perm :
    (net.candidates labelling (Matrix.ofNet net)).Perm
      (net'.candidates labelling (Matrix.ofNet net')) := by
  have inside := formed.conservativeLinks_inside
  have inside' := formed'.conservativeLinks_inside
  have linked := reorders.linked_iff formed formed'
  have same : net.candidateOn = net'.candidateOn := by
    funext matrix ids
    rw [Net.candidateOn, Net.candidateOn, reorders.ofWeights_eq formed formed']
  rw [Net.candidates_eq_map, Net.candidates_eq_map, same]
  rw [← reorders.matrix_eq formed formed'] at inside' linked ⊢
  exact (components_perm isExact inside inside' linked).map _

/-- The parts come in the order of their labels, but the candidates in that of their places. -/
theorem discoverInvariants_eq :
    net.discoverInvariants labelling (Matrix.ofNet net) =
      net'.discoverInvariants labelling (Matrix.ofNet net') := by
  have perm := reorders.candidates_perm formed formed' isExact
  refine mergeSort_eq_of_perm ?_ ?_ ?_ perm
  · exact fun a b c => Text.isSortedListPair_trans _ _ _
  · exact fun a b => Text.isSortedListPair_total _ _
  · intro a aIn b bIn ab ba
    -- a candidate is known by its places
    have places := Text.isSortedListPair_antisymm ab ba
    have bIn := perm.mem_iff.2 bIn
    rw [Net.candidates_eq_map] at aIn bIn
    obtain ⟨rows, -, rfl⟩ := List.mem_map.1 aIn
    obtain ⟨rows', -, rfl⟩ := List.mem_map.1 bIn
    rw [Net.places_candidateOn, Net.places_candidateOn] at places
    rw [places]

end Document.Reorders

/-- The analysis of the structure does not depend on the order of the declarations, whatever labels
the joined rows get. -/
theorem Document.Reorders.analysis_eq {labelling : Labelling} (isExact : labelling.IsExact)
    {d d' : Document} {net net' : Net} (valid : Net.ofDocument d = .ok net)
    (valid' : Net.ofDocument d' = .ok net') (reorders : d.Reorders d') :
    Matrix.ofNet net = Matrix.ofNet net' ∧
      Conservation.ofNet labelling net (Matrix.ofNet net) =
        Conservation.ofNet labelling net' (Matrix.ofNet net') ∧
      net.invariantBasis (Matrix.ofNet net) = net'.invariantBasis (Matrix.ofNet net') := by
  have formed := Net.wellFormed_of_ofDocument valid
  have formed' := Net.wellFormed_of_ofDocument valid'
  rw [← Net.document_of_ofDocument valid, ← Net.document_of_ofDocument valid'] at reorders
  have matrices := reorders.matrix_eq formed formed'
  refine ⟨matrices, ?_, reorders.invariantBasis_eq formed formed'⟩
  rw [Conservation.ofNet, Conservation.ofNet,
    reorders.discoverInvariants_eq formed formed' isExact, matrices]

/-- Tokens are passed on from place to place, and leave from the last one. -/
def relay : Document where
  name := "relay"
  version := "1"
  places := [⟨"first", .token, .int 2, true, none⟩, ⟨"last", .token, .int 1, true, none⟩,
    ⟨"next", .token, .int 0, true, none⟩]
  transitions := [{ id := "leave", guard := none, rate := 1.0 },
    { id := "pass", guard := none, rate := 1.0 }, { id := "take", guard := none, rate := 1.0 }]
  arcs := [⟨"last", "leave", [], none⟩, ⟨"next", "pass", [], none⟩, ⟨"pass", "last", [], none⟩,
    ⟨"first", "take", [], none⟩, ⟨"take", "next", [], none⟩]
  invariants := []

/-- The relay with its declarations backwards. -/
def relayBack : Document :=
  { relay with
    places := relay.places.reverse
    transitions := relay.transitions.reverse
    arcs := relay.arcs.reverse }

/-- The parts of the relay have one label forwards and another backwards, but both give the one
candidate on all three places. -/
theorem Document.Reorders.analysis_eq_relay :
    let expected : Conservation := ⟨["pass", "take"], ["leave"],
      [⟨[("first", 1), ("last", 1), ("next", 1)], 3, false⟩]⟩
    Partition.labelling.IsExact ∧ relay.Reorders relayBack ∧
      ∃ net net', Net.ofDocument relay = .ok net ∧ Net.ofDocument relayBack = .ok net' ∧
        Conservation.ofNet Partition.labelling net (Matrix.ofNet net) = expected ∧
        Conservation.ofNet Partition.labelling net' (Matrix.ofNet net') = expected := by
  intro expected
  have reorders : relay.Reorders relayBack :=
    ⟨(List.reverse_perm _).symm, (List.reverse_perm _).symm, (List.reverse_perm _).symm⟩
  obtain ⟨net, valid, matrix, candidates⟩ : ∃ net, Net.ofDocument relay = .ok net ∧
      Matrix.ofNet net = ⟨["first", "last", "next"], ["leave", "pass", "take"],
        ⟨[[0, 0, -1], [-1, 1, 0], [0, -1, 1]], 3⟩⟩ ∧
      net.candidates Partition.labelling (Matrix.ofNet net) =
        [⟨[("first", 1), ("last", 1), ("next", 1)], 3, false⟩] := by
    refine ⟨_, rfl, ?_, ?_⟩
    · rw [Matrix.ofNet_of_pairwise (by decide) (by decide)]
      decide
    · rw [Matrix.ofNet_of_pairwise (by decide) (by decide)]
      decide
  obtain ⟨net', valid'⟩ : ∃ net', Net.ofDocument relayBack = .ok net' := ⟨_, rfl⟩
  have forwards : Conservation.ofNet Partition.labelling net (Matrix.ofNet net) = expected := by
    rw [Conservation.ofNet, Net.discoverInvariants, candidates, List.mergeSort_singleton, matrix]
    rfl
  refine ⟨Partition.isExact_labelling, reorders, net, net', valid, valid', forwards, ?_⟩
  exact (analysis_eq Partition.isExact_labelling valid valid' reorders).2.1.symm.trans forwards

end GuardedNet
