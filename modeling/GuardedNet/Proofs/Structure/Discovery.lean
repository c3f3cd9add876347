import GuardedNet.Proofs.Net.ById
import GuardedNet.Proofs.Structure.Matrix
import GuardedNet.Proofs.Structure.Partition
import GuardedNet.Structure.PlaceInvariant

/-!
# Candidates for invariants

The candidates are the components of the rows that conservative transitions link, with weight
one on each of their places (`Net.candidates_eq_map`). Main statement: two rows are linked exactly
if one conservative transition has arcs with both of their places (`Net.WellFormed.linked_iff`),
which is said by ids and so knows nothing of positions.
-/

namespace GuardedNet

/-! ### Entries by ids -/

/-- Every id is that of some position. -/
theorem exists_index_of_mem {α : Type} {name : α → String} {items : List α} {id : String}
    (member : id ∈ items.map name) : ∃ i < items.length, (items[i]?.map name).getD "" = id := by
  obtain ⟨item, here, rfl⟩ := List.mem_map.1 member
  obtain ⟨i, inside, rfl⟩ := List.mem_iff_getElem.1 here
  exact ⟨i, inside, by rw [List.getElem?_eq_getElem inside]; rfl⟩

namespace Matrix

variable {net : Net}

/-- The id in a row is that of a place. -/
theorem exists_place_of_row {row : Nat} {id : String}
    (rowOf : (ofNet net).places[row]? = some id) :
    ∃ p < net.places.length, net.placeId p = id := by
  have member := List.mem_of_getElem? rowOf
  rw [places_ofNet, (Text.perm_sorted _).mem_iff] at member
  exact exists_index_of_mem member

/-- The id in a column is that of a transition. -/
theorem exists_transition_of_column {column : Nat} {id : String}
    (columnOf : (ofNet net).transitions[column]? = some id) :
    ∃ t < net.transitions.length, net.transitionId t = id := by
  have member := List.mem_of_getElem? columnOf
  rw [transitions_ofNet, (Text.perm_sorted _).mem_iff] at member
  exact exists_index_of_mem member

/-- An entry counts the arcs between two ids, those to the place less those from it. -/
theorem entry_eq_arcCount (formed : net.WellFormed) {row column : Nat} {place transition : String}
    (rowOf : (ofNet net).places[row]? = some place)
    (columnOf : (ofNet net).transitions[column]? = some transition) :
    (ofNet net).entry row column =
      (net.arcCount transition place : Int) - net.arcCount place transition := by
  obtain ⟨p, placeInside, rfl⟩ := exists_place_of_row rowOf
  obtain ⟨t, transitionInside, rfl⟩ := exists_transition_of_column columnOf
  rw [entry_ofNet formed rowOf columnOf placeInside transitionInside,
    formed.entry_produced placeInside transitionInside,
    formed.entry_consumed placeInside transitionInside]

end Matrix

/-! ### Links -/

theorem Table.mem_touched_iff {table : Table Nat} {p t : Nat} :
    p ∈ table.touched t ↔ p < table.rows.length ∧ 0 < table.entry p t := by
  simp [touched]

namespace Net

/-- An arc leads between a transition and the place of a row. -/
def Touches (net : Net) (matrix : Matrix) (transition : String) (row : Nat) : Prop :=
  ∃ place, matrix.places[row]? = some place ∧
    (0 < net.arcCount place transition ∨ 0 < net.arcCount transition place)

theorem mem_conservativeLinks_iff {net : Net} {matrix : Matrix} {link : List Nat} :
    link ∈ net.conservativeLinks matrix ↔ ∃ t < net.transitions.length, ∃ column,
      matrix.transitionIndex? (net.transitionId t) = some column ∧
        matrix.isConservative column = true ∧ link = net.partners matrix t := by
  rw [conservativeLinks, List.mem_filterMap]
  constructor
  · rintro ⟨t, inside, listed⟩
    split at listed
    · rename_i column found
      obtain ⟨conservative, rfl⟩ : _ ∧ _ := by simpa using listed
      exact ⟨t, List.mem_range.1 inside, column, found, conservative, rfl⟩
    · cases listed
  · rintro ⟨t, inside, column, found, conservative, rfl⟩
    refine ⟨t, List.mem_range.2 inside, ?_⟩
    rw [found]
    exact if_pos conservative

namespace WellFormed

variable {net : Net} (formed : net.WellFormed)
include formed

/-- The partners of a transition are the rows that it touches. -/
theorem mem_partners_iff {t row : Nat} (inside : t < net.transitions.length) :
    row ∈ net.partners (Matrix.ofNet net) t ↔
      net.Touches (Matrix.ofNet net) (net.transitionId t) row := by
  have touched : ∀ p < net.places.length, p ∈ net.inputs t ++ net.outputs t ↔
      0 < net.arcCount (net.placeId p) (net.transitionId t) ∨
        0 < net.arcCount (net.transitionId t) (net.placeId p) := by
    intro p placeInside
    rw [List.mem_append, inputs, outputs, Table.mem_touched_iff, Table.mem_touched_iff,
      formed.length_consumed, formed.length_produced, formed.entry_consumed placeInside inside,
      formed.entry_produced placeInside inside]
    simp [placeInside]
  rw [partners, List.mem_filterMap]
  constructor
  · rintro ⟨p, member, found⟩
    have placeInside : p < net.places.length := by
      rcases List.mem_append.1 member with input | output
      · exact formed.length_consumed ▸ (Table.mem_touched_iff.1 input).1
      · exact formed.length_produced ▸ (Table.mem_touched_iff.1 output).1
    exact ⟨_, (Matrix.placeIndex?_ofNet_iff formed).1 found, (touched p placeInside).1 member⟩
  · rintro ⟨place, rowOf, arcs⟩
    obtain ⟨p, placeInside, rfl⟩ := Matrix.exists_place_of_row rowOf
    exact ⟨p, (touched p placeInside).2 arcs, (Matrix.placeIndex?_ofNet_iff formed).2 rowOf⟩

theorem conservativeLinks_inside : ∀ link ∈ net.conservativeLinks (Matrix.ofNet net),
    ∀ row ∈ link, row < (Matrix.ofNet net).places.length := by
  intro link member row here
  obtain ⟨t, inside, column, -, -, rfl⟩ := mem_conservativeLinks_iff.1 member
  obtain ⟨place, rowOf, -⟩ := (formed.mem_partners_iff inside).1 here
  exact (List.getElem?_eq_some_iff.1 rowOf).1

/-- Two rows are linked exactly if a conservative transition touches both. -/
theorem linked_iff {a b : Nat} :
    Linked (net.conservativeLinks (Matrix.ofNet net)) a b ↔ ∃ column transition,
      (Matrix.ofNet net).transitions[column]? = some transition ∧
        (Matrix.ofNet net).isConservative column = true ∧
        net.Touches (Matrix.ofNet net) transition a ∧
        net.Touches (Matrix.ofNet net) transition b := by
  constructor
  · rintro ⟨link, member, aIn, bIn⟩
    obtain ⟨t, inside, column, found, conservative, rfl⟩ := mem_conservativeLinks_iff.1 member
    exact ⟨column, _, (Matrix.transitionIndex?_ofNet_iff formed).1 found, conservative,
      (formed.mem_partners_iff inside).1 aIn, (formed.mem_partners_iff inside).1 bIn⟩
  · rintro ⟨column, transition, columnOf, conservative, aTouched, bTouched⟩
    obtain ⟨t, inside, rfl⟩ := Matrix.exists_transition_of_column columnOf
    refine ⟨_, mem_conservativeLinks_iff.2 ⟨t, inside, column, ?_, conservative, rfl⟩, ?_, ?_⟩
    · exact (Matrix.transitionIndex?_ofNet_iff formed).2 columnOf
    · exact (formed.mem_partners_iff inside).2 aTouched
    · exact (formed.mem_partners_iff inside).2 bTouched

end WellFormed

/-! ### Candidates -/

/-- The candidate with weight one on each of some places. -/
def candidateOn (net : Net) (matrix : Matrix) (ids : List String) : PlaceInvariant :=
  (PlaceInvariant.ofWeights net (ids.map fun id => (id, 1))).verify matrix

/-- The candidates are those on the places of the components. -/
theorem candidates_eq_map (net : Net) (labelling : Labelling) (matrix : Matrix) :
    net.candidates labelling matrix =
      (components labelling matrix.places.length (net.conservativeLinks matrix)).map fun rows =>
        net.candidateOn matrix (rows.filterMap (matrix.places[·]?)) := by
  refine List.map_congr_left fun rows _ => ?_
  rw [candidateOn, List.map_filterMap]

theorem places_candidateOn (net : Net) (matrix : Matrix) (ids : List String) :
    (net.candidateOn matrix ids).places = ids := by
  change (ids.map fun id => (id, (1 : Int))).map (·.1) = ids
  rw [List.map_map]
  exact List.map_id ids

end Net

end GuardedNet
