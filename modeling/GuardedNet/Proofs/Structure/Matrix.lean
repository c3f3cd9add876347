import Mathlib.Algebra.BigOperators.Group.List.Basic
import Mathlib.Algebra.Order.Ring.Int
import GuardedNet.Proofs.Net.Validity
import GuardedNet.Structure.Matrix

/-!
# The entries of a matrix

The rows and columns of a matrix stand in the order of the ids, those of the tables in the order
of the declarations. Main statement: at the row of a place and the column of a transition the
matrix holds what the transition gives to the place less what it takes from it
(`Matrix.entry_ofNet`).
-/

namespace GuardedNet

theorem Text.perm_sorted (texts : List String) : (sorted texts).Perm texts :=
  List.mergeSort_perm texts _

theorem Text.exists_getElem?_sorted_iff {texts : List String} {text : String} :
    (∃ i : Nat, (sorted texts)[i]? = some text) ↔ text ∈ texts := by
  rw [← List.mem_iff_getElem?, (perm_sorted _).mem_iff]

/-- What an arc adds to the entry of its place and its transition. -/
def Flow.sign (flow : Flow) : Int := if flow.isInput then -1 else 1

namespace Matrix

variable {net : Net}

/-! ### Counting arcs -/

@[simp] theorem places_count (matrix : Matrix) (flow : Flow) :
    (count net matrix flow).places = matrix.places := by
  unfold count
  split <;> rfl

@[simp] theorem transitions_count (matrix : Matrix) (flow : Flow) :
    (count net matrix flow).transitions = matrix.transitions := by
  unfold count
  split <;> rfl

/-- The arc leads between the place of the row and the transition of the column. -/
def Hits (net : Net) (matrix : Matrix) (row column : Nat) (flow : Flow) : Prop :=
  matrix.placeIndex? (net.placeId flow.place) = some row ∧
    matrix.transitionIndex? (net.transitionId flow.transition) = some column

instance (matrix : Matrix) (row column : Nat) : DecidablePred (Hits net matrix row column) :=
  fun _ => inferInstanceAs (Decidable (_ ∧ _))

/-- The table has an entry for every place and every transition. -/
def Full (matrix : Matrix) : Prop :=
  ∀ row column, row < matrix.places.length → column < matrix.transitions.length →
    (matrix.entries.get? row column).isSome

theorem Full.count {matrix : Matrix} (full : matrix.Full) (flow : Flow) :
    (count net matrix flow).Full := by
  intro row column rowInside columnInside
  have here := full row column (by simpa using rowInside) (by simpa using columnInside)
  unfold Matrix.count
  split
  · simp only [Table.get?_modify]
    split
    · simpa using here
    · exact here
  · exact here

/-- One more arc changes the entry that it hits and no other. -/
theorem entry_count {matrix : Matrix} (full : matrix.Full) (flow : Flow) (row column : Nat) :
    (count net matrix flow).entry row column =
      matrix.entry row column + if Hits net matrix row column flow then flow.sign else 0 := by
  unfold count
  split
  · rename_i r c atPlace atTransition
    have rInside := (List.findIdx?_eq_some_iff_getElem.1 atPlace).1
    have cInside := (List.findIdx?_eq_some_iff_getElem.1 atTransition).1
    obtain ⟨old, here⟩ := Option.isSome_iff_exists.1 (full r c rInside cInside)
    have hit : Hits net matrix row column flow ↔ row = r ∧ column = c := by
      simp only [Hits, atPlace, atTransition, Option.some.injEq, eq_comm]
    simp only [entry, Table.get?_modify, hit]
    split
    · rename_i same
      obtain ⟨rfl, rfl⟩ := same
      simp [here, Flow.sign]
    · simp
  · rename_i missed
    have notHit : ¬Hits net matrix row column flow := fun hit => missed _ _ hit.1 hit.2
    rw [if_neg notHit, Int.add_zero]

theorem foldl_count_ids (flows : List Flow) (matrix : Matrix) :
    (flows.foldl (count net) matrix).places = matrix.places ∧
      (flows.foldl (count net) matrix).transitions = matrix.transitions := by
  induction flows generalizing matrix with
  | nil => exact ⟨rfl, rfl⟩
  | cons flow flows ih => simpa using ih (count net matrix flow)

/-- Arcs change an entry by those of them that hit it. -/
theorem entry_foldl_count {matrix : Matrix} (full : matrix.Full) (flows : List Flow)
    (row column : Nat) :
    (flows.foldl (count net) matrix).entry row column = matrix.entry row column +
      (flows.map fun flow => if Hits net matrix row column flow then flow.sign else 0).sum := by
  induction flows generalizing matrix with
  | nil => simp
  | cons flow flows ih =>
    have same : Hits net (count net matrix flow) row column = Hits net matrix row column := by
      funext other
      simp [Hits, placeIndex?, transitionIndex?]
    rw [List.foldl_cons, ih (full.count flow), entry_count full, List.map_cons, List.sum_cons,
      Int.add_assoc]
    simp only [same]

/-- The signs of picked arcs add up to the arcs from transitions less those to transitions. -/
theorem sum_sign_eq (flows : List Flow) (picks : Flow → Bool) :
    (flows.map fun flow => if picks flow then flow.sign else 0).sum =
      (flows.countP (fun flow => !flow.isInput && picks flow) : Int) -
        flows.countP fun flow => flow.isInput && picks flow := by
  induction flows with
  | nil => rfl
  | cons flow flows ih =>
    rw [List.map_cons, List.sum_cons, ih, List.countP_cons, List.countP_cons, Flow.sign]
    cases flow.isInput <;> cases picks flow <;> simp <;> omega

/-! ### The matrix of a net -/

@[simp] theorem places_ofNet (net : Net) :
    (ofNet net).places = Text.sorted (net.places.map (·.id)) :=
  (foldl_count_ids net.flows _).1

@[simp] theorem transitions_ofNet (net : Net) :
    (ofNet net).transitions = Text.sorted (net.transitions.map (·.id)) :=
  (foldl_count_ids net.flows _).2

/-- Ids that are declared in order keep their positions. -/
theorem ofNet_of_pairwise {net : Net}
    (places : (net.places.map (·.id)).Pairwise fun a b => Text.isSortedPair a b)
    (transitions : (net.transitions.map (·.id)).Pairwise fun a b => Text.isSortedPair a b) :
    ofNet net = net.flows.foldl (count net)
      ⟨net.places.map (·.id), net.transitions.map (·.id),
        Table.filled 0 net.places.length net.transitions.length⟩ := by
  simp only [ofNet, Text.sorted, List.mergeSort_of_pairwise places,
    List.mergeSort_of_pairwise transitions, List.length_map]

/-- An entry is the sum of the arcs that hit it. -/
theorem entry_ofNet_eq_sum (net : Net) (row column : Nat) :
    (ofNet net).entry row column =
      (net.flows.map fun flow =>
        if Hits net (ofNet net) row column flow then flow.sign else 0).sum := by
  let places := Text.sorted (net.places.map (·.id))
  let transitions := Text.sorted (net.transitions.map (·.id))
  let empty : Matrix :=
    ⟨places, transitions, Table.filled 0 places.length transitions.length⟩
  have full : empty.Full := by
    intro row column rowInside columnInside
    rw [Table.get?_filled, if_pos ⟨rowInside, columnInside⟩]
    rfl
  have zero : empty.entry row column = 0 := by
    rw [entry, Table.get?_filled]
    split <;> rfl
  have same : Hits net empty row column = Hits net (ofNet net) row column := by
    funext flow
    simp [Hits, placeIndex?, transitionIndex?, empty, places, transitions]
  change (net.flows.foldl (count net) empty).entry row column = _
  rw [entry_foldl_count full, zero, Int.zero_add]
  simp only [same]

/-- The rows are those of the places. -/
theorem exists_row_iff {id : String} :
    (∃ row : Nat, (ofNet net).places[row]? = some id) ↔ id ∈ net.places.map (·.id) := by
  rw [places_ofNet]
  exact Text.exists_getElem?_sorted_iff

/-- The columns are those of the transitions. -/
theorem exists_column_iff {id : String} :
    (∃ column : Nat, (ofNet net).transitions[column]? = some id) ↔
      id ∈ net.transitions.map (·.id) := by
  rw [transitions_ofNet]
  exact Text.exists_getElem?_sorted_iff

theorem placeIndex?_iff {matrix : Matrix} (distinct : matrix.places.Nodup) {id : String}
    {row : Nat} : matrix.placeIndex? id = some row ↔ matrix.places[row]? = some id :=
  findIdx?_beq_eq_some_iff distinct

section

variable (formed : net.WellFormed)
include formed

theorem nodup_places_ofNet : (ofNet net).places.Nodup := by
  rw [places_ofNet]
  exact (Text.perm_sorted _).nodup_iff.2 formed.placeIds

/-- A row belongs to a place when it holds the id of the place. -/
theorem placeIndex?_ofNet_iff {id : String} {row : Nat} :
    (ofNet net).placeIndex? id = some row ↔ (ofNet net).places[row]? = some id :=
  placeIndex?_iff (nodup_places_ofNet formed)

theorem transitionIndex?_ofNet_iff {id : String} {column : Nat} :
    (ofNet net).transitionIndex? id = some column ↔ (ofNet net).transitions[column]? = some id := by
  refine findIdx?_beq_eq_some_iff ?_
  rw [transitions_ofNet]
  exact (Text.perm_sorted _).nodup_iff.2 formed.transitionIds

/-- The entry at the row of a place and the column of a transition counts the arcs from the
transition to the place less those from the place to the transition. -/
theorem entry_ofNet {row column p t : Nat} (rowOf : (ofNet net).places[row]? = some (net.placeId p))
    (columnOf : (ofNet net).transitions[column]? = some (net.transitionId t))
    (placeInside : p < net.places.length) (transitionInside : t < net.transitions.length) :
    (ofNet net).entry row column = (net.produced.entry p t : Int) - net.consumed.entry p t := by
  have hits : ∀ flow ∈ net.flows, Hits net (ofNet net) row column flow ↔
      (flow.place == p && flow.transition == t) = true := by
    intro flow member
    obtain ⟨inside, inside'⟩ := formed.flow_inside member
    rw [Hits, placeIndex?_ofNet_iff formed, transitionIndex?_ofNet_iff formed, rowOf, columnOf,
      Option.some.injEq, Option.some.injEq, formed.placeId_inj placeInside inside,
      formed.transitionId_inj transitionInside inside', Bool.and_eq_true, beq_iff_eq, beq_iff_eq]
    exact and_congr eq_comm eq_comm
  have summed : (ofNet net).entry row column = (net.flows.map fun flow =>
      if flow.place == p && flow.transition == t then flow.sign else 0).sum := by
    rw [entry_ofNet_eq_sum]
    refine congrArg List.sum (List.map_congr_left fun flow member => ?_)
    simp only [hits flow member]
  rw [summed, sum_sign_eq, formed.entry_eq_countP formed.produced,
    formed.entry_eq_countP formed.consumed]

end

end Matrix

end GuardedNet
