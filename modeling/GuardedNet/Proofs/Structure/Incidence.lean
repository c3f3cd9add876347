import GuardedNet.Proofs.Net.ById
import GuardedNet.Proofs.Structure.Matrix
import GuardedNet.Proofs.Text.Sorted

/-!
# The matrix and the tables

What a net does is written down twice: the tables count arcs to and from places in the order of the
declarations, the matrix adds up signs in the order of the ids, at positions that are searched for.
Main statement: every search succeeds, and the matrix holds the difference of the tables
(`Matrix.ofNet_exact`).
-/

namespace GuardedNet

/-! ### Differences of tables -/

namespace Table

theorem get?_difference {table other : Table Nat} {p t l r : Nat} (left : table.get? p t = some l)
    (right : other.get? p t = some r) :
    (table.difference other).get? p t = some (asBounded l - asBounded r) := by
  unfold get? row at left right
  cases here : table.rows[p]? with
  | none => simp [here] at left
  | some row =>
    cases there : other.rows[p]? with
    | none => simp [there] at right
    | some row' =>
      rw [here, Option.getD_some] at left
      rw [there, Option.getD_some] at right
      simp [get?, Table.row, difference, List.getElem?_zipWith, here, there, left, right]

/-- A count that a bounded integer can hold is read as itself. -/
theorem asBounded_eq {count : Nat} (few : count < 2 ^ 63) : asBounded count = count := by
  rw [asBounded, if_pos]
  unfold Number.greatest
  omega

end Table

namespace Net.WellFormed

variable {net : Net} (formed : net.WellFormed) {p t : Nat} (placeInside : p < net.places.length)
  (transitionInside : t < net.transitions.length)
include formed placeInside transitionInside

theorem get?_eq_entry (direction : Direction) (plain : Bool) :
    (net.table direction plain).get? p t = some ((net.table direction plain).entry p t) := by
  rw [formed.table_eq direction plain, Document.get?_count]
  exact if_pos ⟨placeInside, transitionInside⟩

/-- No entry counts more arcs than there are. -/
theorem entry_le (direction : Direction) (plain : Bool) :
    (net.table direction plain).entry p t ≤ net.arcs.length := by
  rw [formed.entry_table placeInside transitionInside]
  exact List.countP_le_length

theorem get?_difference (few : net.arcs.length < 2 ^ 63) :
    (net.produced.difference net.consumed).get? p t =
      some ((net.produced.entry p t : Int) - net.consumed.entry p t) := by
  have given := formed.get?_eq_entry placeInside transitionInside .output false
  have taken := formed.get?_eq_entry placeInside transitionInside .input false
  have fewGiven := formed.entry_le placeInside transitionInside .output false
  have fewTaken := formed.entry_le placeInside transitionInside .input false
  have difference := Table.get?_difference given taken
  rwa [Table.asBounded_eq (Nat.lt_of_le_of_lt fewGiven few),
    Table.asBounded_eq (Nat.lt_of_le_of_lt fewTaken few)] at difference

end Net.WellFormed

namespace Matrix

variable {net : Net}

/-! ### Searching for rows and columns -/

/-- The matrix with one arc more, at the row and the column that searches by halves find. There is
none if one of the two finds nothing. -/
def count? (net : Net) (matrix : Matrix) (flow : Flow) : Option Matrix := do
  let row ← Text.bisect? matrix.places (net.placeId flow.place)
  let column ← Text.bisect? matrix.transitions (net.transitionId flow.transition)
  return { matrix with entries := matrix.entries.modify row column (· + flow.sign) }

/-- The matrix of a net before any arc is counted. -/
def blank (net : Net) : Matrix :=
  let places := Text.sorted (net.places.map (·.id))
  let transitions := Text.sorted (net.transitions.map (·.id))
  ⟨places, transitions, Table.filled 0 places.length transitions.length⟩

/-- The matrix of a net, if every search on the way finds what it looks for. -/
def ofNet? (net : Net) : Option Matrix := net.flows.foldlM (count? net) (blank net)

/-- The ids in strictly increasing order. -/
structure Ordered (names ids : List String) : Prop where
  increases : names.Pairwise (· < ·)
  mem_iff : ∀ id, id ∈ names ↔ id ∈ ids

theorem ordered_sorted {ids : List String} (distinct : ids.Nodup) :
    Ordered (Text.sorted ids) ids where
  increases := Text.pairwise_sorted distinct
  mem_iff _ := (Text.perm_sorted _).mem_iff

namespace Ordered

variable {names ids : List String} (ordered : Ordered names ids)
include ordered

/-- A search by halves finds what a search from the front does. -/
theorem bisect?_eq (id : String) : Text.bisect? names id = names.findIdx? (· == id) := by
  refine Option.ext fun i => ?_
  rw [Text.bisect?_eq_some_iff ordered.increases,
    findIdx?_beq_eq_some_iff (ordered.increases.imp ne_of_lt)]

/-- The ids are found, and nothing else is. -/
theorem isSome_findIdx?_iff (id : String) : (names.findIdx? (· == id)).isSome ↔ id ∈ ids := by
  rw [List.findIdx?_isSome, ← ordered.mem_iff]
  simp

theorem exists_findIdx? {id : String} (member : id ∈ ids) :
    ∃ i, names.findIdx? (· == id) = some i :=
  Option.isSome_iff_exists.1 ((ordered.isSome_findIdx?_iff id).2 member)

end Ordered

/-- The ids of the matrix are those of the net, in strictly increasing order. -/
structure Lists (matrix : Matrix) (net : Net) : Prop where
  places : Ordered matrix.places (net.places.map (·.id))
  transitions : Ordered matrix.transitions (net.transitions.map (·.id))

theorem lists_blank (formed : net.WellFormed) : (blank net).Lists net where
  places := ordered_sorted formed.placeIds
  transitions := ordered_sorted formed.transitionIds

namespace Lists

variable {matrix : Matrix} (lists : matrix.Lists net)
include lists

theorem of_ids {other : Matrix} (places : other.places = matrix.places)
    (transitions : other.transitions = matrix.transitions) : other.Lists net :=
  ⟨places ▸ lists.places, transitions ▸ lists.transitions⟩

/-- Both ends of an arc of the net are found. -/
theorem count?_eq (formed : net.WellFormed) {flow : Flow} (member : flow ∈ net.flows) :
    count? net matrix flow = some (count net matrix flow) := by
  obtain ⟨placeInside, transitionInside⟩ := formed.flow_inside member
  obtain ⟨row, rowOf⟩ := lists.places.exists_findIdx? (Net.placeId_mem placeInside)
  obtain ⟨column, columnOf⟩ :=
    lists.transitions.exists_findIdx? (Net.transitionId_mem transitionInside)
  rw [count?, lists.places.bisect?_eq, lists.transitions.bisect?_eq, count, placeIndex?,
    transitionIndex?, rowOf, columnOf]
  rfl

/-- No arc of the net is left out. -/
theorem foldlM_count? (formed : net.WellFormed) {flows : List Flow}
    (members : ∀ flow ∈ flows, flow ∈ net.flows) :
    flows.foldlM (count? net) matrix = some (flows.foldl (count net) matrix) := by
  apply foldlM_eq_some_foldl (Lists · net)
  · intro matrix lists flow member
    exact ⟨lists.count?_eq formed (members flow member),
      lists.of_ids (places_count matrix flow) (transitions_count matrix flow)⟩
  · exact lists

end Lists

theorem lists_ofNet (formed : net.WellFormed) : (ofNet net).Lists net :=
  (lists_blank formed).of_ids (foldl_count_ids net.flows _).1 (foldl_count_ids net.flows _).2

/-! ### Entries -/

theorem Full.foldl_count {matrix : Matrix} (full : matrix.Full) (flows : List Flow) :
    (flows.foldl (Matrix.count net) matrix).Full := by
  induction flows generalizing matrix with
  | nil => exact full
  | cons flow flows ih => exact ih (full.count flow)

theorem full_ofNet (net : Net) : (ofNet net).Full := by
  have blank : (blank net).Full := by
    intro row column rowInside columnInside
    rw [Matrix.blank, Table.get?_filled, if_pos ⟨rowInside, columnInside⟩]
    rfl
  exact blank.foldl_count net.flows

theorem get?_eq_entry {matrix : Matrix} (full : matrix.Full) {row column : Nat}
    (rowInside : row < matrix.places.length) (columnInside : column < matrix.transitions.length) :
    matrix.entries.get? row column = some (matrix.entry row column) := by
  obtain ⟨n, here⟩ := Option.isSome_iff_exists.1 (full row column rowInside columnInside)
  rw [entry, here]
  rfl

/-- The matrix of a net against its tables. The ids of rows and columns increase strictly, a search
for an id succeeds exactly if the net declares it, by halves just as from the front, and none of
the searches that build the matrix fails. At the row of a place and the column of a transition
stands what the transition gives to the place less what it takes, which is also what the
difference of the tables holds, as long as there are not more arcs than bounded integers count. -/
theorem ofNet_exact {d : Document} {net : Net} (valid : Net.ofDocument d = .ok net) :
    let matrix := ofNet net
    matrix.places.Pairwise (· < ·) ∧ matrix.transitions.Pairwise (· < ·) ∧
    (∀ id, (matrix.placeIndex? id).isSome ↔ id ∈ net.places.map (·.id)) ∧
    (∀ id, (matrix.transitionIndex? id).isSome ↔ id ∈ net.transitions.map (·.id)) ∧
    (∀ id, Text.bisect? matrix.places id = matrix.placeIndex? id ∧
      Text.bisect? matrix.transitions id = matrix.transitionIndex? id) ∧
    ofNet? net = some matrix ∧
    ∀ (p t : Nat) (place : Place) (transition : Transition),
      net.places[p]? = some place → net.transitions[t]? = some transition →
      ∃ row column post pre : Nat, matrix.placeIndex? place.id = some row ∧
        matrix.transitionIndex? transition.id = some column ∧
        net.produced.get? p t = some post ∧ net.consumed.get? p t = some pre ∧
        matrix.entries.get? row column = some (matrix.entry row column) ∧
        matrix.entry row column = (post : Int) - pre ∧
        (net.arcs.length < 2 ^ 63 → (net.produced.difference net.consumed).get? p t =
          some (matrix.entry row column)) := by
  intro matrix
  have formed := Net.wellFormed_of_ofDocument valid
  have lists : matrix.Lists net := lists_ofNet formed
  refine ⟨lists.places.increases, lists.transitions.increases, lists.places.isSome_findIdx?_iff,
    lists.transitions.isSome_findIdx?_iff,
    fun id => ⟨lists.places.bisect?_eq id, lists.transitions.bisect?_eq id⟩,
    (lists_blank formed).foldlM_count? formed fun _ member => member, ?_⟩
  intro p t place transition here there
  have placeInside := (List.getElem?_eq_some_iff.1 here).1
  have transitionInside := (List.getElem?_eq_some_iff.1 there).1
  have placeNamed : net.placeId p = place.id := by rw [Net.placeId, here]; rfl
  have transitionNamed : net.transitionId t = transition.id := by rw [Net.transitionId, there]; rfl
  obtain ⟨row, atRow⟩ := lists.places.exists_findIdx? (Net.placeId_mem placeInside)
  obtain ⟨column, atColumn⟩ :=
    lists.transitions.exists_findIdx? (Net.transitionId_mem transitionInside)
  have rowOf := (placeIndex?_ofNet_iff formed).1 atRow
  have columnOf := (transitionIndex?_ofNet_iff formed).1 atColumn
  have entry : matrix.entry row column =
      (net.produced.entry p t : Int) - net.consumed.entry p t :=
    entry_ofNet formed rowOf columnOf placeInside transitionInside
  refine ⟨row, column, _, _, placeNamed ▸ atRow, transitionNamed ▸ atColumn,
    formed.get?_eq_entry placeInside transitionInside .output false,
    formed.get?_eq_entry placeInside transitionInside .input false, ?_, entry, fun few => ?_⟩
  · exact get?_eq_entry (full_ofNet net) (List.getElem?_eq_some_iff.1 rowOf).1
      (List.getElem?_eq_some_iff.1 columnOf).1
  · rw [entry]
    exact formed.get?_difference placeInside transitionInside few

/-- A loom that takes wool three times and gives one part back. The ids are declared out of
order. -/
def loom : Document where
  name := "loom"
  version := "1"
  places := [⟨"wool", .token, .int 5, false, none⟩, ⟨"cloth", .token, .int 0, true, none⟩]
  transitions := [{ id := "weave", guard := none, rate := 1.0 },
    { id := "mend", guard := none, rate := 1.0 }]
  arcs := [⟨"wool", "weave", [], none⟩, ⟨"weave", "wool", [], none⟩, ⟨"wool", "weave", [], none⟩,
    ⟨"weave", "cloth", [], none⟩, ⟨"wool", "mend", [], none⟩, ⟨"wool", "weave", [], none⟩]
  invariants := []

/-- Weaving leaves two parts of wool less, in the matrix and in the tables. -/
theorem ofNet_exact_loom :
    ∃ net, Net.ofDocument loom = .ok net ∧ ofNet? net = some (ofNet net) ∧
      (net.produced.difference net.consumed).get? 0 0 = some (-2) ∧
      ∃ row column, (ofNet net).placeIndex? "wool" = some row ∧
        (ofNet net).transitionIndex? "weave" = some column ∧
        (ofNet net).entries.get? row column = some (-2) := by
  refine ⟨_, rfl, ?_⟩
  obtain ⟨-, -, -, -, -, built, agrees⟩ := ofNet_exact (d := loom) rfl
  obtain ⟨row, column, post, pre, atRow, atColumn, given, taken, here, entry, difference⟩ :=
    agrees 0 0 _ _ rfl rfl
  obtain rfl : 1 = post := Option.some.inj given
  obtain rfl : 3 = pre := Option.some.inj taken
  rw [entry] at here difference
  exact ⟨built, difference (by decide), row, column, atRow, atColumn, here⟩

end Matrix

end GuardedNet
