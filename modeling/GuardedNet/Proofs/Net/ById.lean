import Mathlib.Algebra.BigOperators.Group.List.Basic
import Mathlib.Algebra.Order.Ring.Int
import Mathlib.Data.List.Nodup
import GuardedNet.Proofs.Net.Validity

/-!
# Nets read by ids

The tables of a net count arcs by positions. Here they are read by ids: an entry is the number of
arcs between two ids (`Net.WellFormed.entry_table`), the totals of rows and columns are the numbers
of arcs into and out of an id (`total_row_consumed` and the others), and a transition has no inputs
or outputs exactly if no arc leads that way (`isEmpty_inputs_iff`, `isEmpty_outputs_iff`).
-/

namespace GuardedNet

/-- The ends of an arc. -/
def Arc.ends (arc : Arc) : String × String := (arc.source, arc.target)

/-- The ends of an arc of a direction between a place and a transition. -/
def Direction.ends (place transition : String) : Direction → String × String
  | .input => (place, transition)
  | .output => (transition, place)

/-- An arc of a direction between a place and a transition; if only plain arcs count it has no
keys. -/
def Arc.isCounted (direction : Direction) (plain : Bool) (place transition : String) (arc : Arc) :
    Bool :=
  arc.ends == direction.ends place transition && !(plain && arc.isKeyed)

namespace Net

/-- The number of arcs from one id to another. -/
def arcCount (net : Net) (source target : String) : Nat :=
  (net.arcs.map Arc.ends).count (source, target)

/-- The number of arcs out of an id. -/
def arcsFrom (net : Net) (id : String) : Nat := ((net.arcs.map Arc.ends).map (·.1)).count id

/-- The number of arcs into an id. -/
def arcsInto (net : Net) (id : String) : Nat := ((net.arcs.map Arc.ends).map (·.2)).count id

/-- The declared tokens of the place with an id; an unknown place has none. -/
def declaredTokens (net : Net) (id : String) : Int :=
  ((net.places.find? (·.id == id)).map Place.initialTokens).getD 0

/-- The table that counts the arcs of a direction, all of them or only those without keys. -/
def table (net : Net) : Direction → Bool → Table Nat
  | .input, false => net.consumed
  | .output, false => net.produced
  | .input, true => net.plainConsumed
  | .output, true => net.plainProduced

/-- The ids that an arc between positions joins, in its direction. -/
def flowEnds (net : Net) (flow : Flow) : String × String :=
  if flow.isInput then (net.placeId flow.place, net.transitionId flow.transition)
  else (net.transitionId flow.transition, net.placeId flow.place)

end Net

/-! ### Counting by keys -/

theorem sum_ite_beq {α : Type} [DecidableEq α] (keys : List α) (key : α) :
    (keys.map fun other => if key == other then 1 else 0).sum = keys.count key := by
  induction keys with
  | nil => rfl
  | cons other keys ih =>
    rw [List.map_cons, List.sum_cons, ih, List.count_cons, Nat.add_comm, Bool.beq_comm]

/-- Items counted key by key are all counted once. -/
theorem sum_countP_key {α : Type} {keys : List Nat} (distinct : keys.Nodup) {items : List α}
    (picks : α → Bool) {key : α → Nat} (inside : ∀ item ∈ items, key item ∈ keys) :
    (keys.map fun k => items.countP fun item => picks item && key item == k).sum =
      items.countP picks := by
  induction items with
  | nil => simp
  | cons item items ih =>
    have later := ih fun other member => inside other (List.mem_cons_of_mem _ member)
    have once := List.count_eq_one_of_mem distinct (inside item (List.mem_cons_self ..))
    simp only [List.countP_cons, List.sum_map_add, later]
    cases picks item with
    | false => simp
    | true => simp only [Bool.true_and, sum_ite_beq, once, if_true]

/-! ### Rows -/

namespace Table

theorem length_row_increment (table : Table Nat) (p t q : Nat) :
    ((table.increment p t).row q).length = (table.row q).length := by
  simp only [increment, modify, row, List.getElem?_modify]
  cases table.rows[q]? with
  | none => simp
  | some row =>
    by_cases same : p = q <;> simp [same]

/-- A row holds the entries of its place in the order of the transitions. -/
theorem row_eq_map_entry (table : Table Nat) (p : Nat) :
    table.row p = (List.range (table.row p).length).map (table.entry p) := by
  refine List.ext_getElem (by simp) fun t inside _ => ?_
  simp [entry, get?, inside]

/-- A column holds the entries of its transition in the order of the places. -/
theorem column_eq_map_entry (table : Table Nat) (t : Nat) :
    table.column t = (List.range table.rows.length).map fun p => table.entry p t := by
  refine List.ext_getElem? fun p => ?_
  rw [getElem?_column, List.getElem?_map]
  by_cases inside : p < table.rows.length <;> simp [inside]

theorem isEmpty_touched_iff {table : Table Nat} {t : Nat} :
    (table.touched t).isEmpty = true ↔ ¬0 < table.columnTotal t := by
  rw [List.isEmpty_iff, touched, List.filter_eq_nil_iff, columnTotal, column_eq_map_entry,
    Number.total_pos_iff]
  simp

end Table

theorem Document.length_row_count (d : Document) (flows : List Flow) (picks : Flow → Bool) {p : Nat}
    (inside : p < d.places.length) :
    ((d.count flows picks).row p).length = d.transitions.length := by
  have keep : ∀ table : Table Nat,
      ((flows.foldl (fun table flow =>
        if picks flow then table.increment flow.place flow.transition else table)
        table).row p).length = (table.row p).length := by
    induction flows with
    | nil => intro table; rfl
    | cons flow flows ih =>
      intro table
      rw [List.foldl_cons, ih]
      split
      · exact Table.length_row_increment table _ _ _
      · rfl
  rw [count, keep]
  simp [Table.filled, Table.row, inside]

/-- A count has an entry for each place and each transition, and no others. -/
theorem Document.get?_count (d : Document) (flows : List Flow) (picks : Flow → Bool) (p t : Nat) :
    (d.count flows picks).get? p t =
      if p < d.places.length ∧ t < d.transitions.length
      then some ((d.count flows picks).entry p t) else none := by
  rw [Table.entry, Table.get?]
  by_cases placeInside : p < d.places.length
  · have length := d.length_row_count flows picks placeInside
    by_cases inside : t < d.transitions.length
    · rw [if_pos ⟨placeInside, inside⟩, List.getElem?_eq_getElem (length ▸ inside)]
      rfl
    · rw [if_neg fun both => inside both.2, List.getElem?_eq_none (by omega)]
  · have outside : (d.count flows picks).rows[p]? = none :=
      List.getElem?_eq_none (by rw [d.length_rows_count]; omega)
    rw [if_neg fun both => placeInside both.1, Table.row, outside]
    rfl

theorem Net.countP_isCounted (net : Net) (direction : Direction) (place transition : String) :
    net.arcs.countP (Arc.isCounted direction false place transition) =
      net.arcCount (direction.ends place transition).1 (direction.ends place transition).2 := by
  rw [arcCount, List.count, List.countP_map]
  refine List.countP_congr fun arc _ => ?_
  simp [Arc.isCounted]

theorem Net.arcsFrom_pos_iff {net : Net} {id : String} :
    0 < net.arcsFrom id ↔ ∃ arc ∈ net.arcs, arc.source = id := by
  simp [arcsFrom, List.count_pos_iff, Arc.ends]

theorem Net.arcsInto_pos_iff {net : Net} {id : String} :
    0 < net.arcsInto id ↔ ∃ arc ∈ net.arcs, arc.target = id := by
  simp [arcsInto, List.count_pos_iff, Arc.ends]

theorem Net.placeId_mem {net : Net} {p : Nat} (inside : p < net.places.length) :
    net.placeId p ∈ net.places.map (·.id) := id_mem inside

theorem Net.transitionId_mem {net : Net} {t : Nat} (inside : t < net.transitions.length) :
    net.transitionId t ∈ net.transitions.map (·.id) := id_mem inside

namespace Net.WellFormed

variable {net : Net} (formed : net.WellFormed)
include formed

theorem placeId_ne_transitionId {p t : Nat} (placeInside : p < net.places.length)
    (transitionInside : t < net.transitions.length) : net.placeId p ≠ net.transitionId t := by
  intro same
  exact formed.idsApart _ (transitionId_mem transitionInside) (same ▸ placeId_mem placeInside)

theorem declaredTokens_id {place : Place} (member : place ∈ net.places) :
    net.declaredTokens place.id = place.initialTokens := by
  have found : net.places.find? (·.id == place.id) = some place := by
    cases found : net.places.find? (·.id == place.id) with
    | none => exact absurd (List.find?_eq_none.1 found place member) (by simp)
    | some other =>
      have named : other.id = place.id := by simpa using List.find?_some found
      rw [List.inj_on_of_nodup_map formed.placeIds (List.mem_of_find?_eq_some found) member named]
  rw [declaredTokens, found]
  rfl

/-- An arc has the ends that its positions name. -/
theorem ends_eq_flowEnds {arc : Arc} {flow : Flow} (joins : net.document.Joins arc flow) :
    arc.ends = net.flowEnds flow := by
  have atPlace := formed.placeIndex?_eq_some_iff.1 joins.place
  have atTransition := formed.transitionIndex?_eq_some_iff.1 joins.transition
  unfold Arc.ends flowEnds placeId transitionId
  rw [atPlace, atTransition]
  cases flow.isInput <;> rfl

/-- Arcs have the ends that their positions name, and keys where they are marked as keyed. -/
theorem map_ends_isKeyed : net.arcs.map (fun arc => (arc.ends, arc.isKeyed)) =
    net.flows.map fun flow => (net.flowEnds flow, flow.keyed) := by
  have joins := formed.joins
  have each := fun arc flow => @formed.ends_eq_flowEnds _ arc flow
  generalize net.flows = flows at joins ⊢
  generalize net.arcs = arcs at joins ⊢
  induction joins with
  | nil => rfl
  | cons first _ ih => rw [List.map_cons, List.map_cons, each _ _ first, ih, first.keyed]

theorem map_ends : net.arcs.map Arc.ends = net.flows.map net.flowEnds := by
  have ends := congrArg (List.map Prod.fst) formed.map_ends_isKeyed
  rw [List.map_map, List.map_map] at ends
  exact ends

theorem flowEnds_eq_placeId {flow : Flow} (member : flow ∈ net.flows) {p : Nat}
    (inside : p < net.places.length) :
    ((net.flowEnds flow).1 = net.placeId p ↔ flow.isInput = true ∧ flow.place = p) ∧
      ((net.flowEnds flow).2 = net.placeId p ↔ flow.isInput = false ∧ flow.place = p) := by
  obtain ⟨placeInside, transitionInside⟩ := formed.flow_inside member
  have same := formed.placeId_inj placeInside inside
  have apart := (formed.placeId_ne_transitionId inside transitionInside).symm
  cases input : flow.isInput <;> simp [flowEnds, input, same, apart]

theorem flowEnds_eq_transitionId {flow : Flow} (member : flow ∈ net.flows) {t : Nat}
    (inside : t < net.transitions.length) :
    ((net.flowEnds flow).1 = net.transitionId t ↔ flow.isInput = false ∧ flow.transition = t) ∧
      ((net.flowEnds flow).2 = net.transitionId t ↔ flow.isInput = true ∧ flow.transition = t) := by
  obtain ⟨placeInside, transitionInside⟩ := formed.flow_inside member
  have same := formed.transitionId_inj transitionInside inside
  have apart := formed.placeId_ne_transitionId placeInside inside
  cases input : flow.isInput <;> simp [flowEnds, input, same, apart]

/-! ### Entries -/

theorem table_eq (direction : Direction) (plain : Bool) :
    net.table direction plain = net.document.count net.flows fun flow =>
      flow.direction == direction && !(plain && flow.keyed) := by
  cases direction <;> cases plain
  · rw [table, formed.consumed]
    congr 1
    funext flow
    simp [Flow.isInput]
  · rw [table, formed.plainConsumed]
    rfl
  · rw [table, formed.produced]
    congr 1
    funext flow
    cases towards : flow.direction <;> simp [Flow.isInput, towards]
  · rw [table, formed.plainProduced]
    congr 1
    funext flow
    cases towards : flow.direction <;> simp [Flow.isInput, towards]

section

variable {p t : Nat} (placeInside : p < net.places.length)
  (transitionInside : t < net.transitions.length)
include placeInside transitionInside

theorem flowEnds_eq_ends {flow : Flow} (member : flow ∈ net.flows) (direction : Direction) :
    net.flowEnds flow = direction.ends (net.placeId p) (net.transitionId t) ↔
      flow.direction = direction ∧ flow.place = p ∧ flow.transition = t := by
  obtain ⟨sourcePlace, targetPlace⟩ := formed.flowEnds_eq_placeId member placeInside
  obtain ⟨sourceTransition, targetTransition⟩ :=
    formed.flowEnds_eq_transitionId member transitionInside
  have input : flow.isInput = true ↔ flow.direction = .input := beq_iff_eq
  have output : flow.isInput = false ↔ flow.direction = .output := by
    rw [← Bool.not_eq_true, input]
    cases flow.direction <;> decide
  cases direction with
  | input => rw [Direction.ends, Prod.ext_iff, sourcePlace, targetTransition, input, ← and_and_left]
  | output =>
    rw [Direction.ends, Prod.ext_iff, sourceTransition, targetPlace, output, ← and_and_left,
      and_comm (a := flow.transition = t)]

/-- An entry of a table is the number of arcs that it counts. -/
theorem entry_table (direction : Direction) (plain : Bool) :
    (net.table direction plain).entry p t =
      net.arcs.countP (Arc.isCounted direction plain (net.placeId p) (net.transitionId t)) := by
  have parts : net.arcs.countP
      (Arc.isCounted direction plain (net.placeId p) (net.transitionId t)) =
      (net.arcs.map fun arc => (arc.ends, arc.isKeyed)).countP fun arc =>
        arc.1 == direction.ends (net.placeId p) (net.transitionId t) && !(plain && arc.2) := by
    rw [List.countP_map]
    rfl
  rw [formed.entry_eq_countP (formed.table_eq direction plain), parts, formed.map_ends_isKeyed,
    List.countP_map]
  refine List.countP_congr fun flow member => ?_
  have ends := formed.flowEnds_eq_ends placeInside transitionInside member direction
  simp only [Function.comp_apply, Bool.and_eq_true, beq_iff_eq, ends]
  tauto

/-- What a transition takes from a place are the arcs from the one to the other. -/
theorem entry_consumed :
    net.consumed.entry p t = net.arcCount (net.placeId p) (net.transitionId t) :=
  (formed.entry_table placeInside transitionInside .input false).trans
    (net.countP_isCounted .input _ _)

/-- What a transition gives to a place are the arcs from the one to the other. -/
theorem entry_produced :
    net.produced.entry p t = net.arcCount (net.transitionId t) (net.placeId p) :=
  (formed.entry_table placeInside transitionInside .output false).trans
    (net.countP_isCounted .output _ _)

end

/-- A table has an entry for each place and each transition, the number of arcs that it counts
between them, and no others. -/
theorem get?_table (direction : Direction) (plain : Bool) (p t : Nat) :
    (net.table direction plain).get? p t = (net.places[p]?).bind fun place =>
      (net.transitions[t]?).map fun transition =>
        net.arcs.countP (Arc.isCounted direction plain place.id transition.id) := by
  rw [formed.table_eq, Document.get?_count, ← formed.table_eq]
  by_cases placeInside : p < net.places.length
  · by_cases transitionInside : t < net.transitions.length
    · have entry := formed.entry_table placeInside transitionInside direction plain
      rw [if_pos ⟨placeInside, transitionInside⟩, entry, placeId, transitionId,
        List.getElem?_eq_getElem placeInside, List.getElem?_eq_getElem transitionInside]
      rfl
    · rw [if_neg fun both => transitionInside both.2,
        List.getElem?_eq_none (Nat.le_of_not_lt transitionInside)]
      cases net.places[p]? <;> rfl
  · rw [if_neg fun both => placeInside both.1,
      List.getElem?_eq_none (Nat.le_of_not_lt placeInside)]
    rfl

/-! ### Totals -/

/-- The total of a row is the number of picked arcs at its place. -/
theorem total_row {table : Table Nat} {picks : Flow → Bool}
    (counted : table = net.document.count net.flows picks) {p : Nat}
    (inside : p < net.places.length) :
    Number.total (table.row p) = net.flows.countP fun flow => picks flow && flow.place == p := by
  rw [table.row_eq_map_entry, counted, Document.length_row_count _ _ _ inside, ← counted]
  have entries : table.entry p = fun t => net.flows.countP fun flow =>
      (picks flow && flow.place == p) && flow.transition == t := by
    funext t
    rw [formed.entry_eq_countP counted]
    simp only [Bool.and_assoc]
  rw [entries]
  exact sum_countP_key List.nodup_range _ fun flow member =>
    List.mem_range.2 (formed.flow_inside member).2

/-- The total of a column is the number of picked arcs at its transition. -/
theorem columnTotal {table : Table Nat} {picks : Flow → Bool}
    (counted : table = net.document.count net.flows picks) (t : Nat) :
    table.columnTotal t = net.flows.countP fun flow => picks flow && flow.transition == t := by
  have length : table.rows.length = net.places.length := by
    rw [counted, Document.length_rows_count]
    rfl
  have entries : (fun p => table.entry p t) = fun p => net.flows.countP fun flow =>
      (picks flow && flow.transition == t) && flow.place == p := by
    funext p
    rw [formed.entry_eq_countP counted]
    simp only [Bool.and_comm, Bool.and_left_comm]
  rw [Table.columnTotal, table.column_eq_map_entry, length, entries]
  exact sum_countP_key List.nodup_range _ fun flow member =>
    List.mem_range.2 (formed.flow_inside member).1

theorem total_row_consumed {p : Nat} (inside : p < net.places.length) :
    Number.total (net.consumed.row p) = net.arcsFrom (net.placeId p) := by
  rw [formed.total_row formed.consumed inside, arcsFrom, formed.map_ends, List.map_map, List.count,
    List.countP_map]
  refine List.countP_congr fun flow member => ?_
  simp [(formed.flowEnds_eq_placeId member inside).1]

theorem total_row_produced {p : Nat} (inside : p < net.places.length) :
    Number.total (net.produced.row p) = net.arcsInto (net.placeId p) := by
  rw [formed.total_row formed.produced inside, arcsInto, formed.map_ends, List.map_map, List.count,
    List.countP_map]
  refine List.countP_congr fun flow member => ?_
  simp [(formed.flowEnds_eq_placeId member inside).2]

theorem columnTotal_consumed {t : Nat} (inside : t < net.transitions.length) :
    net.consumed.columnTotal t = net.arcsInto (net.transitionId t) := by
  rw [formed.columnTotal formed.consumed, arcsInto, formed.map_ends, List.map_map, List.count,
    List.countP_map]
  refine List.countP_congr fun flow member => ?_
  simp [(formed.flowEnds_eq_transitionId member inside).2]

theorem columnTotal_produced {t : Nat} (inside : t < net.transitions.length) :
    net.produced.columnTotal t = net.arcsFrom (net.transitionId t) := by
  rw [formed.columnTotal formed.produced, arcsFrom, formed.map_ends, List.map_map, List.count,
    List.countP_map]
  refine List.countP_congr fun flow member => ?_
  simp [(formed.flowEnds_eq_transitionId member inside).1]

/-- A transition takes from no place exactly if no arc leads into it. -/
theorem isEmpty_inputs_iff {t : Nat} (inside : t < net.transitions.length) :
    (net.inputs t).isEmpty = true ↔ ¬∃ arc ∈ net.arcs, arc.target = net.transitionId t := by
  rw [inputs, Table.isEmpty_touched_iff, formed.columnTotal_consumed inside, arcsInto_pos_iff]

/-- A transition gives to no place exactly if no arc leads out of it. -/
theorem isEmpty_outputs_iff {t : Nat} (inside : t < net.transitions.length) :
    (net.outputs t).isEmpty = true ↔ ¬∃ arc ∈ net.arcs, arc.source = net.transitionId t := by
  rw [outputs, Table.isEmpty_touched_iff, formed.columnTotal_produced inside, arcsFrom_pos_iff]

end Net.WellFormed

/-- Two coins for a note. -/
def exchange : Document where
  name := "exchange"
  version := "1"
  places := [⟨"coin", .token, .int 3, true, none⟩, ⟨"note", .token, .int 0, true, none⟩]
  transitions := [{ id := "change", guard := none, rate := 1.0 }]
  arcs := [⟨"coin", "change", [], none⟩, ⟨"coin", "change", [], none⟩,
    ⟨"change", "note", [], none⟩]
  invariants := []

example : ∃ net, Net.ofDocument exchange = .ok net ∧ net.arcCount "coin" "change" = 2 ∧
    (net.table .input true).entry 0 0 = 2 := ⟨_, rfl, by decide, by decide⟩

end GuardedNet
