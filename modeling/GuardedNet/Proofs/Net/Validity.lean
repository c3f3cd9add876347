import Mathlib.Data.List.Forall2
import GuardedNet.Net.Basic
import GuardedNet.Proofs.Outcome

/-!
# What validation promises

A document that passes has distinct ids, every arc of it joins a place and a transition, an arc
with keys only a data place, and the tables count the arcs. Main statement: a net that comes
from a document is well formed (`Net.wellFormed_of_ofDocument`).
-/

namespace GuardedNet

/-! ### Positions of ids -/

/-- Among distinct ids, the first position of an id is any position that holds it. -/
theorem findIdx?_beq_eq_some_iff {ids : List String} (distinct : ids.Nodup) {id : String}
    {i : Nat} : ids.findIdx? (· == id) = some i ↔ ids[i]? = some id := by
  rw [List.findIdx?_eq_some_iff_getElem, List.getElem?_eq_some_iff]
  constructor
  · rintro ⟨inside, named, -⟩
    exact ⟨inside, by simpa using named⟩
  · rintro ⟨inside, named⟩
    refine ⟨inside, by simpa using named, fun j before same => ?_⟩
    have apart := List.pairwise_iff_getElem.1 distinct j i (by omega) inside before
    exact apart (by rw [named]; simpa using same)

section Ids

variable {α : Type} {items : List α} {idOf : α → String}

/-- What is found by an id has it. -/
theorem exists_of_findIdx?_id {id : String} {i : Nat}
    (found : items.findIdx? (fun item => idOf item == id) = some i) :
    ∃ item, items[i]? = some item ∧ idOf item = id := by
  obtain ⟨inside, named, -⟩ := List.findIdx?_eq_some_iff_getElem.1 found
  exact ⟨items[i], List.getElem?_eq_getElem inside, by simpa using named⟩

theorem findIdx?_id_eq_none_iff {id : String} :
    items.findIdx? (fun item => idOf item == id) = none ↔ id ∉ items.map idOf := by
  simp [List.findIdx?_eq_none_iff]

theorem id_mem {i : Nat} (inside : i < items.length) :
    (items[i]?.map idOf).getD "" ∈ items.map idOf := by
  rw [List.getElem?_eq_getElem inside]
  exact List.mem_map_of_mem (List.getElem_mem inside)

variable (distinct : (items.map idOf).Nodup)
include distinct

theorem findIdx?_id_eq_some_iff {id : String} {i : Nat} :
    items.findIdx? (fun item => idOf item == id) = some i ↔ items[i]?.map idOf = some id := by
  rw [← List.getElem?_map, ← findIdx?_beq_eq_some_iff distinct, List.findIdx?_map]
  rfl

/-- Everything is found by its own id. -/
theorem findIdx?_own_id {i : Nat} (inside : i < items.length) :
    items.findIdx? (fun item => idOf item == (items[i]?.map idOf).getD "") = some i := by
  rw [findIdx?_id_eq_some_iff distinct, List.getElem?_eq_getElem inside]
  rfl

theorem id_inj {i j : Nat} (inside : i < items.length) (inside' : j < items.length) :
    (items[i]?.map idOf).getD "" = (items[j]?.map idOf).getD "" ↔ i = j := by
  refine ⟨fun same => ?_, fun same => same ▸ rfl⟩
  have found := findIdx?_own_id distinct inside
  rw [same, findIdx?_own_id distinct inside'] at found
  exact (Option.some.inj found).symm

end Ids

/-- What two lists are related by, item by item, relates every item to one on the other side. -/
theorem exists_mem_of_forall₂ {α β : Type} {related : α → β → Prop} {xs : List α} {ys : List β}
    (each : List.Forall₂ related xs ys) {y : β} (member : y ∈ ys) : ∃ x ∈ xs, related x y := by
  induction each with
  | nil => cases member
  | cons first _ ih =>
    rcases List.mem_cons.1 member with rfl | member
    · exact ⟨_, List.mem_cons_self .., first⟩
    · obtain ⟨x, later, here⟩ := ih member
      exact ⟨x, List.mem_cons_of_mem _ later, here⟩

/-! ### Tables -/

namespace Table

theorem length_rows_increment (table : Table Nat) (p t : Nat) :
    (table.increment p t).rows.length = table.rows.length := by
  simp [increment, modify]

theorem isSome_get?_increment (table : Table Nat) (p t p' t' : Nat) :
    ((table.increment p t).get? p' t').isSome = (table.get? p' t').isSome := by
  rw [increment, get?_modify]
  split
  · simp
  · rfl

theorem length_column (table : Table Nat) (t : Nat) :
    (table.column t).length = table.rows.length := by
  simp [column]

/-- The column of a transition holds its entries in the order of the places. -/
theorem getElem?_column (table : Table Nat) (p t : Nat) :
    (table.column t)[p]? = if p < table.rows.length then some (table.entry p t) else none := by
  simp only [column, List.getElem?_map, entry, get?, row]
  split
  · rename_i inside
    simp [List.getElem?_eq_getElem inside]
  · rename_i outside
    simp [List.getElem?_eq_none (Nat.le_of_not_lt outside)]

end Table

namespace Document

/-! ### Ids -/

/-- The ids pass when they are distinct, not empty, and neither taken nor seen. -/
theorem checkIds_eq_ok_iff (kind : ElementKind) (taken seen ids : List String) :
    checkIds kind taken seen ids = .ok () ↔
      ids.Nodup ∧ ∀ id ∈ ids, id ≠ "" ∧ id ∉ taken ∧ id ∉ seen := by
  induction ids generalizing seen with
  | nil => simp [checkIds]
  | cons id ids ih =>
    rw [checkIds]
    split
    · rename_i empty
      simp [empty]
    split
    · rename_i isTaken
      simp [isTaken]
    split
    · rename_i isSeen
      simp [isSeen]
    rename_i nonempty free fresh
    rw [ih]
    constructor
    · rintro ⟨distinct, rest⟩
      refine ⟨List.nodup_cons.2 ⟨?_, distinct⟩, ?_⟩
      · intro member
        exact (rest id member).2.2 (List.mem_cons_self ..)
      · intro other member
        rcases List.mem_cons.1 member with rfl | member
        · exact ⟨nonempty, free, fresh⟩
        · obtain ⟨notEmpty, notTaken, notSeen⟩ := rest other member
          exact ⟨notEmpty, notTaken, fun again => notSeen (List.mem_cons_of_mem _ again)⟩
    · rintro ⟨distinct, rest⟩
      obtain ⟨notLater, distinct⟩ := List.nodup_cons.1 distinct
      refine ⟨distinct, fun other member => ?_⟩
      obtain ⟨notEmpty, notTaken, notSeen⟩ := rest other (List.mem_cons_of_mem _ member)
      refine ⟨notEmpty, notTaken, fun again => ?_⟩
      rcases List.mem_cons.1 again with rfl | again
      · exact notLater member
      · exact notSeen again

/-! ### Arcs -/

/-- The arc between positions stands for the arc between ids: it joins the same place and
transition the same way, and one with keys joins a data place. -/
structure Joins (d : Document) (arc : Arc) (flow : Flow) : Prop where
  place : d.placeIndex? (if flow.isInput then arc.source else arc.target) = some flow.place
  transition :
    d.transitionIndex? (if flow.isInput then arc.target else arc.source) = some flow.transition
  keyed : flow.keyed = arc.isKeyed
  isData : flow.keyed = true →
    ∀ place, d.places[flow.place]? = some place → place.isToken = false

theorem joins_of_join {d : Document} {index : Nat} {arc : Arc} {p t : Nat}
    {direction : Direction} {flow : Flow} (joined : d.join index arc p t direction = .ok flow)
    (atPlace : d.placeIndex? (if direction = .input then arc.source else arc.target) = some p)
    (atTransition :
      d.transitionIndex? (if direction = .input then arc.target else arc.source) = some t) :
    d.Joins arc flow := by
  obtain ⟨place, here, -⟩ := exists_of_findIdx?_id atPlace
  simp only [join, here] at joined
  split at joined
  · cases joined
  · rename_i allowed
    obtain rfl := Except.ok.inj joined
    refine ⟨by simpa [Flow.isInput] using atPlace, by simpa [Flow.isInput] using atTransition,
      rfl, ?_⟩
    intro keyed other there
    obtain rfl : place = other := Option.some.inj (here.symm.trans there)
    simpa [show arc.isKeyed = true from keyed] using allowed

theorem joins_of_resolve {d : Document} {index : Nat} {arc : Arc} {flow : Flow}
    (resolved : d.resolve index arc = .ok flow) : d.Joins arc flow := by
  unfold resolve at resolved
  split at resolved
  · cases resolved
  · cases resolved
  · rename_i atPlace atTransition
    exact joins_of_join resolved (by simpa using atPlace) (by simpa using atTransition)
  · rename_i atTransition atPlace _
    exact joins_of_join resolved (by simpa using atPlace) (by simpa using atTransition)
  · cases resolved
  · cases resolved

theorem joins_of_resolveFrom {d : Document} {index : Nat} {arcs : List Arc} {flows : List Flow}
    (resolved : d.resolveFrom index arcs = .ok flows) : List.Forall₂ d.Joins arcs flows := by
  induction arcs generalizing index flows with
  | nil =>
    obtain rfl := Except.ok.inj resolved
    exact .nil
  | cons arc arcs ih =>
    rw [resolveFrom, bind_eq_ok] at resolved
    obtain ⟨flow, first, resolved⟩ := resolved
    rw [bind_eq_ok] at resolved
    obtain ⟨rest, later, resolved⟩ := resolved
    obtain rfl := Except.ok.inj resolved
    exact .cons (joins_of_resolve first) (ih later)

theorem Joins.place_lt {d : Document} {arc : Arc} {flow : Flow} (joins : d.Joins arc flow) :
    flow.place < d.places.length := by
  obtain ⟨place, here, -⟩ := exists_of_findIdx?_id joins.place
  exact (List.getElem?_eq_some_iff.1 here).1

theorem Joins.transition_lt {d : Document} {arc : Arc} {flow : Flow} (joins : d.Joins arc flow) :
    flow.transition < d.transitions.length := by
  obtain ⟨transition, here, -⟩ := exists_of_findIdx?_id joins.transition
  exact (List.getElem?_eq_some_iff.1 here).1

/-! ### Counts -/

theorem length_rows_count (d : Document) (flows : List Flow) (picks : Flow → Bool) :
    (d.count flows picks).rows.length = d.places.length := by
  have keep : ∀ table : Table Nat,
      (flows.foldl (fun table flow =>
        if picks flow then table.increment flow.place flow.transition else table)
        table).rows.length = table.rows.length := by
    induction flows with
    | nil => intro table; rfl
    | cons flow flows ih =>
      intro table
      rw [List.foldl_cons, ih]
      split
      · exact Table.length_rows_increment table _ _
      · rfl
  rw [count, keep]
  simp [Table.filled]

/-- An entry of a table is the number of picked arcs between the place and the transition. -/
theorem entry_count {d : Document} {flows : List Flow} (picks : Flow → Bool)
    (inside : ∀ flow ∈ flows,
      flow.place < d.places.length ∧ flow.transition < d.transitions.length) (p t : Nat) :
    (d.count flows picks).entry p t =
      flows.countP fun flow => picks flow && (flow.place == p && flow.transition == t) := by
  -- the fold adds the picked arcs to what the table holds already
  have adds : ∀ table : Table Nat,
      (∀ flow ∈ flows, (table.get? flow.place flow.transition).isSome) →
      (flows.foldl (fun table flow =>
        if picks flow then table.increment flow.place flow.transition else table)
        table).entry p t = table.entry p t +
          flows.countP fun flow => picks flow && (flow.place == p && flow.transition == t) := by
    clear inside
    induction flows with
    | nil => intro table _; rfl
    | cons flow flows ih =>
      intro table within
      have here := within flow (List.mem_cons_self ..)
      rw [List.foldl_cons, List.countP_cons]
      by_cases picked : picks flow = true
      · rw [if_pos picked, ih _ fun other member => ?_, Table.entry_increment _ _ _ _ _ here]
        · by_cases hit : p = flow.place ∧ t = flow.transition
          · obtain ⟨rfl, rfl⟩ := hit
            simp [picked]
            omega
          · have apart : ¬(flow.place = p ∧ flow.transition = t) := fun same =>
              hit ⟨same.1.symm, same.2.symm⟩
            simp [hit, apart]
        · rw [Table.isSome_get?_increment]
          exact within other (List.mem_cons_of_mem _ member)
      · rw [if_neg picked, ih _ fun other member => within other (List.mem_cons_of_mem _ member)]
        simp [picked]
  rw [count, adds]
  · simp [Table.entry, Table.get?_filled]
    split <;> rfl
  · intro flow member
    rw [Table.get?_filled, if_pos (inside flow member)]
    rfl

end Document

namespace Net

/-- What a net from a document is like. -/
structure WellFormed (net : Net) : Prop where
  placeIds : (net.places.map (·.id)).Nodup
  transitionIds : (net.transitions.map (·.id)).Nodup
  idsApart : ∀ id ∈ net.transitions.map (·.id), id ∉ net.places.map (·.id)
  joins : List.Forall₂ net.document.Joins net.arcs net.flows
  consumed : net.consumed = net.document.count net.flows fun flow => flow.isInput
  produced : net.produced = net.document.count net.flows fun flow => !flow.isInput
  plainConsumed :
    net.plainConsumed = net.document.count net.flows fun flow => flow.isInput && !flow.keyed
  plainProduced :
    net.plainProduced = net.document.count net.flows fun flow => !flow.isInput && !flow.keyed

theorem document_of_ofDocument {d : Document} {net : Net} (valid : ofDocument d = .ok net) :
    net.document = d := by
  simp only [ofDocument, bind_eq_ok] at valid
  obtain ⟨⟨⟩, -, ⟨⟩, -, ⟨⟩, -, flows, -, built⟩ := valid
  obtain rfl := Except.ok.inj built
  rfl

/-- A net that comes from a document is well formed. -/
theorem wellFormed_of_ofDocument {d : Document} {net : Net} (valid : ofDocument d = .ok net) :
    net.WellFormed := by
  simp only [ofDocument, bind_eq_ok] at valid
  obtain ⟨⟨⟩, checkedPlaces, ⟨⟩, checkedTransitions, ⟨⟩, -, flows, resolved, built⟩ := valid
  obtain rfl := Except.ok.inj built
  exact {
    placeIds := ((Document.checkIds_eq_ok_iff ..).1 checkedPlaces).1
    transitionIds := ((Document.checkIds_eq_ok_iff ..).1 checkedTransitions).1
    idsApart := fun id member =>
      (((Document.checkIds_eq_ok_iff ..).1 checkedTransitions).2 id member).2.1
    joins := Document.joins_of_resolveFrom resolved
    consumed := rfl
    produced := rfl
    plainConsumed := rfl
    plainProduced := rfl }

theorem transitionId_of_transitionIndex? {net : Net} {id : String} {t : Nat}
    (known : net.transitionIndex? id = some t) :
    t < net.transitions.length ∧ net.transitionId t = id := by
  obtain ⟨transition, here, rfl⟩ := exists_of_findIdx?_id known
  have here : net.transitions[t]? = some transition := here
  refine ⟨(List.getElem?_eq_some_iff.1 here).1, ?_⟩
  rw [transitionId, here]
  rfl

namespace WellFormed

variable {net : Net} (formed : net.WellFormed)
include formed

theorem exists_joins {flow : Flow} (member : flow ∈ net.flows) :
    ∃ arc ∈ net.arcs, net.document.Joins arc flow := exists_mem_of_forall₂ formed.joins member

theorem exists_flow {arc : Arc} (member : arc ∈ net.arcs) :
    ∃ flow ∈ net.flows, net.document.Joins arc flow :=
  exists_mem_of_forall₂ formed.joins.flip member

/-- An arc leads from a place to a transition or back. -/
theorem ends_cases {arc : Arc} (member : arc ∈ net.arcs) :
    (arc.source ∈ net.places.map (·.id) ∧ arc.target ∈ net.transitions.map (·.id)) ∨
      arc.source ∈ net.transitions.map (·.id) ∧ arc.target ∈ net.places.map (·.id) := by
  obtain ⟨flow, -, joins⟩ := formed.exists_flow member
  obtain ⟨place, atPlace, placeNamed⟩ := exists_of_findIdx?_id joins.place
  obtain ⟨transition, atTransition, transitionNamed⟩ :=
    exists_of_findIdx?_id joins.transition
  have isPlace := List.mem_map_of_mem (f := (·.id)) (List.mem_of_getElem? atPlace)
  have isTransition := List.mem_map_of_mem (f := (·.id)) (List.mem_of_getElem? atTransition)
  rw [placeNamed] at isPlace
  rw [transitionNamed] at isTransition
  cases input : flow.isInput with
  | true =>
    simp only [input, if_true] at isPlace isTransition
    exact Or.inl ⟨isPlace, isTransition⟩
  | false =>
    simp only [input, Bool.false_eq_true, if_false] at isPlace isTransition
    exact Or.inr ⟨isTransition, isPlace⟩

theorem flow_inside {flow : Flow} (member : flow ∈ net.flows) :
    flow.place < net.document.places.length ∧
      flow.transition < net.document.transitions.length := by
  obtain ⟨arc, -, joined⟩ := formed.exists_joins member
  exact ⟨joined.place_lt, joined.transition_lt⟩

theorem length_flows : net.flows.length = net.arcs.length := formed.joins.length_eq.symm

theorem length_consumed : net.consumed.rows.length = net.places.length := by
  rw [formed.consumed, Document.length_rows_count]
  rfl

theorem length_produced : net.produced.rows.length = net.places.length := by
  rw [formed.produced, Document.length_rows_count]
  rfl

theorem length_plainConsumed : net.plainConsumed.rows.length = net.places.length := by
  rw [formed.plainConsumed, Document.length_rows_count]
  rfl

theorem length_plainProduced : net.plainProduced.rows.length = net.places.length := by
  rw [formed.plainProduced, Document.length_rows_count]
  rfl

theorem placeIndex?_eq_some_iff {id : String} {p : Nat} :
    net.placeIndex? id = some p ↔ net.places[p]?.map (·.id) = some id :=
  findIdx?_id_eq_some_iff formed.placeIds

theorem transitionIndex?_eq_some_iff {id : String} {t : Nat} :
    net.transitionIndex? id = some t ↔ net.transitions[t]?.map (·.id) = some id :=
  findIdx?_id_eq_some_iff formed.transitionIds

theorem placeIndex?_placeId {p : Nat} (inside : p < net.places.length) :
    net.placeIndex? (net.placeId p) = some p := findIdx?_own_id formed.placeIds inside

theorem transitionIndex?_transitionId {t : Nat} (inside : t < net.transitions.length) :
    net.transitionIndex? (net.transitionId t) = some t :=
  findIdx?_own_id formed.transitionIds inside

theorem placeId_inj {p q : Nat} (inside : p < net.places.length)
    (inside' : q < net.places.length) : net.placeId p = net.placeId q ↔ p = q :=
  id_inj formed.placeIds inside inside'

theorem transitionId_inj {s t : Nat} (inside : s < net.transitions.length)
    (inside' : t < net.transitions.length) : net.transitionId s = net.transitionId t ↔ s = t :=
  id_inj formed.transitionIds inside inside'

/-- An entry of the counts of all arcs. -/
theorem entry_eq_countP {table : Table Nat} {picks : Flow → Bool}
    (counted : table = net.document.count net.flows picks) (p t : Nat) :
    table.entry p t =
      net.flows.countP fun flow => picks flow && (flow.place == p && flow.transition == t) := by
  rw [counted]
  exact Document.entry_count picks (fun flow member => formed.flow_inside member) p t

end WellFormed

end Net

end GuardedNet
