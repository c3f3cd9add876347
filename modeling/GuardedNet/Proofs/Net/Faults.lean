import GuardedNet.Proofs.Net.ById

/-!
# What is wrong with a document

All faults of a document in the order in which it is read (`Document.faults`), and what makes it
sound: proper ids, and arcs that each join a place and a transition (`Document.Sound`). Main
statement: a document is a net exactly if it is sound and is refused for its first fault otherwise,
and the net has the document, finds every element by its id, and counts the arcs between any two
(`Net.ofDocument_exact`).
-/

namespace GuardedNet

/-- The outcome of a scan that stops at the first fault. -/
def report {ε : Type} : List ε → Except ε Unit
  | [] => .ok ()
  | fault :: _ => .error fault

theorem report_append {ε : Type} (first rest : List ε) :
    report (first ++ rest) = report first >>= fun _ => report rest := by
  cases first <;> rfl

theorem report_eq_ok_iff {ε : Type} {faults : List ε} : report faults = .ok () ↔ faults = [] := by
  cases faults <;> simp [report]

theorem report_eq_error_iff {ε : Type} {faults : List ε} {fault : ε} :
    report faults = .error fault ↔ faults.head? = some fault := by
  cases faults <;> simp [report]

namespace Document

/-- The ids of the places. -/
def placeIds (d : Document) : List String := d.places.map (·.id)

/-- The ids of the transitions. -/
def transitionIds (d : Document) : List String := d.transitions.map (·.id)

/-- The ids of the invariants. -/
def invariantIds (d : Document) : List String := d.invariants.map (·.id)

/-! ### Faults -/

/-- The faults of the id at an index: it is empty, taken by another kind of element, or stands
before among the ids of its own kind. -/
def idFaultsAt (kind : ElementKind) (taken ids : List String) (index : Nat) (id : String) :
    List NetError :=
  (if id = "" then [.emptyId kind index] else []) ++
    ((if id ∈ taken then [.ambiguous id] else []) ++
      if id ∈ ids.take index then [.duplicate kind id] else [])

/-- The faults of ids from first to last. -/
def idFaults (kind : ElementKind) (taken ids : List String) : List NetError :=
  ids.zipIdx.flatMap fun (id, index) => idFaultsAt kind taken ids index id

/-- The faults of the arc at an index: its source is unknown, its target is, they are elements of
one kind, or it has keys and touches a token place. -/
def arcFaultsAt (d : Document) (index : Nat) (arc : Arc) : List NetError :=
  (if arc.source ∈ d.placeIds ∨ arc.source ∈ d.transitionIds then []
    else [.unknownEndpoint index arc.source]) ++
  ((if arc.target ∈ d.placeIds ∨ arc.target ∈ d.transitionIds then []
    else [.unknownEndpoint index arc.target]) ++
  ((if arc.source ∈ d.placeIds ∧ arc.target ∈ d.placeIds
    then [.sameKind index .place arc.source arc.target] else []) ++
  ((if arc.source ∈ d.transitionIds ∧ arc.target ∈ d.transitionIds
    then [.sameKind index .transition arc.source arc.target] else []) ++
  (d.places.filter fun place => arc.isKeyed && place.isToken &&
    (place.id == arc.source || place.id == arc.target)).map fun place =>
      .keyedTokenPlace index place.id)))

/-- All that is wrong with a document: in the places, then the transitions, then the invariants,
then the arcs. -/
def faults (d : Document) : List NetError :=
  idFaults .place [] d.placeIds ++ (idFaults .transition d.placeIds d.transitionIds ++
    (idFaults .invariant [] d.invariantIds ++
      d.arcs.zipIdx.flatMap fun (arc, index) => d.arcFaultsAt index arc))

/-! ### Soundness -/

/-- An arc leads from a place to a transition or back, and one with keys only touches a data
place. -/
def Connects (d : Document) (arc : Arc) : Prop :=
  ∃ place ∈ d.places, ∃ transition ∈ d.transitions,
    (arc.ends = (place.id, transition.id) ∨ arc.ends = (transition.id, place.id)) ∧
      (arc.isKeyed = true → place.kind = .data)

/-- Ids are not empty and not repeated, none is of both a place and a transition, and every arc
joins a place and a transition. -/
structure Sound (d : Document) : Prop where
  placeIds : d.placeIds.Nodup ∧ "" ∉ d.placeIds
  transitionIds : d.transitionIds.Nodup ∧ "" ∉ d.transitionIds
  invariantIds : d.invariantIds.Nodup ∧ "" ∉ d.invariantIds
  apart : ∀ id ∈ d.transitionIds, id ∉ d.placeIds
  arcs : ∀ arc ∈ d.arcs, d.Connects arc

/-! ### Ids -/

/-- Ids are refused for their first fault. -/
theorem checkIds_eq_report (kind : ElementKind) (taken ids : List String) :
    checkIds kind taken [] ids = report (idFaults kind taken ids) := by
  -- the ids that are seen are those before the rest, last one first
  suffices onwards : ∀ rest seen, ids = seen.reverse ++ rest →
      checkIds kind taken seen rest = report ((rest.zipIdx seen.length).flatMap
        fun (id, index) => idFaultsAt kind taken ids index id) from onwards ids [] rfl
  intro rest
  induction rest with
  | nil => intro seen _; rfl
  | cons id rest ih =>
    intro seen split
    have before : ids.take seen.length = seen.reverse := by
      rw [split, ← List.length_reverse, List.take_left]
    have later := ih (id :: seen) (by rw [split]; simp)
    rw [List.length_cons] at later
    rw [checkIds, List.zipIdx_cons, List.flatMap_cons, report_append, ← later]
    simp only [idFaultsAt, before, List.mem_reverse]
    split
    · rfl
    split
    · rfl
    split <;> rfl

theorem checkIds_ok_iff {kind : ElementKind} {taken ids : List String} :
    checkIds kind taken [] ids = .ok () ↔
      (ids.Nodup ∧ "" ∉ ids) ∧ ∀ id ∈ ids, id ∉ taken := by
  rw [checkIds_eq_ok_iff]
  constructor
  · rintro ⟨distinct, each⟩
    exact ⟨⟨distinct, fun member => (each "" member).1 rfl⟩, fun id member => (each id member).2.1⟩
  · rintro ⟨⟨distinct, nonempty⟩, free⟩
    refine ⟨distinct, fun id member => ⟨?_, free id member, List.not_mem_nil⟩⟩
    rintro rfl
    exact nonempty member

/-! ### Arcs -/

/-- Among items with distinct keys one has a given key. -/
theorem filter_key_eq {α : Type} {key : α → String} {items : List α}
    (distinct : (items.map key).Nodup) {item : α} (member : item ∈ items) :
    items.filter (fun other => key other == key item) = [item] := by
  induction items with
  | nil => cases member
  | cons first items ih =>
    obtain ⟨fresh, distinct⟩ := List.nodup_cons.1 distinct
    rcases List.mem_cons.1 member with rfl | later
    · have none : items.filter (fun other => key other == key item) = [] := by
        rw [List.filter_eq_nil_iff]
        intro other isOther same
        exact fresh (List.mem_map.2 ⟨other, isOther, by simpa using same⟩)
      rw [List.filter_cons_of_pos (by simp), none]
    · have apart : ¬(key first == key item) = true := by
        intro same
        exact fresh (List.mem_map.2 ⟨item, later, by simpa using (beq_iff_eq.1 same).symm⟩)
      rw [List.filter_cons, if_neg apart, ih distinct later]

theorem placeIndex?_eq_none_iff {d : Document} {id : String} :
    d.placeIndex? id = none ↔ id ∉ d.placeIds := findIdx?_id_eq_none_iff

theorem transitionIndex?_eq_none_iff {d : Document} {id : String} :
    d.transitionIndex? id = none ↔ id ∉ d.transitionIds := findIdx?_id_eq_none_iff

section Arcs

variable {d : Document} (apart : ∀ id ∈ d.transitionIds, id ∉ d.placeIds)

/-- An id is unknown, or that of a place, or that of a transition. -/
inductive Known (d : Document) (id : String) : Prop
  | neither : d.placeIndex? id = none → d.transitionIndex? id = none →
      id ∉ d.placeIds → id ∉ d.transitionIds → Known d id
  | place {p : Nat} {place : Place} : d.placeIndex? id = some p → d.transitionIndex? id = none →
      id ∈ d.placeIds → id ∉ d.transitionIds → d.places[p]? = some place → place.id = id →
      Known d id
  | transition {t : Nat} : d.placeIndex? id = none → d.transitionIndex? id = some t →
      id ∉ d.placeIds → id ∈ d.transitionIds → Known d id

include apart in
theorem known (id : String) : Known d id := by
  cases atPlace : d.placeIndex? id with
  | none =>
    have noPlace := placeIndex?_eq_none_iff.1 atPlace
    cases atTransition : d.transitionIndex? id with
    | none =>
      exact .neither atPlace atTransition noPlace (transitionIndex?_eq_none_iff.1 atTransition)
    | some t =>
      obtain ⟨transition, here, named⟩ := exists_of_findIdx?_id atTransition
      exact .transition atPlace atTransition noPlace
        (List.mem_map.2 ⟨transition, List.mem_of_getElem? here, named⟩)
  | some p =>
    obtain ⟨place, here, named⟩ := exists_of_findIdx?_id atPlace
    have isPlace : id ∈ d.placeIds := List.mem_map.2 ⟨place, List.mem_of_getElem? here, named⟩
    have noTransition : id ∉ d.transitionIds := fun member => apart id member isPlace
    exact .place atPlace (transitionIndex?_eq_none_iff.2 noTransition) isPlace noTransition here
      named

variable (distinct : d.placeIds.Nodup)

include distinct in
/-- The place at one end of an arc is the only place that the arc touches, if the other end is no
place. -/
theorem filter_touched {place : Place} (member : place ∈ d.places) (picks : Place → Bool)
    {arc : Arc} {other : String} (noPlace : other ∉ d.placeIds)
    (joined : arc.ends = (place.id, other) ∨ arc.ends = (other, place.id)) :
    d.places.filter (fun q => picks q && (q.id == arc.source || q.id == arc.target)) =
      if picks place then [place] else [] := by
  have touches : ∀ q ∈ d.places,
      (q.id == arc.source || q.id == arc.target) = (q.id == place.id) := by
    intro q isPlace
    have differs : (q.id == other) = false := by
      rw [beq_eq_false_iff_ne]
      rintro rfl
      exact noPlace (List.mem_map_of_mem isPlace)
    rcases joined with same | same
    · obtain ⟨source, target⟩ := Prod.mk.inj same
      rw [source, target, differs, Bool.or_false]
    · obtain ⟨source, target⟩ := Prod.mk.inj same
      rw [source, target, differs, Bool.false_or]
  rw [List.filter_congr fun q isPlace => by rw [touches q isPlace], ← List.filter_filter,
    filter_key_eq distinct member, List.filter_cons, List.filter_nil]

include distinct in
/-- An arc between a place and something else is refused if it has keys and the place counts
tokens. -/
theorem join_eq_report {index : Nat} {arc : Arc} {p t : Nat} {place : Place} {other : String}
    (direction : Direction) (here : d.places[p]? = some place) (noPlace : other ∉ d.placeIds)
    (joined : arc.ends = (place.id, other) ∨ arc.ends = (other, place.id)) :
    (d.join index arc p t direction).map (fun _ => ()) =
      report ((d.places.filter fun place => arc.isKeyed && place.isToken &&
        (place.id == arc.source || place.id == arc.target)).map fun place =>
          NetError.keyedTokenPlace index place.id) := by
  rw [filter_touched distinct (List.mem_of_getElem? here) (fun q => arc.isKeyed && q.isToken)
    noPlace joined, join, here]
  dsimp only
  split <;> rfl

include apart distinct in
/-- An arc is refused for its first fault. -/
theorem resolve_eq_report (index : Nat) (arc : Arc) :
    (d.resolve index arc).map (fun _ => ()) = report (d.arcFaultsAt index arc) := by
  unfold resolve arcFaultsAt
  cases known apart arc.source with
  | neither atPlace atTransition noPlace noTransition =>
    rw [atPlace, atTransition]
    simp [noPlace, noTransition, report, Except.map]
  | place atPlace atTransition isPlace noTransition here named =>
    rw [atPlace, atTransition]
    cases known apart arc.target with
    | neither atPlace' atTransition' noPlace' noTransition' =>
      rw [atPlace', atTransition']
      simp [isPlace, noPlace', noTransition', report, Except.map]
    | place atPlace' atTransition' isPlace' noTransition' =>
      rw [atPlace', atTransition']
      simp [isPlace, isPlace', report, Except.map]
    | transition atPlace' atTransition' noPlace' isTransition' =>
      rw [atPlace', atTransition']
      simp only [isPlace, noPlace', noTransition, isTransition', or_true, true_or, and_false,
        false_and, if_true, if_false, List.nil_append]
      exact join_eq_report distinct .input here noPlace' (Or.inl (by rw [named]; rfl))
  | transition atPlace atTransition noPlace isTransition =>
    rw [atPlace, atTransition]
    cases known apart arc.target with
    | neither atPlace' atTransition' noPlace' noTransition' =>
      rw [atPlace', atTransition']
      simp [isTransition, noPlace', noTransition', report, Except.map]
    | place atPlace' atTransition' isPlace' noTransition' here named =>
      rw [atPlace', atTransition']
      simp only [isPlace', noPlace, noTransition', isTransition, or_true, true_or, and_false,
        false_and, if_true, if_false, List.nil_append]
      exact join_eq_report distinct .output here noPlace (Or.inr (by rw [named]; rfl))
    | transition atPlace' atTransition' noPlace' isTransition' =>
      rw [atPlace', atTransition']
      simp [isTransition, isTransition', noPlace, report, Except.map]

include apart distinct in
/-- Arcs are refused for their first fault. -/
theorem resolveFrom_eq_report (index : Nat) (arcs : List Arc) :
    (d.resolveFrom index arcs).map (fun _ => ()) =
      report ((arcs.zipIdx index).flatMap fun (arc, index) => d.arcFaultsAt index arc) := by
  induction arcs generalizing index with
  | nil => rfl
  | cons arc arcs ih =>
    rw [resolveFrom, List.zipIdx_cons, List.flatMap_cons, report_append, ← ih,
      ← resolve_eq_report apart distinct]
    cases d.resolve index arc with
    | error fault => rfl
    | ok flow => cases d.resolveFrom (index + 1) arcs <;> rfl

/-- What an arc without faults is like, one condition for each fault. -/
theorem arcFaultsAt_eq_nil {index : Nat} {arc : Arc} :
    d.arcFaultsAt index arc = [] ↔
      (arc.source ∈ d.placeIds ∨ arc.source ∈ d.transitionIds) ∧
      (arc.target ∈ d.placeIds ∨ arc.target ∈ d.transitionIds) ∧
      ¬(arc.source ∈ d.placeIds ∧ arc.target ∈ d.placeIds) ∧
      ¬(arc.source ∈ d.transitionIds ∧ arc.target ∈ d.transitionIds) ∧
      ∀ place ∈ d.places, place.id = arc.source ∨ place.id = arc.target →
        arc.isKeyed = true → place.kind = .data := by
  simp only [arcFaultsAt, List.append_eq_nil_iff, List.map_eq_nil_iff, List.filter_eq_nil_iff]
  refine and_congr (by simp [or_iff_not_imp_left]) (and_congr (by simp [or_iff_not_imp_left])
    (and_congr (by simp) (and_congr (by simp) (forall₂_congr fun place _ => ?_))))
  have isData : place.kind = .data ↔ place.isToken = false := by
    rw [Place.isToken]
    cases place.kind <;> decide
  rw [isData]
  cases arc.isKeyed <;> cases place.isToken <;> simp

include apart distinct in
/-- An arc without faults joins a place and a transition. -/
theorem arcFaultsAt_eq_nil_iff {index : Nat} {arc : Arc} :
    d.arcFaultsAt index arc = [] ↔ d.Connects arc := by
  rw [arcFaultsAt_eq_nil]
  constructor
  · rintro ⟨source, target, notPlaces, notTransitions, keyed⟩
    rcases source with isPlace | isTransition
    · have isTransition := target.resolve_left fun isPlace' => notPlaces ⟨isPlace, isPlace'⟩
      obtain ⟨place, member, named⟩ := List.mem_map.1 isPlace
      obtain ⟨transition, member', named'⟩ := List.mem_map.1 isTransition
      exact ⟨place, member, transition, member', Or.inl (by rw [named, named']; rfl),
        keyed place member (Or.inl named)⟩
    · have isPlace := target.resolve_right fun isTransition' =>
        notTransitions ⟨isTransition, isTransition'⟩
      obtain ⟨place, member, named⟩ := List.mem_map.1 isPlace
      obtain ⟨transition, member', named'⟩ := List.mem_map.1 isTransition
      exact ⟨place, member, transition, member', Or.inr (by rw [named, named']; rfl),
        keyed place member (Or.inr named)⟩
  · rintro ⟨place, member, transition, member', joined, keyed⟩
    have isPlace : place.id ∈ d.placeIds := List.mem_map_of_mem member
    have isTransition : transition.id ∈ d.transitionIds := List.mem_map_of_mem member'
    have noPlace := apart _ isTransition
    have noTransition : place.id ∉ d.transitionIds := fun both => apart _ both isPlace
    have only : ∀ q ∈ d.places, q.id = place.id ∨ q.id = transition.id →
        arc.isKeyed = true → q.kind = .data := by
      intro q isQ touches
      rcases touches with same | same
      · rw [List.inj_on_of_nodup_map distinct isQ member same]
        exact keyed
      · exact absurd (same ▸ List.mem_map_of_mem isQ) noPlace
    rcases joined with same | same
    · obtain ⟨source, target⟩ := Prod.mk.inj same
      rw [source, target]
      exact ⟨Or.inl isPlace, Or.inr isTransition, fun both => noPlace both.2,
        fun both => noTransition both.1, only⟩
    · obtain ⟨source, target⟩ := Prod.mk.inj same
      rw [source, target]
      exact ⟨Or.inr isTransition, Or.inl isPlace, fun both => noPlace both.1,
        fun both => noTransition both.2, fun q isQ touches => only q isQ touches.symm⟩

end Arcs

theorem idFaults_eq_nil_iff {kind : ElementKind} {taken ids : List String} :
    idFaults kind taken ids = [] ↔ (ids.Nodup ∧ "" ∉ ids) ∧ ∀ id ∈ ids, id ∉ taken := by
  rw [← report_eq_ok_iff, ← checkIds_eq_report, checkIds_ok_iff]

/-- Nothing is wrong with a document exactly if it is sound. -/
theorem faults_eq_nil_iff {d : Document} : d.faults = [] ↔ d.Sound := by
  have arcs : (d.arcs.zipIdx.flatMap fun (arc, index) => d.arcFaultsAt index arc) = [] ↔
      ∀ index arc, d.arcs[index]? = some arc → d.arcFaultsAt index arc = [] := by
    rw [List.flatMap_eq_nil_iff]
    constructor
    · intro each index arc here
      exact each (arc, index) (List.mem_zipIdx_iff_getElem?.2 here)
    · rintro each ⟨arc, index⟩ member
      exact each index arc (List.mem_zipIdx_iff_getElem?.1 member)
  rw [faults, List.append_eq_nil_iff, List.append_eq_nil_iff, List.append_eq_nil_iff,
    idFaults_eq_nil_iff, idFaults_eq_nil_iff, idFaults_eq_nil_iff, arcs]
  constructor
  · rintro ⟨⟨places, -⟩, ⟨transitions, apart⟩, ⟨invariants, -⟩, each⟩
    refine ⟨places, transitions, invariants, apart, fun arc member => ?_⟩
    obtain ⟨index, here⟩ := List.mem_iff_getElem?.1 member
    exact (arcFaultsAt_eq_nil_iff apart places.1).1 (each index arc here)
  · intro sound
    refine ⟨⟨sound.placeIds, by simp⟩, ⟨sound.transitionIds, sound.apart⟩,
      ⟨sound.invariantIds, by simp⟩, fun index arc here => ?_⟩
    exact (arcFaultsAt_eq_nil_iff sound.apart sound.placeIds.1).2
      (sound.arcs arc (List.mem_of_getElem? here))

end Document

namespace Net

/-- A document is refused for its first fault. -/
theorem ofDocument_eq_report (d : Document) :
    (ofDocument d).map (fun _ => ()) = report d.faults := by
  rw [Document.faults, report_append, report_append, report_append, ← Document.checkIds_eq_report,
    ← Document.checkIds_eq_report, ← Document.checkIds_eq_report]
  unfold ofDocument Document.placeIds Document.transitionIds Document.invariantIds
  dsimp only
  cases places : Document.checkIds .place [] [] (d.places.map (·.id)) with
  | error fault => rfl
  | ok =>
    cases transitions : Document.checkIds .transition (d.places.map (·.id)) []
        (d.transitions.map (·.id)) with
    | error fault => rfl
    | ok =>
      cases invariants : Document.checkIds .invariant [] [] (d.invariants.map (·.id)) with
      | error fault => rfl
      | ok =>
        -- the ids are in order, on which the reports about the arcs rest
        have distinct := (Document.checkIds_ok_iff.1 places).1.1
        have apart := (Document.checkIds_ok_iff.1 transitions).2
        rw [← Document.resolveFrom_eq_report apart distinct]
        cases d.resolveFrom 0 d.arcs <;> rfl

theorem exists_ofDocument_iff {d : Document} : (∃ net, ofDocument d = .ok net) ↔ d.Sound := by
  rw [← Document.faults_eq_nil_iff, ← report_eq_ok_iff, ← ofDocument_eq_report]
  cases ofDocument d <;> simp [Except.map]

theorem ofDocument_eq_error_iff {d : Document} {fault : NetError} :
    ofDocument d = .error fault ↔ d.faults.head? = some fault := by
  rw [← report_eq_error_iff, ← ofDocument_eq_report]
  cases ofDocument d <;> simp [Except.map]

/-! ### The tables of a net -/

/-- An arc between positions stands for an arc between ids. -/
structure Resolves (net : Net) (arc : Arc) (flow : Flow) : Prop where
  place : flow.place < net.places.length
  transition : flow.transition < net.transitions.length
  ends : arc.ends = flow.direction.ends (net.placeId flow.place) (net.transitionId flow.transition)
  keyed : flow.keyed = arc.isKeyed

/-- A net tabulates a document: it has its elements in their order, finds them by their ids, has a
resolved arc for each arc, and counts the arcs between each place and each transition, with or
without those that have keys, which makes no difference at token places. -/
structure Tabulates (net : Net) (d : Document) : Prop where
  document : net.document = d
  placeIndex : ∀ id p, net.placeIndex? id = some p ↔ d.placeIds[p]? = some id
  transitionIndex : ∀ id t, net.transitionIndex? id = some t ↔ d.transitionIds[t]? = some id
  flows : List.Forall₂ net.Resolves d.arcs net.flows
  entries : ∀ direction plain p t, (net.table direction plain).get? p t =
    (d.places[p]?).bind fun place => (d.transitions[t]?).map fun transition =>
      d.arcs.countP (Arc.isCounted direction plain place.id transition.id)
  tokenRows : ∀ direction p place, d.places[p]? = some place → place.kind = .token →
    (net.table direction true).row p = (net.table direction false).row p

theorem resolves_of_joins {net : Net} (formed : net.WellFormed) {arc : Arc} {flow : Flow}
    (joins : net.document.Joins arc flow) : net.Resolves arc flow := by
  refine ⟨joins.place_lt, joins.transition_lt, ?_, joins.keyed⟩
  rw [formed.ends_eq_flowEnds joins, flowEnds, Flow.isInput]
  cases flow.direction <;> rfl

/-- The arcs between a token place and a transition all count as plain ones. -/
theorem countP_isCounted_of_token {d : Document} (sound : d.Sound) {place : Place}
    (member : place ∈ d.places) (token : place.kind = .token) (direction : Direction)
    (transition : String) :
    d.arcs.countP (Arc.isCounted direction true place.id transition) =
      d.arcs.countP (Arc.isCounted direction false place.id transition) := by
  refine List.countP_congr fun arc isArc => ?_
  have clean : d.arcFaultsAt 0 arc = [] :=
    (Document.arcFaultsAt_eq_nil_iff sound.apart sound.placeIds.1).2 (sound.arcs arc isArc)
  obtain ⟨-, -, -, -, keyed⟩ := Document.arcFaultsAt_eq_nil.1 clean
  have plain : arc.ends = direction.ends place.id transition → arc.isKeyed = false := by
    intro joined
    have touches : place.id = arc.source ∨ place.id = arc.target := by
      cases direction with
      | input => exact Or.inl (congrArg Prod.fst joined).symm
      | output => exact Or.inr (congrArg Prod.snd joined).symm
    rw [← Bool.not_eq_true]
    intro isKeyed
    rw [keyed place member touches isKeyed] at token
    cases token
  simp only [Arc.isCounted, Bool.and_eq_true, beq_iff_eq]
  refine and_congr_right fun joined => ?_
  simp [plain joined]

theorem tabulates_of_ofDocument {d : Document} {net : Net} (valid : ofDocument d = .ok net) :
    net.Tabulates d := by
  have formed := wellFormed_of_ofDocument valid
  have sound := exists_ofDocument_iff.1 ⟨net, valid⟩
  obtain rfl := document_of_ofDocument valid
  refine ⟨rfl, ?_, ?_, ?_, formed.get?_table, ?_⟩
  · intro id p
    rw [formed.placeIndex?_eq_some_iff, Document.placeIds, List.getElem?_map]
    rfl
  · intro id t
    rw [formed.transitionIndex?_eq_some_iff, Document.transitionIds, List.getElem?_map]
    rfl
  · exact formed.joins.imp fun arc flow => resolves_of_joins formed
  · intro direction p place here token
    refine List.ext_getElem? fun t => ?_
    have entry := fun plain => formed.get?_table direction plain p t
    simp only [Table.get?, show net.places[p]? = some place from here] at entry
    rw [entry, entry]
    have same := countP_isCounted_of_token sound (List.mem_of_getElem? here) token direction
    cases net.transitions[t]? with
    | none => rfl
    | some transition => exact congrArg some (same transition.id)

/-- A document is a net exactly if it is sound; otherwise it is refused for its first fault. A net
tabulates its document. -/
theorem ofDocument_exact (d : Document) :
    ((∃ net, ofDocument d = .ok net) ↔ d.Sound) ∧
      (∀ fault, ofDocument d = .error fault ↔ d.faults.head? = some fault) ∧
      ∀ net, ofDocument d = .ok net → net.Tabulates d :=
  ⟨exists_ofDocument_iff, fun _ => ofDocument_eq_error_iff, fun _ => tabulates_of_ofDocument⟩

/-- A sale takes two items from the stock and books them in a ledger, in total and by item. -/
def shop : Document where
  name := "shop"
  version := "1"
  places := [⟨"stock", .token, .int 6, false, none⟩, ⟨"ledger", .data, .map [], false, none⟩]
  transitions := [{ id := "sell", guard := none, rate := 1.0 }]
  arcs := [⟨"stock", "sell", [], none⟩, ⟨"sell", "ledger", ["item"], none⟩,
    ⟨"stock", "sell", [], none⟩, ⟨"sell", "ledger", [], none⟩]
  invariants := []

/-- The shop is a net that counts both arcs from the stock. With keys on an arc from the stock and
an unknown end after that, the keys are reported. -/
theorem ofDocument_exact_shop :
    (∃ net, ofDocument shop = .ok net ∧ net.consumed.get? 0 0 = some 2 ∧
      net.produced.get? 1 0 = some 2 ∧ net.plainProduced.get? 1 0 = some 1) ∧
    ofDocument { shop with
      arcs := [⟨"stock", "sell", ["item"], none⟩, ⟨"shelf", "sell", [], none⟩] } =
        .error (.keyedTokenPlace 0 "stock") := by
  obtain ⟨-, -, tabulates⟩ := ofDocument_exact shop
  have entries := (tabulates _ rfl).entries
  exact ⟨⟨_, rfl, entries .input false 0 0, entries .output false 1 0, entries .output true 1 0⟩,
    ((ofDocument_exact _).2.1 _).2 (by decide)⟩

end Net

end GuardedNet
