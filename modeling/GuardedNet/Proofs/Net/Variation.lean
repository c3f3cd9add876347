import GuardedNet.Net.Variation
import GuardedNet.Proofs.Net.Faults

/-!
# Variations are nets

A variation of a net is the net of the changed document. Taking out an element or replacing a value
never makes a net invalid (`Document.Keeps.sound`), and leaves the numbers of arcs between what
remains as they are, but for an arc that is taken out. Main statement: `Net.vary_revalidates`.
-/

namespace GuardedNet

/-- A change of one element of a net. -/
inductive Change where
  | removePlace (id : String)
  | removeTransition (id : String)
  | removeArc (index : Nat)
  | setRate (id : String) (rate : Float)
  | setTokens (id : String) (tokens : Int)

/-- The variation of a net by a change. -/
def Net.vary (net : Net) : Change → Except NetError Net
  | .removePlace id => net.withoutPlace id
  | .removeTransition id => net.withoutTransition id
  | .removeArc index => net.withoutArc index
  | .setRate id rate => net.withRate id rate
  | .setTokens id tokens => net.withInitialTokens id tokens

namespace Change

/-- The element to be changed is there. -/
def Applies (d : Document) : Change → Prop
  | removePlace id => id ∈ d.placeIds
  | removeTransition id => id ∈ d.transitionIds
  | removeArc index => index < d.arcs.length
  | setRate id _ => id ∈ d.transitionIds
  | setTokens id _ => id ∈ d.placeIds

/-- What is said of an element that is not there. -/
def refusal : Change → NetError
  | removePlace id => .unknownElement .place id
  | removeTransition id => .unknownElement .transition id
  | removeArc index => .arcOutOfRange index
  | setRate id _ => .unknownElement .transition id
  | setTokens id _ => .unknownElement .place id

/-- The changed document. With a place or a transition go the arcs that touch it; all that remains
keeps its order. -/
def apply (d : Document) : Change → Document
  | removePlace id => { d with
      places := d.places.filter fun place => place.id != id
      arcs := d.arcs.filter fun arc => arc.source != id && arc.target != id }
  | removeTransition id => { d with
      transitions := d.transitions.filter fun transition => transition.id != id
      arcs := d.arcs.filter fun arc => arc.source != id && arc.target != id }
  | removeArc index => { d with arcs := d.arcs.eraseIdx index }
  | setRate id rate => { d with
      transitions := d.transitions.map fun transition =>
        if transition.id = id then { transition with rate := rate, isNegated := false }
        else transition }
  | setTokens id tokens => { d with
      places := d.places.map fun place =>
        if place.id = id then { place with initial := .int tokens } else place }

/-- How many arcs that a table counts between a place and a transition which both remain a change
takes out: the one that is removed, if the table counts it there. -/
def loss (d : Document) (direction : Direction) (plain : Bool) (place transition : String) :
    Change → Nat
  | removeArc index => d.arcs[index]?.toList.countP (Arc.isCounted direction plain place transition)
  | _ => 0

end Change

/-! ### Changed documents are sound -/

namespace Document

/-- A document that has part of the ids and of the arcs of another one, in their order, and the ends
of the arcs that it has. -/
structure Keeps (d part : Document) : Prop where
  placeIds : part.placeIds.Sublist d.placeIds
  transitionIds : part.transitionIds.Sublist d.transitionIds
  invariantIds : part.invariantIds = d.invariantIds
  arcs : part.arcs.Sublist d.arcs
  place : ∀ arc ∈ part.arcs, ∀ place ∈ d.places, place.id = arc.source ∨ place.id = arc.target →
    ∃ kept ∈ part.places, kept.id = place.id ∧ kept.kind = place.kind
  transition : ∀ arc ∈ part.arcs, ∀ transition ∈ d.transitions,
    transition.id = arc.source ∨ transition.id = arc.target →
      ∃ kept ∈ part.transitions, kept.id = transition.id

theorem Keeps.connects {d part : Document} (keeps : d.Keeps part) {arc : Arc}
    (member : arc ∈ part.arcs) (connects : d.Connects arc) : part.Connects arc := by
  obtain ⟨place, isPlace, transition, isTransition, joined, keyed⟩ := connects
  have ends : (place.id = arc.source ∨ place.id = arc.target) ∧
      (transition.id = arc.source ∨ transition.id = arc.target) := by
    rcases joined with same | same
    · obtain ⟨source, target⟩ := Prod.mk.inj same
      exact ⟨Or.inl source.symm, Or.inr target.symm⟩
    · obtain ⟨source, target⟩ := Prod.mk.inj same
      exact ⟨Or.inr target.symm, Or.inl source.symm⟩
  obtain ⟨place', isPlace', placeId, placeKind⟩ := keeps.place arc member place isPlace ends.1
  obtain ⟨transition', isTransition', transitionId⟩ :=
    keeps.transition arc member transition isTransition ends.2
  exact ⟨place', isPlace', transition', isTransition', by rw [placeId, transitionId]; exact joined,
    by rw [placeKind]; exact keyed⟩

theorem Keeps.sound {d part : Document} (keeps : d.Keeps part) (sound : d.Sound) : part.Sound where
  placeIds := ⟨sound.placeIds.1.sublist keeps.placeIds,
    fun member => sound.placeIds.2 (keeps.placeIds.mem member)⟩
  transitionIds := ⟨sound.transitionIds.1.sublist keeps.transitionIds,
    fun member => sound.transitionIds.2 (keeps.transitionIds.mem member)⟩
  invariantIds := keeps.invariantIds ▸ sound.invariantIds
  apart := fun id isTransition isPlace =>
    sound.apart id (keeps.transitionIds.mem isTransition) (keeps.placeIds.mem isPlace)
  arcs := fun arc member => keeps.connects member (sound.arcs arc (keeps.arcs.mem member))

end Document

/-! ### Values that the tables do not depend on -/

namespace Document

/-- Two documents that differ in nothing that arcs are resolved by. -/
structure Alike (d other : Document) : Prop where
  places : other.places.map (fun place => (place.id, place.kind)) =
    d.places.map fun place => (place.id, place.kind)
  transitionIds : other.transitionIds = d.transitionIds
  invariants : other.invariants = d.invariants
  arcs : other.arcs = d.arcs

namespace Alike

variable {d other : Document} (alike : d.Alike other)
include alike

theorem placeIds : other.placeIds = d.placeIds := by
  have ids := congrArg (List.map Prod.fst) alike.places
  rw [List.map_map, List.map_map] at ids
  exact ids

theorem keeps : d.Keeps other where
  placeIds := alike.placeIds ▸ List.Sublist.refl _
  transitionIds := alike.transitionIds ▸ List.Sublist.refl _
  invariantIds := by rw [invariantIds, alike.invariants, invariantIds]
  arcs := alike.arcs ▸ List.Sublist.refl _
  place := by
    intro arc _ place isPlace _
    have seen := List.mem_map_of_mem (f := fun place : Place => (place.id, place.kind)) isPlace
    rw [← alike.places] at seen
    obtain ⟨kept, isKept, same⟩ := List.mem_map.1 seen
    exact ⟨kept, isKept, Prod.mk.inj same⟩
  transition := by
    intro arc _ transition isTransition _
    have seen : transition.id ∈ d.transitionIds := List.mem_map_of_mem isTransition
    rw [← alike.transitionIds] at seen
    exact List.mem_map.1 seen

theorem placeIndex? (id : String) : other.placeIndex? id = d.placeIndex? id := by
  have found := congrArg (List.findIdx? (· == id)) alike.placeIds
  rw [Document.placeIds, Document.placeIds, List.findIdx?_map, List.findIdx?_map] at found
  exact found

theorem transitionIndex? (id : String) : other.transitionIndex? id = d.transitionIndex? id := by
  have found := congrArg (List.findIdx? (· == id)) alike.transitionIds
  rw [Document.transitionIds, Document.transitionIds, List.findIdx?_map, List.findIdx?_map] at found
  exact found

theorem join (index : Nat) (arc : Arc) (p t : Nat) (direction : Direction) :
    other.join index arc p t direction = d.join index arc p t direction := by
  have here := congrArg (·[p]?) alike.places
  simp only [List.getElem?_map] at here
  unfold Document.join
  cases there : d.places[p]? with
  | none =>
    rw [there] at here
    rw [Option.map_eq_none_iff.1 here]
  | some place =>
    rw [there] at here
    obtain ⟨place', here', same⟩ := Option.map_eq_some_iff.1 here
    obtain ⟨sameId, sameKind⟩ := Prod.mk.inj same
    have sameToken : place'.isToken = place.isToken := by
      rw [Place.isToken, sameKind, Place.isToken]
    rw [here']
    dsimp only
    rw [sameId, sameToken]

theorem resolveFrom (index : Nat) (arcs : List Arc) :
    other.resolveFrom index arcs = d.resolveFrom index arcs := by
  induction arcs generalizing index with
  | nil => rfl
  | cons arc arcs ih =>
    have first : other.resolve index arc = d.resolve index arc := by
      simp only [resolve, alike.placeIndex?, alike.transitionIndex?, alike.join]
    rw [Document.resolveFrom, Document.resolveFrom, first]
    simp only [ih]

theorem count (flows : List Flow) (picks : Flow → Bool) :
    other.count flows picks = d.count flows picks := by
  have places : other.places.length = d.places.length := by
    simpa using congrArg List.length alike.places
  have transitions : other.transitions.length = d.transitions.length := by
    simpa [Document.transitionIds] using congrArg List.length alike.transitionIds
  rw [Document.count, Document.count, places, transitions]

/-- The net of a document that is alike differs in the document alone. -/
theorem ofDocument {net : Net} (valid : Net.ofDocument d = .ok net) :
    Net.ofDocument other = .ok { net with document := other } := by
  have placeIds := alike.placeIds
  have transitionIds := alike.transitionIds
  rw [Document.placeIds, Document.placeIds] at placeIds
  rw [Document.transitionIds, Document.transitionIds] at transitionIds
  simp only [Net.ofDocument, bind_eq_ok] at valid ⊢
  obtain ⟨⟨⟩, places, ⟨⟩, transitions, ⟨⟩, invariants, flows, resolved, built⟩ := valid
  obtain rfl := Except.ok.inj built
  refine ⟨(), ?_, (), ?_, (), ?_, flows, ?_, ?_⟩
  · rw [placeIds, places]
  · rw [placeIds, transitionIds, transitions]
  · rw [alike.invariants, invariants]
  · rw [alike.arcs, alike.resolveFrom, resolved]
  · simp only [alike.count]
    rfl

end Alike

end Document

namespace Change

/-- Items are seen as before if those that are replaced are. -/
theorem map_replace {α β : Type} (picks : α → Prop) [DecidablePred picks] (update : α → α)
    {view : α → β} (same : ∀ item, view (update item) = view item) (items : List α) :
    (items.map fun item => if picks item then update item else item).map view =
      items.map view := by
  rw [List.map_map]
  refine List.map_congr_left fun item _ => ?_
  rw [Function.comp_apply]
  split
  · exact same item
  · rfl

theorem alike_setRate (d : Document) (id : String) (rate : Float) :
    d.Alike ((setRate id rate).apply d) := by
  refine ⟨rfl, ?_, rfl, rfl⟩
  exact map_replace (fun transition : Transition => transition.id = id)
    (fun transition => { transition with rate := rate, isNegated := false }) (fun _ => rfl) _

theorem alike_setTokens (d : Document) (id : String) (tokens : Int) :
    d.Alike ((setTokens id tokens).apply d) := by
  refine ⟨?_, rfl, rfl, rfl⟩
  exact map_replace (fun place : Place => place.id = id)
    (fun place => { place with initial := .int tokens }) (fun _ => rfl) _

/-! ### What a change keeps -/

/-- An arc that stays touches other ids only. -/
theorem bne_of_touches {arcs : List Arc} {id other : String} {arc : Arc}
    (member : arc ∈ arcs.filter fun arc => arc.source != id && arc.target != id)
    (touches : other = arc.source ∨ other = arc.target) : (other != id) = true := by
  obtain ⟨-, stays⟩ := List.mem_filter.1 member
  rw [Bool.and_eq_true] at stays
  rcases touches with rfl | rfl
  · exact stays.1
  · exact stays.2

theorem keeps (d : Document) (change : Change) : d.Keeps (change.apply d) := by
  cases change with
  | removePlace id =>
    refine ⟨List.filter_sublist.map _, List.Sublist.refl _, rfl, List.filter_sublist, ?_, ?_⟩
    · intro arc member place isPlace touches
      exact ⟨place, List.mem_filter.2 ⟨isPlace, bne_of_touches member touches⟩, rfl, rfl⟩
    · intro arc _ transition isTransition _
      exact ⟨transition, isTransition, rfl⟩
  | removeTransition id =>
    refine ⟨List.Sublist.refl _, List.filter_sublist.map _, rfl, List.filter_sublist, ?_, ?_⟩
    · intro arc _ place isPlace _
      exact ⟨place, isPlace, rfl, rfl⟩
    · intro arc member transition isTransition touches
      exact ⟨transition, List.mem_filter.2 ⟨isTransition, bne_of_touches member touches⟩, rfl⟩
  | removeArc index =>
    refine ⟨List.Sublist.refl _, List.Sublist.refl _, rfl, List.eraseIdx_sublist .., ?_, ?_⟩
    · intro arc _ place isPlace _
      exact ⟨place, isPlace, rfl, rfl⟩
    · intro arc _ transition isTransition _
      exact ⟨transition, isTransition, rfl⟩
  | setRate id rate => exact (alike_setRate d id rate).keeps
  | setTokens id tokens => exact (alike_setTokens d id tokens).keeps

theorem ne_of_mem_filter {α : Type} {key : α → String} {items : List α} {id other : String}
    (member : other ∈ (items.filter fun item => key item != id).map key) : other ≠ id := by
  obtain ⟨item, kept, rfl⟩ := List.mem_map.1 member
  simpa using (List.mem_filter.1 kept).2

/-- Arcs between two other ids stay when an id goes. -/
theorem countP_filter_untouched (arcs : List Arc) {id place transition : String}
    (placeApart : place ≠ id) (transitionApart : transition ≠ id) (direction : Direction)
    (plain : Bool) :
    (arcs.filter fun arc => arc.source != id && arc.target != id).countP
      (Arc.isCounted direction plain place transition) =
        arcs.countP (Arc.isCounted direction plain place transition) := by
  rw [List.countP_filter]
  refine List.countP_congr fun arc _ => ?_
  rw [Bool.and_eq_true, and_iff_left_iff_imp]
  intro counted
  simp only [Arc.isCounted, Bool.and_eq_true, beq_iff_eq] at counted
  cases direction with
  | input =>
    obtain ⟨source, target⟩ := Prod.mk.inj counted.1
    simp [source, target, placeApart, transitionApart]
  | output =>
    obtain ⟨source, target⟩ := Prod.mk.inj counted.1
    simp [source, target, placeApart, transitionApart]

/-- What is counted before a change is counted after it, or lost. -/
theorem countP_apply {d : Document} (sound : d.Sound) {change : Change} (applies : change.Applies d)
    {place transition : String} (isPlace : place ∈ (change.apply d).placeIds)
    (isTransition : transition ∈ (change.apply d).transitionIds) (direction : Direction)
    (plain : Bool) :
    d.arcs.countP (Arc.isCounted direction plain place transition) =
      (change.apply d).arcs.countP (Arc.isCounted direction plain place transition) +
        change.loss d direction plain place transition := by
  cases change with
  | removePlace id =>
    have transitionApart : transition ≠ id := by
      rintro rfl
      exact sound.apart _ isTransition applies
    exact (countP_filter_untouched d.arcs (ne_of_mem_filter isPlace) transitionApart direction
      plain).symm
  | removeTransition id =>
    have placeApart : place ≠ id := by
      rintro rfl
      exact sound.apart _ applies isPlace
    exact (countP_filter_untouched d.arcs placeApart (ne_of_mem_filter isTransition) direction
      plain).symm
  | removeArc index =>
    have inside : index < d.arcs.length := applies
    have parts := (List.getElem_cons_eraseIdx_perm inside).countP_eq
      (Arc.isCounted direction plain place transition)
    simp only [apply, loss, List.getElem?_eq_getElem inside]
    rw [← parts, List.countP_cons]
    simp
  | setRate id rate => rfl
  | setTokens id tokens => rfl

end Change

/-- Among distinct keys, what is replaced at the first position of a key is replaced at the key. -/
theorem modify_eq_map {α : Type} {key : α → String} {items : List α}
    (distinct : (items.map key).Nodup) {id : String} {index : Nat}
    (found : items.findIdx? (fun item => key item == id) = some index) (update : α → α) :
    items.modify index update =
      items.map fun item => if key item = id then update item else item := by
  have position : ∀ j, (items.map key)[j]? = some id ↔ index = j := by
    intro j
    rw [← findIdx?_beq_eq_some_iff distinct, List.findIdx?_map]
    constructor
    · intro found'
      exact Option.some.inj (found.symm.trans found')
    · rintro rfl
      exact found
  refine List.ext_getElem? fun j => ?_
  have here := position j
  rw [List.getElem?_map] at here
  rw [List.getElem?_modify, List.getElem?_map]
  cases there : items[j]? with
  | none => rfl
  | some item =>
    rw [there] at here
    simp only [Option.map_some, Option.some.injEq] at here
    simp only [Option.map_eq_map, Option.map_some, here]

namespace Net

section

variable {d : Document} {net : Net} (valid : ofDocument d = .ok net)
include valid

/-- The net with another rate is the net of the document with another rate. -/
theorem withRate_eq {id : String} {index : Nat} (found : net.transitionIndex? id = some index)
    (rate : Float) :
    ∃ next, net.withRate id rate = .ok next ∧
      ofDocument ((Change.setRate id rate).apply d) = .ok next := by
  obtain rfl := document_of_ofDocument valid
  have replaced := modify_eq_map (wellFormed_of_ofDocument valid).transitionIds found
    fun t => { t with rate := rate, isNegated := false }
  refine ⟨_, ?_, (Change.alike_setRate net.document id rate).ofDocument valid⟩
  rw [withRate, found]
  simp only [replaced]
  rfl

/-- The net with another initial count is the net of the document with another initial count. -/
theorem withInitialTokens_eq {id : String} {index : Nat} (found : net.placeIndex? id = some index)
    (tokens : Int) :
    ∃ next, net.withInitialTokens id tokens = .ok next ∧
      ofDocument ((Change.setTokens id tokens).apply d) = .ok next := by
  obtain rfl := document_of_ofDocument valid
  have replaced := modify_eq_map (wellFormed_of_ofDocument valid).placeIds found
    fun p => { p with initial := .int tokens }
  refine ⟨_, ?_, (Change.alike_setTokens net.document id tokens).ofDocument valid⟩
  rw [withInitialTokens, found]
  simp only [replaced]
  rfl

/-- A variation by an element that is there is the net of the changed document. -/
theorem vary_of_applies {change : Change} (applies : change.Applies d) :
    ∃ next, net.vary change = .ok next ∧ ofDocument (change.apply d) = .ok next := by
  have tabulates := tabulates_of_ofDocument valid
  have sound := (change.keeps d).sound (exists_ofDocument_iff.1 ⟨net, valid⟩)
  obtain ⟨next, revalidated⟩ := exists_ofDocument_iff.2 sound
  obtain rfl := document_of_ofDocument valid
  cases change with
  | removePlace id =>
    obtain ⟨p, here⟩ := List.mem_iff_getElem?.1 applies
    refine ⟨next, ?_, revalidated⟩
    rw [vary, withoutPlace, (tabulates.placeIndex id p).2 here]
    exact revalidated
  | removeTransition id =>
    obtain ⟨t, here⟩ := List.mem_iff_getElem?.1 applies
    refine ⟨next, ?_, revalidated⟩
    rw [vary, withoutTransition, (tabulates.transitionIndex id t).2 here]
    exact revalidated
  | removeArc index =>
    refine ⟨next, ?_, revalidated⟩
    rw [vary, withoutArc, if_pos (show index < net.arcs.length from applies)]
    exact revalidated
  | setRate id rate =>
    obtain ⟨t, here⟩ := List.mem_iff_getElem?.1 applies
    exact withRate_eq valid ((tabulates.transitionIndex id t).2 here) rate
  | setTokens id tokens =>
    obtain ⟨p, here⟩ := List.mem_iff_getElem?.1 applies
    exact withInitialTokens_eq valid ((tabulates.placeIndex id p).2 here) tokens

theorem vary_of_not_applies {change : Change} (absent : ¬change.Applies d) :
    net.vary change = .error change.refusal := by
  obtain rfl := document_of_ofDocument valid
  cases change with
  | removePlace id =>
    rw [vary, withoutPlace, placeIndex?, Document.placeIndex?_eq_none_iff.2 absent]
    rfl
  | removeTransition id =>
    rw [vary, withoutTransition, transitionIndex?, Document.transitionIndex?_eq_none_iff.2 absent]
    rfl
  | removeArc index =>
    rw [vary, withoutArc, if_neg (show ¬index < net.arcs.length from absent)]
    rfl
  | setRate id rate =>
    rw [vary, withRate, transitionIndex?, Document.transitionIndex?_eq_none_iff.2 absent]
    rfl
  | setTokens id tokens =>
    rw [vary, withInitialTokens, placeIndex?, Document.placeIndex?_eq_none_iff.2 absent]
    rfl

end

/-! ### Entries by ids -/

/-- The entry of a table for a place and a transition with given ids. -/
def entryAt? (net : Net) (direction : Direction) (plain : Bool) (place transition : String) :
    Option Nat := do
  let p ← net.placeIndex? place
  let t ← net.transitionIndex? transition
  (net.table direction plain).get? p t

theorem Tabulates.entryAt? {net : Net} {d : Document} (tabulates : net.Tabulates d)
    {place transition : String} (isPlace : place ∈ d.placeIds)
    (isTransition : transition ∈ d.transitionIds) (direction : Direction) (plain : Bool) :
    net.entryAt? direction plain place transition =
      some (d.arcs.countP (Arc.isCounted direction plain place transition)) := by
  obtain ⟨p, atPlace⟩ := List.mem_iff_getElem?.1 isPlace
  obtain ⟨t, atTransition⟩ := List.mem_iff_getElem?.1 isTransition
  have found := (tabulates.placeIndex place p).2 atPlace
  have found' := (tabulates.transitionIndex transition t).2 atTransition
  rw [Document.placeIds, List.getElem?_map] at atPlace
  rw [Document.transitionIds, List.getElem?_map] at atTransition
  obtain ⟨_, here, rfl⟩ := Option.map_eq_some_iff.1 atPlace
  obtain ⟨_, here', rfl⟩ := Option.map_eq_some_iff.1 atTransition
  have entry := tabulates.entries direction plain p t
  rw [here, here'] at entry
  rw [Net.entryAt?, found, found']
  exact entry

/-- A variation by an element that is there is the net of the changed document: it is not refused,
and the tables have the entries of before for all that remains, less the arc that is taken out. A
variation by an element that is not there is refused. -/
theorem vary_revalidates {d : Document} {net : Net} (valid : ofDocument d = .ok net)
    (change : Change) :
    (change.Applies d → ∃ next, net.vary change = .ok next ∧
      ofDocument (change.apply d) = .ok next ∧
      ∀ direction plain, ∀ place ∈ (change.apply d).placeIds,
        ∀ transition ∈ (change.apply d).transitionIds,
          ∃ count, next.entryAt? direction plain place transition = some count ∧
            net.entryAt? direction plain place transition =
              some (count + change.loss d direction plain place transition)) ∧
    (¬change.Applies d → net.vary change = .error change.refusal) := by
  refine ⟨fun applies => ?_, vary_of_not_applies valid⟩
  obtain ⟨next, varied, revalidated⟩ := vary_of_applies valid applies
  refine ⟨next, varied, revalidated, ?_⟩
  intro direction plain place isPlace transition isTransition
  have before := tabulates_of_ofDocument valid
  have after := tabulates_of_ofDocument revalidated
  have sound := exists_ofDocument_iff.1 ⟨net, valid⟩
  have wasPlace := (change.keeps d).placeIds.mem isPlace
  have wasTransition := (change.keeps d).transitionIds.mem isTransition
  refine ⟨_, after.entryAt? isPlace isTransition direction plain, ?_⟩
  rw [before.entryAt? wasPlace wasTransition,
    Change.countP_apply sound applies isPlace isTransition]

/-- The shop with one arc less from its stock takes one item in place of two, and without its stock
books sales as before. It has no transition to be taken out by another name. -/
theorem vary_revalidates_shop :
    ∃ net, ofDocument shop = .ok net ∧
      (∃ next, net.vary (.removeArc 2) = .ok next ∧
        next.entryAt? .input false "stock" "sell" = some 1 ∧
        net.entryAt? .input false "stock" "sell" = some 2) ∧
      (∃ next, net.vary (.removePlace "stock") = .ok next ∧
        next.entryAt? .output true "ledger" "sell" = net.entryAt? .output true "ledger" "sell") ∧
      net.vary (.removeTransition "buy") = .error (.unknownElement .transition "buy") := by
  refine ⟨_, rfl, ?_, ?_, ?_⟩
  · have inside : 2 < shop.arcs.length := by decide
    obtain ⟨next, varied, -, entries⟩ := (vary_revalidates rfl (.removeArc 2)).1 inside
    obtain ⟨count, after, before⟩ := entries .input false "stock" (by decide) "sell" (by decide)
    have two : count + 1 = 2 := Option.some.inj before.symm
    obtain rfl : count = 1 := Nat.succ.inj two
    exact ⟨next, varied, after, before⟩
  · have isPlace : "stock" ∈ shop.placeIds := by decide
    obtain ⟨next, varied, -, entries⟩ := (vary_revalidates rfl (.removePlace "stock")).1 isPlace
    obtain ⟨count, after, before⟩ := entries .output true "ledger" (by decide) "sell" (by decide)
    exact ⟨next, varied, after.trans before.symm⟩
  · have absent : "buy" ∉ shop.transitionIds := by decide
    exact (vary_revalidates rfl (.removeTransition "buy")).2 absent

end Net

end GuardedNet

