import GuardedNet.Net.Diagnosis
import GuardedNet.Proofs.Net.Faults
import GuardedNet.Proofs.Run.History

/-!
# Places that never hold tokens

A diagnosis warns of a place that no transition gives to and that starts empty. The warning is read
off the tables of a net; here it is tied to the arcs (`emptyWarning_mem_iff`) and then to runs:
such a place is empty in every state, so no transition that takes from it is ever fired. Main
statement: `Execution.starved_performAll`.
-/

namespace GuardedNet

/-- The warning about a place that never holds tokens. -/
def emptyWarning (id : String) : String :=
  "place `" ++ id ++ "` has no producing transition and starts empty; it never holds tokens"

/-- A token place that declares no tokens, with an arc out of it and none into it. -/
structure Document.Starves (d : Document) (place : Place) : Prop where
  token : place.kind = .token
  empty : place.initialTokens = 0
  taken : ∃ arc ∈ d.arcs, arc.source = place.id
  notGiven : ¬∃ arc ∈ d.arcs, arc.target = place.id

/-! ### The warning -/

theorem emptyWarning_inj {id other : String} (same : emptyWarning id = emptyWarning other) :
    id = other := by
  simp only [emptyWarning, String.append_left_inj, String.append_right_inj] at same
  exact same

namespace Net

/-- No warning about a transition reads like one about a place. -/
theorem transitionWarning?_ne_emptyWarning (net : Net) (t : Nat) (transition : Transition)
    (id : String) : net.transitionWarning? t transition ≠ some (emptyWarning id) := by
  have apart : ∀ rest : String, "transition `" ++ rest ≠ emptyWarning id := by
    intro rest same
    have front := congrArg (fun s => s.toList.head?) same
    simp [emptyWarning] at front
  unfold transitionWarning?
  split
  · simp
  split
  · intro same
    have texts := Option.some.inj same
    rw [String.append_assoc] at texts
    exact apart _ texts
  split
  · intro same
    have texts := Option.some.inj same
    rw [String.append_assoc] at texts
    exact apart _ texts
  · simp

theorem any_pos_iff {counts : List Nat} :
    counts.any (· > 0) = true ↔ 0 < Number.total counts := by
  simp [Number.total_pos_iff]

namespace WellFormed

variable {net : Net} (formed : net.WellFormed) {p : Nat} {place : Place}
  (declared : net.places[p]? = some place)
include formed declared

theorem isProduced_iff :
    net.isProduced p = true ↔ ∃ arc ∈ net.arcs, arc.target = place.id := by
  have inside := (List.getElem?_eq_some_iff.1 declared).1
  rw [isProduced, any_pos_iff, formed.total_row_produced inside, arcsInto_pos_iff]
  simp [placeId, declared]

theorem isConsumed_iff :
    net.isConsumed p = true ↔ ∃ arc ∈ net.arcs, arc.source = place.id := by
  have inside := (List.getElem?_eq_some_iff.1 declared).1
  rw [isConsumed, any_pos_iff, formed.total_row_consumed inside, arcsFrom_pos_iff]
  simp [placeId, declared]

theorem neverHoldsTokens_iff :
    net.neverHoldsTokens p place = true ↔ net.document.Starves place := by
  have produced := formed.isProduced_iff declared
  have consumed := formed.isConsumed_iff declared
  simp only [neverHoldsTokens, Bool.and_eq_true, Bool.not_eq_true', ← Bool.not_eq_true, produced,
    consumed, Place.isToken, beq_iff_eq]
  constructor
  · rintro ⟨⟨⟨taken, notGiven⟩, token⟩, empty⟩
    exact ⟨token, empty, taken, notGiven⟩
  · rintro ⟨token, empty, taken, notGiven⟩
    exact ⟨⟨⟨taken, notGiven⟩, token⟩, empty⟩

/-- A place is warned of exactly if it starves. -/
theorem emptyWarning_mem_iff :
    emptyWarning place.id ∈ net.diagnose.warnings ↔ net.document.Starves place := by
  rw [← formed.neverHoldsTokens_iff declared, diagnose, List.mem_append, List.mem_filterMap,
    List.mem_filterMap]
  constructor
  · rintro (⟨⟨other, q⟩, member, warned⟩ | ⟨⟨transition, t⟩, -, warned⟩)
    · have here : net.places[q]? = some other := List.mem_zipIdx_iff_getElem?.1 member
      simp only [placeWarning?] at warned
      split at warned
      · rename_i never
        have named : other.id = place.id := emptyWarning_inj (Option.some.inj warned)
        have found : net.placeIndex? place.id = some q := by
          rw [formed.placeIndex?_eq_some_iff, here, ← named]
          rfl
        have found' : net.placeIndex? place.id = some p := by
          rw [formed.placeIndex?_eq_some_iff, declared]
          rfl
        obtain rfl : q = p := Option.some.inj (found.symm.trans found')
        obtain rfl : other = place := Option.some.inj (here.symm.trans declared)
        exact never
      · cases warned
    · exact absurd warned (net.transitionWarning?_ne_emptyWarning t transition place.id)
  · intro never
    left
    refine ⟨(place, p), List.mem_zipIdx_iff_getElem?.2 declared, ?_⟩
    simp only [placeWarning?, never, if_true]
    rfl

end WellFormed

end Net

/-! ### Runs -/

namespace Execution

/-- A place holds no tokens, and no transition that takes from it has been fired. -/
structure Dry (e : Execution) (p : Nat) : Prop where
  sized : Marking.Over e.net e.marking
  empty : e.marking.tokens p = 0
  unused : ∀ t ∈ e.history, t < e.net.transitions.length ∧ e.net.plainConsumed.entry p t = 0

/-- One firing leaves a place dry that the transition does not give to: it cannot have taken from
it. -/
theorem Dry.commit {e : Execution} {p : Nat} (dry : e.Dry p) (formed : e.net.WellFormed)
    (inside : p < e.net.places.length) {t : Nat} {next : Marking} (fires : e.Fires t next)
    (notGiven : e.net.plainProduced.entry p t = 0) : (e.commit t next).Dry p := by
  have enough := fires.enough formed dry.sized inside
  have after := fires.tokens formed dry.sized p
  have notTaken : e.net.plainConsumed.entry p t = 0 := by
    rw [dry.empty] at enough
    omega
  refine ⟨fires.sized formed dry.sized, ?_, ?_⟩
  · change next.tokens p = 0
    rw [after, dry.empty, Net.plainEffect, notGiven, notTaken]
    rfl
  · intro other member
    rcases List.mem_append.1 member with before | last
    · exact dry.unused other before
    · rw [List.mem_singleton.1 last]
      exact ⟨fires.inside, notTaken⟩

theorem dry_of_initial {e : Execution} {p : Nat} (marking : e.marking = Marking.initial e.net)
    (history : e.history = []) (empty : (Marking.initial e.net).tokens p = 0) : e.Dry p := by
  refine ⟨?_, ?_, ?_⟩
  · rw [marking, Marking.Over, Marking.initial, List.length_map]
  · rw [marking]
    exact empty
  · intro t member
    rw [history] at member
    cases member

/-- A place that starts empty and that no transition gives to is dry after every run. -/
theorem dry_performAll {net : Net} (formed : net.WellFormed) {p : Nat}
    (inside : p < net.places.length) (empty : (Marking.initial net).tokens p = 0)
    (notGiven : ∀ t < net.transitions.length, net.plainProduced.entry p t = 0) (checks : Bool)
    (requests : List Request) :
    ((start net checks).performAll requests).net = net ∧
      ((start net checks).performAll requests).Dry p := by
  apply performAll_induction fun e => e.net = net ∧ e.Dry p
  · exact ⟨rfl, dry_of_initial rfl rfl empty⟩
  · rintro e ⟨rfl, -⟩
    exact ⟨rfl, dry_of_initial rfl rfl empty⟩
  · rintro e t next ⟨rfl, dry⟩ fires
    exact ⟨rfl, dry.commit formed inside fires (notGiven t fires.inside)⟩

end Execution

/-! ### Starving places -/

namespace Document.Starves

variable {d : Document} {net : Net} (valid : Net.ofDocument d = .ok net) {p : Nat} {place : Place}
  (declared : net.places[p]? = some place) (starves : d.Starves place)
include declared starves

theorem initial_tokens : (Marking.initial net).tokens p = 0 := by
  rw [Marking.tokens, Execution.getElem?_initial, declared]
  simp [Place.initialCell, starves.empty]

include valid

/-- No transition gives to a starving place. -/
theorem plainProduced_entry {t : Nat} (inside : t < net.transitions.length) :
    net.plainProduced.entry p t = 0 := by
  have placeInside := (List.getElem?_eq_some_iff.1 declared).1
  have entry := (Net.wellFormed_of_ofDocument valid).entry_table placeInside inside .output true
  rw [Net.table] at entry
  rw [entry, List.countP_eq_zero]
  intro arc member counted
  have named : net.placeId p = place.id := by simp [Net.placeId, declared]
  simp only [Arc.isCounted, Bool.and_eq_true, beq_iff_eq, named] at counted
  rw [Net.arcs, Net.document_of_ofDocument valid] at member
  exact starves.notGiven ⟨arc, member, congrArg Prod.snd counted.1⟩

/-- A transition that takes nothing from a starving place has no arc from it, since all arcs at a
token place are plain. -/
theorem ne_of_plainConsumed_entry {t : Nat} (inside : t < net.transitions.length)
    (notTaken : net.plainConsumed.entry p t = 0) {arc : Arc} (member : arc ∈ d.arcs)
    (source : arc.source = place.id) : arc.target ≠ net.transitionId t := by
  intro target
  have sound := Net.exists_ofDocument_iff.1 ⟨net, valid⟩
  have placeInside := (List.getElem?_eq_some_iff.1 declared).1
  have entry := (Net.wellFormed_of_ofDocument valid).entry_table placeInside inside .input true
  have named : net.placeId p = place.id := by simp [Net.placeId, declared]
  obtain rfl := Net.document_of_ofDocument valid
  rw [Net.table, notTaken, named, Net.arcs, Net.countP_isCounted_of_token sound
    (List.mem_of_getElem? declared) starves.token] at entry
  apply List.countP_eq_zero.1 entry.symm arc member
  simp [Arc.isCounted, Arc.ends, Direction.ends, source, target]

end Document.Starves

namespace Execution

/-- A diagnosis warns of a place exactly if it counts tokens, declares none, and has arcs out of it
but none into it. A place that it warns of is empty after every run, with or without checks of the
invariants and whatever is asked of the execution, and no transition with an arc from the place is
in the history. -/
theorem starved_performAll {d : Document} {net : Net} (valid : Net.ofDocument d = .ok net)
    {p : Nat} {place : Place} (declared : net.places[p]? = some place) :
    (emptyWarning place.id ∈ net.diagnose.warnings ↔ d.Starves place) ∧
      (emptyWarning place.id ∈ net.diagnose.warnings →
        ∀ (checks : Bool) (requests : List Request),
          ((start net checks).performAll requests).marking.tokens p = 0 ∧
          ∀ arc ∈ d.arcs, arc.source = place.id →
            arc.target ∉ ((start net checks).performAll requests).historyIds) := by
  have formed := Net.wellFormed_of_ofDocument valid
  have warned := formed.emptyWarning_mem_iff declared
  rw [Net.document_of_ofDocument valid] at warned
  refine ⟨warned, ?_⟩
  intro reported checks requests
  have starves := warned.1 reported
  obtain ⟨sameNet, dry⟩ := dry_performAll formed (List.getElem?_eq_some_iff.1 declared).1
    (starves.initial_tokens declared)
    (fun t inside => starves.plainProduced_entry valid declared inside) checks requests
  refine ⟨dry.empty, ?_⟩
  intro arc member source fired
  obtain ⟨t, inHistory, named⟩ := List.mem_map.1 fired
  obtain ⟨inside, notTaken⟩ := dry.unused t inHistory
  rw [sameNet] at inside notTaken named
  exact starves.ne_of_plainConsumed_entry valid declared inside notTaken member source named.symm

/-- A bucket that rain fills, beside a well that nothing fills. -/
def yard : Document where
  name := "yard"
  version := "1"
  places := [⟨"well", .token, .str "dry", false, none⟩, ⟨"bucket", .token, .int 0, false, some 2⟩]
  transitions := [{ id := "draw", guard := none, rate := 1.0 },
    { id := "rain", guard := none, rate := 1.0 }]
  arcs := [⟨"well", "draw", [], none⟩, ⟨"draw", "bucket", [], none⟩, ⟨"rain", "bucket", [], none⟩]
  invariants := []

/-- Rain fills the bucket, and water is never drawn from the well. -/
theorem starved_performAll_yard :
    ∃ net, Net.ofDocument yard = .ok net ∧ emptyWarning "well" ∈ net.diagnose.warnings ∧
      let e := (start net true).performAll
        [.fire "rain", .fire "draw", .fireWithBindings "draw" [("water", .int 1)], .fire "rain"]
      e.historyIds = ["rain", "rain"] ∧ e.marking.tokens 0 = 0 ∧ "draw" ∉ e.historyIds := by
  refine ⟨_, rfl, ?_⟩
  obtain ⟨warned, runs⟩ := starved_performAll (d := yard) (p := 0) rfl rfl
  have reported := warned.2 ⟨rfl, by decide, by decide, by decide⟩
  obtain ⟨empty, unused⟩ := runs reported true
    [.fire "rain", .fire "draw", .fireWithBindings "draw" [("water", .int 1)], .fire "rain"]
  exact ⟨reported, by rfl, empty, unused ⟨"well", "draw", [], none⟩ (by decide) rfl⟩

end Execution

end GuardedNet
