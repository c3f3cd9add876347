import Mathlib.Algebra.BigOperators.Group.List.Basic
import Mathlib.Algebra.Order.Ring.Int
import GuardedNet.Proofs.Run.Path

/-!
# Runs of an execution

A run is any sequence of requests to fire or to start over; a request that fails leaves the
execution as it is. Main statements: what a run keeps true of the state
(`Execution.consistent_performAll`), and its reading for a net that is checked from the start
(`Execution.performAll_keeps`).
-/

namespace GuardedNet

/-- What can be asked of an execution. -/
inductive Request where
  | fire (id : String)
  | fireWithBindings (id : String) (bindings : Dictionary Value)
  | fireWithFunctions (id : String) (bindings : Dictionary Value)
      (functions : Guard.FunctionTable)
  | reset

/-- The transition that a request asks to fire. -/
def Request.transition? : Request → Option String
  | .fire id => some id
  | .fireWithBindings id _ => some id
  | .fireWithFunctions id _ _ => some id
  | .reset => none

/-- The tokens that a transition gives to a place less those that it takes, arcs with keys left
aside. -/
def Net.plainEffect (net : Net) (p t : Nat) : Int :=
  net.plainProduced.entry p t - net.plainConsumed.entry p t

namespace Execution

/-- The outcome of a request. -/
def attempt (e : Execution) : Request → Except FireError Execution
  | .fire id => e.fire id
  | .fireWithBindings id bindings => e.fireWith id bindings []
  | .fireWithFunctions id bindings functions => e.fireWith id bindings functions
  | .reset => .ok e.reset

/-- The execution after a request; one that fails changes nothing. -/
def perform (e : Execution) (request : Request) : Execution :=
  match e.attempt request with
  | .ok after => after
  | .error _ => e

/-- The execution after requests, from first to last. -/
def performAll (e : Execution) (requests : List Request) : Execution :=
  requests.foldl perform e

/-! ### One firing -/

/-- A transition leads from the current marking to another: tokens flow, keyed arcs change
data at most, and the invariants that are checked hold. -/
structure Fires (e : Execution) (t : Nat) (next : Marking) : Prop where
  inside : t < e.net.transitions.length
  moved : ∃ flowed, e.net.flowTokens e.marking t = .ok flowed ∧ Net.SameTokens flowed next
  checked : e.checkSuccessor next = .ok ()

theorem lookup_eq_ok {e : Execution} {id : String} {t : Nat} (found : e.lookup id = .ok t) :
    e.net.transitionIndex? id = some t ∧ t < e.net.transitions.length := by
  unfold lookup at found
  split at found
  · rename_i here
    obtain rfl := Except.ok.inj found
    obtain ⟨transition, there, -⟩ := exists_of_findIdx?_id here
    exact ⟨here, (List.getElem?_eq_some_iff.1 there).1⟩
  · cases found

/-- What a successful firing by tokens alone does. -/
theorem fire_eq_ok {e after : Execution} {id : String} (fired : e.fire id = .ok after) :
    ∃ t next, e.net.transitionIndex? id = some t ∧ e.Fires t next ∧ after = e.commit t next := by
  rw [fire, bind_eq_ok] at fired
  obtain ⟨t, found, fired⟩ := fired
  rw [bind_eq_ok] at fired
  obtain ⟨next, allowed, fired⟩ := fired
  obtain rfl := Except.ok.inj fired
  obtain ⟨flowed, checked⟩ := successor_eq_ok_iff.1 allowed
  obtain ⟨named, inside⟩ := lookup_eq_ok found
  exact ⟨t, next, named, ⟨inside, ⟨next, flowed, rfl, fun _ => rfl, fun _ => rfl⟩, checked⟩, rfl⟩

/-- What leads to a marking under bindings: tokens flow, keyed arcs transfer, and the invariants
that are checked hold. -/
theorem guardedSuccessor_eq_ok {e : Execution} {t : Nat} {bindings : Dictionary Value}
    {functions : Guard.FunctionTable} {next : Marking}
    (allowed : e.guardedSuccessor t bindings functions = .ok next) :
    ∃ flowed, e.net.flowTokens e.marking t = .ok flowed ∧
      e.net.transferAll bindings flowed (e.net.keyedArcs t) = .ok next ∧
      e.checkSuccessor next = .ok () := by
  rw [guardedSuccessor, bind_eq_ok] at allowed
  obtain ⟨⟨⟩, -, allowed⟩ := allowed
  rw [bind_eq_ok] at allowed
  obtain ⟨flowed, tokens, allowed⟩ := allowed
  rw [bind_eq_ok] at allowed
  obtain ⟨keyed, transferred, allowed⟩ := allowed
  rw [bind_eq_ok] at allowed
  obtain ⟨⟨⟩, checked, same⟩ := allowed
  obtain rfl := Except.ok.inj same
  unfold applyKeyedArcs at transferred
  split at transferred
  · rename_i moved
    obtain rfl := Except.ok.inj transferred
    exact ⟨flowed, tokens, moved, checked⟩
  · cases transferred

theorem exists_guardedSuccessor_of_fireWith {e after : Execution} {id : String}
    {bindings : Dictionary Value} {functions : Guard.FunctionTable}
    (fired : e.fireWith id bindings functions = .ok after) :
    ∃ t next, e.lookup id = .ok t ∧ e.guardedSuccessor t bindings functions = .ok next ∧
      after = e.commit t next := by
  rw [fireWith, bind_eq_ok] at fired
  obtain ⟨t, found, fired⟩ := fired
  rw [bind_eq_ok] at fired
  obtain ⟨next, allowed, fired⟩ := fired
  exact ⟨t, next, found, allowed, (Except.ok.inj fired).symm⟩

/-- What a successful firing under bindings does, whatever they and the functions are. -/
theorem fireWith_eq_ok {e after : Execution} {id : String} {bindings : Dictionary Value}
    {functions : Guard.FunctionTable} (fired : e.fireWith id bindings functions = .ok after) :
    ∃ t next, e.net.transitionIndex? id = some t ∧ e.Fires t next ∧ after = e.commit t next := by
  obtain ⟨t, next, found, allowed, rfl⟩ := exists_guardedSuccessor_of_fireWith fired
  obtain ⟨flowed, tokens, moved, checked⟩ := guardedSuccessor_eq_ok allowed
  obtain ⟨named, inside⟩ := lookup_eq_ok found
  exact ⟨t, next, named, ⟨inside, ⟨flowed, tokens, Net.sameTokens_of_transferAll moved⟩, checked⟩,
    rfl⟩

/-- Every successful request that names a transition fires it. -/
theorem attempt_eq_ok {e after : Execution} {request : Request} {id : String}
    (named : request.transition? = some id) (done : e.attempt request = .ok after) :
    ∃ t next, e.net.transitionIndex? id = some t ∧ e.Fires t next ∧ after = e.commit t next := by
  cases request with
  | fire =>
    obtain rfl := Option.some.inj named
    exact fire_eq_ok done
  | fireWithBindings =>
    obtain rfl := Option.some.inj named
    exact fireWith_eq_ok done
  | fireWithFunctions =>
    obtain rfl := Option.some.inj named
    exact fireWith_eq_ok done
  | reset => cases named

section Fires

variable {e : Execution} (formed : e.net.WellFormed) (here : Marking.Over e.net e.marking)
  {t : Nat} {next : Marking} (fires : e.Fires t next)
include formed here fires

theorem Fires.sized : Marking.Over e.net next := by
  obtain ⟨flowed, flow, same⟩ := fires.moved
  exact same.length.trans (Net.moves_of_flowTokens formed here flow).sized

/-- Every place gains the effect of the transition. -/
theorem Fires.tokens (p : Nat) : next.tokens p = e.marking.tokens p + e.net.plainEffect p t := by
  obtain ⟨flowed, flow, same⟩ := fires.moved
  have moved := (Net.moves_of_flowTokens formed here flow).tokens p
  rw [same.tokens p, moved, Net.plainEffect]
  omega

/-- Every place had the tokens that were taken. -/
theorem Fires.enough {p : Nat} (inside : p < e.net.places.length) :
    (e.net.plainConsumed.entry p t : Int) ≤ e.marking.tokens p := by
  obtain ⟨flowed, flow, -⟩ := fires.moved
  exact (Net.moves_of_flowTokens formed here flow).enough p inside

/-- A place is within the bounds and its capacity, or holds no more than before. -/
theorem Fires.bounded {p : Nat} {place : Place} (declared : e.net.places[p]? = some place) :
    (Number.Fits (next.tokens p) ∧ ∀ c, place.capacity = some c → next.tokens p ≤ c) ∨
      next.tokens p ≤ e.marking.tokens p := by
  have after := fires.tokens formed here p
  obtain ⟨flowed, flow, same⟩ := fires.moved
  rcases Nat.eq_zero_or_pos (e.net.plainProduced.entry p t) with zero | positive
  · right
    rw [Net.plainEffect, zero] at after
    omega
  · left
    rw [same.tokens p]
    exact (Net.moves_of_flowTokens formed here flow).bounded p place declared positive

theorem Fires.data (p : Nat) : (next.data? p).isSome = (e.marking.data? p).isSome := by
  obtain ⟨flowed, flow, same⟩ := fires.moved
  rw [same.data p, (Net.moves_of_flowTokens formed here flow).data p]

end Fires

/-- A request changes nothing, starts over, or fires one transition. -/
theorem perform_cases (e : Execution) (request : Request) :
    e.perform request = e ∨ e.perform request = e.reset ∨
      ∃ t next, e.Fires t next ∧ e.perform request = e.commit t next := by
  unfold perform
  cases outcome : e.attempt request with
  | error cause => exact Or.inl rfl
  | ok after =>
    refine Or.inr ?_
    cases named : request.transition? with
    | some id =>
      obtain ⟨t, next, -, fires, same⟩ := attempt_eq_ok named outcome
      exact Or.inr ⟨t, next, fires, same⟩
    | none =>
      cases request with
      | reset => exact Or.inl (Except.ok.inj outcome).symm
      | _ => cases named

/-- What holds at the start, and is kept by starting over and by every firing, holds after
every run. -/
theorem performAll_induction (holds : Execution → Prop) {e : Execution} (start : holds e)
    (reset : ∀ e, holds e → holds e.reset)
    (commit : ∀ e t next, holds e → e.Fires t next → holds (e.commit t next))
    (requests : List Request) : holds (e.performAll requests) := by
  induction requests generalizing e with
  | nil => exact start
  | cons request requests ih =>
    refine ih ?_
    rcases perform_cases e request with same | same | ⟨t, next, fires, same⟩
    · rw [same]
      exact start
    · rw [same]
      exact reset e start
    · rw [same]
      exact commit e t next start fires

/-! ### What runs keep -/

/-- The state agrees with its history: counts are those of the start changed by every firing,
they are not negative and respect bounds and capacities as far as the start does, data is with
the data places, and after a firing the invariants that are checked hold. -/
structure Consistent (e : Execution) : Prop where
  sized : Marking.Over e.net e.marking
  tokens : ∀ p, e.marking.tokens p =
    (Marking.initial e.net).tokens p + (e.history.map (e.net.plainEffect p)).sum
  nonneg : ∀ p, 0 ≤ e.marking.tokens p
  bounded : ∀ p, e.marking.tokens p ≤ max Number.greatest ((Marking.initial e.net).tokens p)
  capacity : ∀ (p : Nat) (place : Place) (c : Int), e.net.places[p]? = some place →
    place.capacity = some c → e.marking.tokens p ≤ max c ((Marking.initial e.net).tokens p)
  count : e.sequence = e.history.length
  data : ∀ (p : Nat) (place : Place), e.net.places[p]? = some place →
    ((e.marking.data? p).isSome ↔ place.isToken = false)
  invariants : e.checksInvariants = true → 0 < e.sequence →
    ∀ invariant ∈ e.net.document.invariants,
      e.net.evalInvariant e.marking invariant = .ok true

theorem getElem?_initial (net : Net) (p : Nat) :
    (Marking.initial net)[p]? = net.places[p]?.map Place.initialCell := by
  simp [Marking.initial]

theorem initial_tokens_nonneg (net : Net) (p : Nat) : 0 ≤ (Marking.initial net).tokens p := by
  rw [Marking.tokens, getElem?_initial]
  cases net.places[p]? with
  | none => exact Int.le_refl 0
  | some place => exact Int.le_max_right _ _

/-- The initial marking is consistent with an empty history. -/
theorem consistent_of_initial {e : Execution} (marking : e.marking = Marking.initial e.net)
    (sequence : e.sequence = 0) (history : e.history = []) : e.Consistent := by
  refine ⟨?_, fun p => ?_, fun p => ?_, fun p => ?_, fun p place c _ _ => ?_, ?_,
    fun p place here => ?_, fun _ fired => ?_⟩
  · rw [marking, Marking.Over, Marking.initial, List.length_map]
  · rw [marking, history]
    simp
  · rw [marking]
    exact initial_tokens_nonneg e.net p
  · rw [marking]
    exact Int.le_max_right _ _
  · rw [marking]
    exact Int.le_max_right _ _
  · rw [sequence, history]
    rfl
  · rw [marking, Marking.data?, getElem?_initial, here]
    cases token : place.isToken <;> simp [Place.initialCell, token]
  · rw [sequence] at fired
    exact absurd fired (Nat.lt_irrefl 0)

/-- One firing keeps a state consistent. -/
theorem Consistent.commit {e : Execution} (formed : e.net.WellFormed) (consistent : e.Consistent)
    {t : Nat} {next : Marking} (fires : e.Fires t next) : (e.commit t next).Consistent := by
  have sized := fires.sized formed consistent.sized
  refine ⟨sized, fun p => ?_, fun p => ?_, fun p => ?_, fun p place c here limited => ?_, ?_,
    fun p place here => ?_, fun checks _ => ?_⟩
  · change next.tokens p = (Marking.initial e.net).tokens p +
      ((e.history ++ [t]).map (e.net.plainEffect p)).sum
    rw [fires.tokens formed consistent.sized, consistent.tokens, List.map_append,
      List.sum_append, List.map_singleton, List.sum_singleton, Int.add_assoc]
  · change 0 ≤ next.tokens p
    by_cases inside : p < e.net.places.length
    · have enough := fires.enough formed consistent.sized inside
      have after := fires.tokens formed consistent.sized p
      rw [Net.plainEffect] at after
      omega
    · exact Int.le_of_eq (Marking.tokens_eq_zero (sized ▸ Nat.le_of_not_lt inside)).symm
  · change next.tokens p ≤ max Number.greatest ((Marking.initial e.net).tokens p)
    by_cases inside : p < e.net.places.length
    · rcases fires.bounded formed consistent.sized (List.getElem?_eq_getElem inside) with
        ⟨⟨-, fits⟩, -⟩ | less
      · exact Int.le_trans fits (Int.le_max_left _ _)
      · exact Int.le_trans less (consistent.bounded p)
    · rw [Marking.tokens_eq_zero (sized ▸ Nat.le_of_not_lt inside)]
      exact Int.le_trans (initial_tokens_nonneg e.net p) (Int.le_max_right _ _)
  · change next.tokens p ≤ max c ((Marking.initial e.net).tokens p)
    rcases fires.bounded formed consistent.sized here with ⟨-, within⟩ | less
    · exact Int.le_trans (within c limited) (Int.le_max_left _ _)
    · exact Int.le_trans less (consistent.capacity p place c here limited)
  · change e.sequence + 1 = (e.history ++ [t]).length
    rw [consistent.count, List.length_append, List.length_singleton]
  · change (next.data? p).isSome ↔ place.isToken = false
    rw [fires.data formed consistent.sized p]
    exact consistent.data p place here
  · have checked := fires.checked
    rw [checkSuccessor, if_pos (show e.checksInvariants = true from checks)] at checked
    exact Net.checkInvariants_eq_ok_iff.1 checked

/-- Every run leaves the state consistent, with the same net and the same checks. -/
theorem consistent_performAll {net : Net} (formed : net.WellFormed) (checks : Bool)
    (requests : List Request) :
    ((start net checks).performAll requests).net = net ∧
      ((start net checks).performAll requests).checksInvariants = checks ∧
      ((start net checks).performAll requests).Consistent := by
  refine performAll_induction (fun e => e.net = net ∧ e.checksInvariants = checks ∧
    e.Consistent) ⟨rfl, rfl, consistent_of_initial rfl rfl rfl⟩ ?_ ?_ requests
  · rintro e ⟨sameNet, sameChecks, -⟩
    exact ⟨sameNet, sameChecks, consistent_of_initial rfl rfl rfl⟩
  · rintro e t next ⟨sameNet, sameChecks, consistent⟩ fires
    exact ⟨sameNet, sameChecks, consistent.commit (sameNet ▸ formed) fires⟩

/-- In a consistent state no keyed arc of a transition finds its place without data. -/
theorem Consistent.data_of_keyedArcs {e : Execution} (formed : e.net.WellFormed)
    (consistent : e.Consistent) {t : Nat} {flowed m : Marking} {bindings : Dictionary Value}
    {front rest : List (Flow × Arc)} {keyed : Flow × Arc}
    (flow : e.net.flowTokens e.marking t = .ok flowed)
    (arcs : e.net.keyedArcs t = front ++ keyed :: rest)
    (applied : e.net.transferAll bindings flowed front = .ok m) :
    (m.data? keyed.1.place).isSome := by
  rw [(Net.sameTokens_of_transferAll applied).data,
    (Net.moves_of_flowTokens formed consistent.sized flow).data]
  have member : keyed ∈ e.net.keyedArcs t := by
    rw [arcs]
    exact List.mem_append_right _ (List.mem_cons_self ..)
  obtain ⟨inArcs, picked⟩ := List.mem_filter.1 member
  have isKeyed : keyed.1.keyed = true := (Bool.and_eq_true_iff.1 picked).1
  obtain ⟨arc, -, joins⟩ := formed.exists_joins (List.of_mem_zip inArcs).1
  have here := List.getElem?_eq_getElem joins.place_lt
  exact (consistent.data _ _ here).2 (joins.isData isKeyed _ here)

/-- Whatever is asked of an execution that starts with a net and checks invariants, however
often and with whatever outcome: the tokens of every place are those of the start changed by
every transition in the history, they are not negative, and they exceed neither the bounds nor
a capacity unless the start does; the history has one transition for each firing; exactly the
data places hold data, also when keyed arcs are applied; and after a firing every declared
invariant is true. -/
theorem performAll_keeps {d : Document} {net : Net} (valid : Net.ofDocument d = .ok net)
    (requests : List Request) :
    let e := (start net true).performAll requests
    (∀ p, e.marking.tokens p =
      (Marking.initial net).tokens p + (e.history.map (net.plainEffect p)).sum) ∧
    (∀ p, 0 ≤ e.marking.tokens p ∧
      e.marking.tokens p ≤ max Number.greatest ((Marking.initial net).tokens p)) ∧
    (∀ (p : Nat) (place : Place) (c : Int), net.places[p]? = some place →
      place.capacity = some c → e.marking.tokens p ≤ max c ((Marking.initial net).tokens p)) ∧
    e.sequence = e.history.length ∧
    (e.marking.length = net.places.length ∧
      (∀ (p : Nat) (place : Place), net.places[p]? = some place →
        ((e.marking.data? p).isSome ↔ place.kind = .data)) ∧
      ∀ (t : Nat) (flowed m : Marking) (bindings : Dictionary Value)
        (front rest : List (Flow × Arc)) (keyed : Flow × Arc),
        net.flowTokens e.marking t = .ok flowed → net.keyedArcs t = front ++ keyed :: rest →
        net.transferAll bindings flowed front = .ok m → (m.data? keyed.1.place).isSome) ∧
    (0 < e.sequence → ∀ outcome ∈ e.invariantOutcomes, outcome.2 = .ok true) := by
  intro e
  have formed := Net.wellFormed_of_ofDocument valid
  obtain ⟨sameNet, checks, consistent⟩ : e.net = net ∧ e.checksInvariants = true ∧ e.Consistent :=
    consistent_performAll formed true requests
  clear_value e
  subst sameNet
  refine ⟨consistent.tokens, fun p => ⟨consistent.nonneg p, consistent.bounded p⟩,
    consistent.capacity, consistent.count, ⟨consistent.sized, fun p place here => ?_, ?_⟩, ?_⟩
  · rw [consistent.data p place here, Place.isToken]
    cases place.kind <;> decide
  · intro t flowed m bindings front rest keyed flow arcs applied
    exact consistent.data_of_keyedArcs formed flow arcs applied
  · intro fired outcome member
    obtain ⟨invariant, declared, rfl⟩ := List.mem_map.1 member
    exact consistent.invariants checks fired invariant declared

/-- Balances by owner beside their total, which a transition raises together. -/
def ledger : Document where
  name := "ledger"
  version := "1"
  places := [⟨"balances", .data, .map [("alice", .int 5)], true, none⟩,
    ⟨"supply", .token, .int 5, true, some 7⟩]
  transitions := [{ id := "mint", guard := some "amount > 0", rate := 1.0 }]
  arcs := [⟨"mint", "balances", ["to"], some "amount"⟩, ⟨"mint", "supply", [], none⟩]
  invariants := [⟨"positive", "supply > 0"⟩]

/-- The ledger keeps its counts and its invariant through a firing, an unknown transition, a new
start and another firing. -/
theorem performAll_keeps_ledger :
    ∃ net, Net.ofDocument ledger = .ok net ∧
      let mint : Request := .fireWithBindings "mint" [("to", .str "bob"), ("amount", .int 2)]
      let e := (start net true).performAll [mint, .fire "burn", .reset, mint]
      e.marking.tokens 1 = 5 + (e.history.map (net.plainEffect 1)).sum ∧
        e.marking.tokens 1 ≤ 7 ∧ (e.marking.data? 0).isSome ∧ ¬(e.marking.data? 1).isSome ∧
        e.invariantOutcomes.length = 1 ∧ ∀ outcome ∈ e.invariantOutcomes, outcome.2 = .ok true := by
  refine ⟨_, rfl, ?_⟩
  intro mint e
  obtain ⟨tokens, -, capacity, -, ⟨-, data, -⟩, invariants⟩ := performAll_keeps (d := ledger) rfl
    [mint, .fire "burn", .reset, mint]
  have fired : 0 < e.sequence := by decide +kernel
  have declared : e.invariantOutcomes.length = 1 := by decide +kernel
  refine ⟨tokens 1, capacity 1 _ 7 rfl rfl, (data 0 _ rfl).2 rfl, fun isSome => ?_, declared,
    invariants fired⟩
  exact absurd ((data 1 _ rfl).1 isSome) (by decide)

end Execution

end GuardedNet
