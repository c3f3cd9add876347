import Mathlib.Algebra.BigOperators.Group.List.Basic
import GuardedNet.Proofs.Run.History
import GuardedNet.Proofs.Value

/-!
# Keyed transfers

An arc with keys changes the entry that its keys lead to, and nothing beside the path to it. Main
statement: a transfer succeeds exactly if the keys resolve, only maps stand along the path and the
new amount lies within the bounds, and the leaves of a data place add up to as much more as the
keyed arcs of a firing give it, less what they take (`Execution.keyedTransfers_exact`).
-/

namespace GuardedNet

/-! ### Keys -/

/-- The map key that a key of an arc stands for; what is bound to no scalar gives the empty key. -/
def resolvedKey (bindings : Dictionary Value) (key : String) : String :=
  match Dictionary.get? key bindings with
  | none => key
  | some bound => bound.asKey?.getD ""

/-- The path that the keys of an arc stand for. -/
def resolvedPath (bindings : Dictionary Value) (keys : List String) : List String :=
  keys.map (resolvedKey bindings)

@[simp] theorem resolvedPath_nil (bindings : Dictionary Value) :
    resolvedPath bindings [] = [] := rfl

@[simp] theorem resolvedPath_cons (bindings : Dictionary Value) (key : String)
    (keys : List String) :
    resolvedPath bindings (key :: keys) = resolvedKey bindings key :: resolvedPath bindings keys :=
  rfl

/-- What the key is bound to, if anything, is a scalar. -/
def KeyResolves (bindings : Dictionary Value) (key : String) : Prop :=
  ∀ bound, Dictionary.get? key bindings = some bound → bound.isScalar = true

theorem resolveKey_eq_ok_iff {bindings : Dictionary Value} {key name : String} :
    resolveKey bindings key = .ok name ↔
      KeyResolves bindings key ∧ name = resolvedKey bindings key := by
  unfold resolveKey resolvedKey KeyResolves
  cases Dictionary.get? key bindings with
  | none => simp [@eq_comm _ key]
  | some bound =>
    have scalar := bound.isSome_asKey?
    cases found : bound.asKey? with
    | none => simp [← scalar, found]
    | some own => simp [← scalar, found, @eq_comm _ own]

/-! ### Entries that are missing -/

namespace Value

variable {path : List String}

theorem read?_missing {other : List String} (some : other ≠ []) :
    (missingEntry path).read? other = none := by
  cases other with
  | nil => exact absurd rfl some
  | cons key other => cases path <;> rfl

theorem viewAt_missing {view : Value → Int} (zero : view (.int 0) = 0) (path : List String) :
    (missingEntry path).viewAt view path = 0 := by
  cases path with
  | nil => exact zero
  | cons key path => rfl

theorem leafSum_missing (path : List String) : (missingEntry path).leafSum = 0 := by
  cases path <;> rfl

theorem mapsAlong_missing (path : List String) : (missingEntry path).MapsAlong path := by
  cases path with
  | nil => exact mapsAlong_nil _
  | cons key path => exact mapsAlong_cons_iff.2 ⟨[], rfl, by simp⟩

/-- What a key reads in a map, or what counts for it if it is missing. -/
def slot (key : String) (path : List String) (entries : List (String × Value)) : Value :=
  (Dictionary.get? key entries).getD (missingEntry path)

variable {key : String} {entries : List (String × Value)}

theorem read?_slot {other : List String} (some : other ≠ []) :
    (slot key path entries).read? other = (map entries).read? (key :: other) := by
  rw [slot, read?_cons]
  cases Dictionary.get? key entries with
  | none => exact read?_missing some
  | some value => rfl

theorem viewAt_slot {view : Value → Int} (zero : view (.int 0) = 0) :
    (slot key path entries).viewAt view path = (map entries).viewAt view (key :: path) := by
  rw [slot, viewAt, viewAt, read?_cons]
  cases Dictionary.get? key entries with
  | none => exact viewAt_missing zero path
  | some value => rfl

theorem amountAt_slot :
    (slot key path entries).amountAt path = (map entries).amountAt (key :: path) := viewAt_slot rfl

theorem leafSumAt_slot :
    (slot key path entries).leafSumAt path = (map entries).leafSumAt (key :: path) :=
  viewAt_slot rfl

theorem leafSum_slot : (slot key path entries).leafSum =
    ((Dictionary.get? key entries).map leafSum).getD 0 := by
  rw [slot]
  cases Dictionary.get? key entries with
  | none => exact leafSum_missing path
  | some value => rfl

theorem mapsAlong_slot_iff : (slot key path entries).MapsAlong path ↔
    (map entries).MapsAlong (key :: path) := by
  rw [mapsAlong_cons_iff, slot]
  cases found : Dictionary.get? key entries with
  | none => simp [mapsAlong_missing, found]
  | some value => simp [found]

end Value

/-! ### One transfer -/

section Adjust

variable {bindings : Dictionary Value} {change : Int}

theorem adjustEntry_nil_eq_ok_iff {before after : Value} :
    adjustEntry bindings change [] before = .ok after ↔
      Number.Fits (before.amountAt [] + change) ∧
        after = .int (before.amountAt [] + change) := by
  have amount : before.amountAt [] = before.asInt?.getD 0 :=
    Value.viewAt_of_read? (Value.read?_nil before)
  rw [amount, adjustEntry]
  split
  · rename_i n fitted
    obtain ⟨fits, rfl⟩ := Number.fit?_eq_some_iff.1 fitted
    rw [Except.ok.injEq, eq_comm]
    exact ⟨fun same => ⟨fits, same⟩, And.right⟩
  · rename_i unfit
    have beyond : ¬Number.Fits (before.asInt?.getD 0 + change) := fun fits => by
      rw [Number.fit?_eq_some_iff.2 ⟨fits, rfl⟩] at unfit
      cases unfit
    simp [beyond]

theorem adjustEntry_cons_eq_ok_iff {key : String} {keys : List String} {before after : Value} :
    adjustEntry bindings change (key :: keys) before = .ok after ↔
      KeyResolves bindings key ∧ ∃ entries written, before = .map entries ∧
        adjustEntry bindings change keys
          (Value.slot (resolvedKey bindings key) (resolvedPath bindings keys) entries) =
            .ok written ∧
        after = .map (Dictionary.write (resolvedKey bindings key) written entries) := by
  have missing : missingEntry (resolvedPath bindings keys) = missingEntry keys := by
    cases keys <;> rfl
  rw [adjustEntry, bind_eq_ok]
  constructor
  · rintro ⟨name, resolved, changed⟩
    obtain ⟨resolves, rfl⟩ := resolveKey_eq_ok_iff.1 resolved
    refine ⟨resolves, ?_⟩
    split at changed
    · rename_i entries
      rw [bind_eq_ok] at changed
      obtain ⟨written, adjusted, changed⟩ := changed
      obtain rfl := Except.ok.inj changed
      exact ⟨entries, written, rfl, by rw [Value.slot, missing]; exact adjusted, rfl⟩
    · cases changed
  · rintro ⟨resolves, entries, written, rfl, adjusted, rfl⟩
    refine ⟨_, resolveKey_eq_ok_iff.2 ⟨resolves, rfl⟩, ?_⟩
    rw [bind_eq_ok]
    exact ⟨written, by rw [Value.slot, missing] at adjusted; exact adjusted, rfl⟩

/-- A transfer succeeds exactly if the keys resolve, only maps stand along the path, and the new
amount lies within the bounds. -/
theorem exists_adjustEntry_iff {keys : List String} {before : Value} :
    (∃ after, adjustEntry bindings change keys before = .ok after) ↔
      (∀ key ∈ keys, KeyResolves bindings key) ∧
        before.MapsAlong (resolvedPath bindings keys) ∧
        Number.Fits (before.amountAt (resolvedPath bindings keys) + change) := by
  induction keys generalizing before with
  | nil => simp [adjustEntry_nil_eq_ok_iff, Value.mapsAlong_nil]
  | cons key keys ih =>
    simp only [adjustEntry_cons_eq_ok_iff, List.forall_mem_cons, resolvedPath_cons]
    constructor
    · rintro ⟨after, resolves, entries, written, rfl, adjusted, rfl⟩
      obtain ⟨later, along, fits⟩ := ih.1 ⟨written, adjusted⟩
      rw [Value.mapsAlong_slot_iff] at along
      rw [Value.amountAt_slot] at fits
      exact ⟨⟨resolves, later⟩, along, fits⟩
    · rintro ⟨⟨resolves, later⟩, along, fits⟩
      obtain ⟨entries, rfl, -⟩ := Value.mapsAlong_cons_iff.1 along
      rw [← Value.mapsAlong_slot_iff] at along
      rw [← Value.amountAt_slot] at fits
      obtain ⟨written, adjusted⟩ := ih.2 ⟨later, along, fits⟩
      exact ⟨_, resolves, entries, written, rfl, adjusted, rfl⟩

/-- The change is added to the entry at a path and nothing happens elsewhere; the leaves add up to
as much more, unless the entry was a list or a map and its leaves are lost. -/
structure Value.Adjusted (path : List String) (change : Int) (before after : Value) : Prop where
  entry : after.read? path = some (.int (before.amountAt path + change))
  elsewhere : ∀ other, ¬other <+: path → ¬path <+: other → after.read? other = before.read? other
  scalar : (∀ old, before.read? path = some old → old.isScalar = true) →
    after.leafSum = before.leafSum + change
  nested : ∀ old, before.read? path = some old → old.isScalar = false →
    after.leafSum = before.leafSum + change - old.leafSum

/-- The leaves of the entry are lost, and its new amount is added. -/
theorem leafSum_adjustEntry {keys : List String} {before after : Value}
    (adjusted : adjustEntry bindings change keys before = .ok after) :
    after.leafSum + before.leafSumAt (resolvedPath bindings keys) =
      before.leafSum + (before.amountAt (resolvedPath bindings keys) + change) := by
  induction keys generalizing before after with
  | nil =>
    obtain ⟨-, rfl⟩ := adjustEntry_nil_eq_ok_iff.1 adjusted
    have whole : before.leafSumAt [] = before.leafSum :=
      Value.viewAt_of_read? (Value.read?_nil before)
    rw [resolvedPath_nil, whole, Value.leafSum]
    exact Int.add_comm ..
  | cons key keys ih =>
    obtain ⟨-, entries, written, rfl, deeper, rfl⟩ := adjustEntry_cons_eq_ok_iff.1 adjusted
    have inner := ih deeper
    rw [Value.leafSumAt_slot, Value.amountAt_slot, Value.leafSum_slot] at inner
    have outer := Value.leafSumEntries_write (resolvedKey bindings key) written entries
    rw [resolvedPath_cons, Value.leafSum, Value.leafSum]
    omega

theorem read?_adjustEntry {keys : List String} {before after : Value}
    (adjusted : adjustEntry bindings change keys before = .ok after) :
    after.read? (resolvedPath bindings keys) =
      some (.int (before.amountAt (resolvedPath bindings keys) + change)) := by
  induction keys generalizing before after with
  | nil =>
    obtain ⟨-, rfl⟩ := adjustEntry_nil_eq_ok_iff.1 adjusted
    exact Value.read?_nil _
  | cons key keys ih =>
    obtain ⟨-, entries, written, rfl, deeper, rfl⟩ := adjustEntry_cons_eq_ok_iff.1 adjusted
    have inner := ih deeper
    rw [Value.amountAt_slot] at inner
    rw [resolvedPath_cons, Value.read?_cons, Dictionary.get?_write, if_pos rfl]
    exact inner

/-- A path that leads elsewhere reads what it did. -/
theorem read?_adjustEntry_elsewhere {keys other : List String} {before after : Value}
    (adjusted : adjustEntry bindings change keys before = .ok after)
    (notBefore : ¬other <+: resolvedPath bindings keys)
    (notBeyond : ¬resolvedPath bindings keys <+: other) :
    after.read? other = before.read? other := by
  induction keys generalizing before after other with
  | nil => exact absurd List.nil_prefix notBeyond
  | cons key keys ih =>
    obtain ⟨-, entries, written, rfl, deeper, rfl⟩ := adjustEntry_cons_eq_ok_iff.1 adjusted
    cases other with
    | nil => exact absurd List.nil_prefix notBefore
    | cons first other =>
      rw [Value.read?_cons, Value.read?_cons, Dictionary.get?_write]
      by_cases same : first = resolvedKey bindings key
      · subst same
        rw [resolvedPath_cons, List.prefix_cons_inj] at notBefore notBeyond
        have some : other ≠ [] := fun empty => notBefore (empty ▸ List.nil_prefix)
        rw [if_pos rfl, Option.bind_some, ih deeper notBefore notBeyond, Value.read?_slot some,
          Value.read?_cons]
      · rw [if_neg same]

theorem adjusted_of_adjustEntry {keys : List String} {before after : Value}
    (adjusted : adjustEntry bindings change keys before = .ok after) :
    before.Adjusted (resolvedPath bindings keys) change after := by
  have sum := leafSum_adjustEntry adjusted
  refine ⟨read?_adjustEntry adjusted, fun other notBefore notBeyond =>
    read?_adjustEntry_elsewhere adjusted notBefore notBeyond, fun scalar => ?_,
    fun old found nested => ?_⟩
  · have same : before.leafSumAt (resolvedPath bindings keys) =
        before.amountAt (resolvedPath bindings keys) := by
      rw [Value.leafSumAt, Value.amountAt, Value.viewAt, Value.viewAt]
      cases found : before.read? (resolvedPath bindings keys) with
      | none => rfl
      | some old => exact Value.leafSum_of_isScalar (scalar old found)
    omega
  · have lost : before.leafSumAt (resolvedPath bindings keys) = old.leafSum :=
      Value.viewAt_of_read? found
    have zero : before.amountAt (resolvedPath bindings keys) = 0 := by
      rw [Value.amountAt, Value.viewAt_of_read? found, Value.asInt?_of_not_isScalar nested]
      rfl
    omega

end Adjust

/-! ### The keyed arcs of a firing -/

/-- The amount that an arc moves, zero if it has none. -/
def Arc.moved (arc : Arc) (bindings : Dictionary Value) : Int :=
  match arc.amount bindings with
  | .ok amount => amount
  | .error _ => 0

/-- What an arc adds to a place: its amount, less than nothing for an arc to a transition. -/
def movedTo (bindings : Dictionary Value) (p : Nat) (keyed : Flow × Arc) : Int :=
  if keyed.1.place = p then
    if keyed.1.isInput then -keyed.2.moved bindings else keyed.2.moved bindings
  else 0

namespace Net

/-- The sum of the amounts of the keyed arcs between a transition and a place in a direction. -/
def keyedSum (net : Net) (bindings : Dictionary Value) (t p : Nat) (direction : Direction) : Int :=
  (((net.keyedArcs t).filter fun keyed =>
    keyed.1.place == p && keyed.1.direction == direction).map fun keyed =>
      keyed.2.moved bindings).sum

theorem sum_movedTo (net : Net) (bindings : Dictionary Value) (t p : Nat) :
    ((net.keyedArcs t).map (movedTo bindings p)).sum =
      net.keyedSum bindings t p .output - net.keyedSum bindings t p .input := by
  unfold keyedSum
  induction net.keyedArcs t with
  | nil => rfl
  | cons keyed rest ih =>
    rw [List.map_cons, List.sum_cons, ih, movedTo]
    by_cases here : keyed.1.place = p
    · cases direction : keyed.1.direction <;>
        simp [here, direction, Flow.isInput] <;> omega
    · simp [here]

end Net

/-- An arc that changes something has an amount, which it gives or takes. -/
theorem Arc.change_eq_ok {arc : Arc} {flow : Flow} {bindings : Dictionary Value} {change : Int}
    (changes : arc.change flow bindings = .ok change) :
    arc.amount bindings = .ok (arc.moved bindings) ∧
      change = movedTo bindings flow.place (flow, arc) := by
  rw [Arc.change, bind_eq_ok] at changes
  obtain ⟨amount, isAmount, changes⟩ := changes
  have isMoved : arc.moved bindings = amount := by rw [Arc.moved, isAmount]
  rw [movedTo, if_pos rfl, isMoved]
  refine ⟨isAmount, ?_⟩
  by_cases input : flow.isInput = true
  · rw [if_pos input] at changes ⊢
    split at changes
    · rename_i n fitted
      rw [← Except.ok.inj changes]
      exact (Number.fit?_eq_some_iff.1 fitted).2
    · cases changes
  · rw [if_neg input] at changes ⊢
    exact (Except.ok.inj changes).symm

/-- An arc with keys finds an entry that is a scalar, or none. -/
def FindsScalar (bindings : Dictionary Value) (m : Marking) (keyed : Flow × Arc) : Prop :=
  ∀ value old, m.data? keyed.1.place = some value →
    value.read? (resolvedPath bindings keyed.2.keys) = some old → old.isScalar = true

/-- The leaves of each place add up to as much more as given. -/
def Marking.LeavesGrow (m next : Marking) (gain : Nat → Int) : Prop :=
  ∀ p value, m.data? p = some value →
    ∃ value', next.data? p = some value' ∧ value'.leafSum = value.leafSum + gain p

namespace Net

variable {net : Net} {bindings : Dictionary Value}

/-- One keyed arc. -/
theorem leavesGrow_of_transfer {m next : Marking} {keyed : Flow × Arc}
    (moved : net.transfer bindings m keyed = .ok next) (finds : FindsScalar bindings m keyed) :
    m.LeavesGrow next fun p => movedTo bindings p keyed := by
  obtain ⟨value, change, written, holds, changes, adjusted, rfl⟩ := transfer_eq_ok moved
  obtain ⟨-, rfl⟩ := Arc.change_eq_ok changes
  intro p before here
  rw [Marking.data?_setData (by rw [holds]; rfl)]
  by_cases same : keyed.1.place = p
  · subst same
    obtain rfl : value = before := Option.some.inj (holds.symm.trans here)
    refine ⟨written, if_pos rfl, ?_⟩
    exact (adjusted_of_adjustEntry adjusted).scalar fun old found => finds value old holds found
  · refine ⟨before, by rw [if_neg same]; exact here, ?_⟩
    dsimp only [movedTo]
    rw [if_neg same, Int.add_zero]

/-- Keyed arcs one after the other, each of which finds a scalar or nothing when it is applied. -/
theorem leavesGrow_of_transferAll {m next : Marking} {arcs : List (Flow × Arc)}
    (finds : ∀ front keyed rest before, arcs = front ++ keyed :: rest →
      net.transferAll bindings m front = .ok before → FindsScalar bindings before keyed)
    (moved : net.transferAll bindings m arcs = .ok next) :
    (∀ keyed ∈ arcs, keyed.2.amount bindings = .ok (keyed.2.moved bindings)) ∧
      m.LeavesGrow next fun p => (arcs.map (movedTo bindings p)).sum := by
  induction arcs generalizing m with
  | nil =>
    obtain rfl := Except.ok.inj moved
    exact ⟨by simp, fun p value here => ⟨value, here, by simp⟩⟩
  | cons keyed rest ih =>
    rw [transferAll, List.foldlM_cons, bind_eq_ok] at moved
    obtain ⟨middle, step, moved⟩ := moved
    have first := leavesGrow_of_transfer step (finds [] keyed rest m rfl rfl)
    obtain ⟨amounts, later⟩ := ih (fun front other back before split applied =>
      finds (keyed :: front) other back before (by rw [split]; rfl)
        (by rw [transferAll, List.foldlM_cons, step]; exact applied)) moved
    obtain ⟨_, _, _, -, changes, -⟩ := transfer_eq_ok step
    refine ⟨List.forall_mem_cons.2 ⟨(Arc.change_eq_ok changes).1, amounts⟩, fun p value here => ?_⟩
    obtain ⟨between, there, grown⟩ := first p value here
    obtain ⟨last, final, grown'⟩ := later p between there
    refine ⟨last, final, ?_⟩
    dsimp only at grown grown' ⊢
    rw [grown', grown, List.map_cons, List.sum_cons, Int.add_assoc]

end Net

namespace Execution

/-- A firing changes the leaves of a data place by what its keyed arcs give and take. -/
theorem leavesGrow_of_fireWith {e after : Execution} (formed : e.net.WellFormed)
    (sized : Marking.Over e.net e.marking) {id : String} {bindings : Dictionary Value}
    {functions : Guard.FunctionTable} (fired : e.fireWith id bindings functions = .ok after)
    {t : Nat} (named : e.net.transitionIndex? id = some t)
    (finds : ∀ flowed front keyed rest m, e.net.flowTokens e.marking t = .ok flowed →
      e.net.keyedArcs t = front ++ keyed :: rest →
      e.net.transferAll bindings flowed front = .ok m → FindsScalar bindings m keyed) :
    (∀ keyed ∈ e.net.keyedArcs t, keyed.2.amount bindings = .ok (keyed.2.moved bindings)) ∧
      e.marking.LeavesGrow after.marking fun p =>
        e.net.keyedSum bindings t p .output - e.net.keyedSum bindings t p .input := by
  obtain ⟨t', next, found, allowed, rfl⟩ := exists_guardedSuccessor_of_fireWith fired
  obtain rfl : t' = t := Option.some.inj ((lookup_eq_ok found).1.symm.trans named)
  obtain ⟨flowed, tokens, moved, -⟩ := guardedSuccessor_eq_ok allowed
  obtain ⟨amounts, grow⟩ := Net.leavesGrow_of_transferAll
    (fun front keyed rest m split applied => finds flowed front keyed rest m tokens split applied)
    moved
  simp only [Net.sum_movedTo] at grow
  refine ⟨amounts, fun p value here => ?_⟩
  -- the flow of tokens leaves data alone
  rw [← (Net.moves_of_flowTokens formed sized tokens).data] at here
  exact grow p value here

/-- Adding to the entry that keys lead to succeeds exactly if every bound key is bound to a scalar,
no proper part of the path leads to an entry other than a map, and the new amount lies within the
bounds; it then changes that entry and nothing elsewhere, and the sum of the leaves by what is
added. So when a transition fires under bindings, and each of its keyed arcs finds a scalar or
nothing as it is applied, the leaves of every data place add up to as much more as its keyed arcs
give it, less what they take. -/
theorem keyedTransfers_exact :
    (∀ (bindings : Dictionary Value) (change : Int) (keys : List String) (before : Value),
      ((∃ after, adjustEntry bindings change keys before = .ok after) ↔
        (∀ key ∈ keys, KeyResolves bindings key) ∧
          before.MapsAlong (resolvedPath bindings keys) ∧
          Number.Fits (before.amountAt (resolvedPath bindings keys) + change)) ∧
      ∀ after, adjustEntry bindings change keys before = .ok after →
        before.Adjusted (resolvedPath bindings keys) change after) ∧
    ∀ (d : Document) (e after : Execution) (id : String) (t : Nat) (bindings : Dictionary Value)
      (functions : Guard.FunctionTable), Net.ofDocument d = .ok e.net →
      Marking.Over e.net e.marking → e.fireWith id bindings functions = .ok after →
      e.net.transitionIndex? id = some t →
      (∀ flowed front keyed rest m, e.net.flowTokens e.marking t = .ok flowed →
        e.net.keyedArcs t = front ++ keyed :: rest →
        e.net.transferAll bindings flowed front = .ok m → FindsScalar bindings m keyed) →
      (∀ keyed ∈ e.net.keyedArcs t, keyed.2.amount bindings = .ok (keyed.2.moved bindings)) ∧
        e.marking.LeavesGrow after.marking fun p =>
          e.net.keyedSum bindings t p .output - e.net.keyedSum bindings t p .input := by
  refine ⟨fun bindings change keys before => ⟨exists_adjustEntry_iff, fun after adjusted =>
    adjusted_of_adjustEntry adjusted⟩, ?_⟩
  intro d e after id t bindings functions valid sized fired named finds
  exact leavesGrow_of_fireWith (Net.wellFormed_of_ofDocument valid) sized fired named finds

/-- Owners with purses, between which cash moves. -/
def purses : Document where
  name := "purses"
  version := "1"
  places := [⟨"purses", .data, .map [("alice", .map [("cash", .str "5")])], true, none⟩]
  transitions := [{ id := "pay", guard := none, rate := 1.0 }]
  arcs := [⟨"purses", "pay", ["from", "cash"], some "amount"⟩,
    ⟨"pay", "purses", ["to", "cash"], some "amount"⟩]
  invariants := []

/-- A payment to a new owner makes a purse for them and keeps the sum of all cash. -/
theorem keyedTransfers_exact_purses :
    let bindings : Dictionary Value :=
      [("amount", .int 3), ("from", .str "alice"), ("to", .str "bob")]
    let paid : Value := .map [("alice", .map [("cash", .int 2)]), ("bob", .map [("cash", .int 3)])]
    ∃ net, Net.ofDocument purses = .ok net ∧
      let e := start net false
      Marking.Over e.net e.marking ∧
      e.fireWith "pay" bindings [] = .ok (e.commit 0 [⟨0, some paid⟩]) ∧
      e.net.transitionIndex? "pay" = some 0 ∧
      paid.leafSum = 5 + (e.net.keyedSum bindings 0 0 .output -
        e.net.keyedSum bindings 0 0 .input) ∧
      ¬∃ after, adjustEntry bindings 1 ["alice", "cash", "coins"] paid = .ok after := by
  intro bindings paid
  refine ⟨_, rfl, ?_⟩
  intro e
  have valid : Net.ofDocument purses = .ok e.net := rfl
  have sized : Marking.Over e.net e.marking := rfl
  have fired : e.fireWith "pay" bindings [] = .ok (e.commit 0 [⟨0, some paid⟩]) := rfl
  have named : e.net.transitionIndex? "pay" = some 0 := rfl
  have tokens : e.net.flowTokens e.marking 0 = .ok e.marking := rfl
  have finds : ∀ flowed front keyed rest m, e.net.flowTokens e.marking 0 = .ok flowed →
      e.net.keyedArcs 0 = front ++ keyed :: rest →
      e.net.transferAll bindings flowed front = .ok m → FindsScalar bindings m keyed := by
    intro flowed front keyed rest m flows arcs applied value old holds found
    obtain rfl := Except.ok.inj (tokens.symm.trans flows)
    rcases front with _ | ⟨first, _ | ⟨second, front⟩⟩
    · -- the first arc finds a text that holds a number
      obtain rfl := (List.cons.inj arcs).1
      obtain rfl := Except.ok.inj applied
      obtain rfl := Option.some.inj holds
      obtain rfl := Option.some.inj found
      rfl
    · -- the second arc finds nothing
      obtain ⟨rfl, later⟩ := List.cons.inj arcs
      obtain rfl := (List.cons.inj later).1
      obtain rfl := Except.ok.inj applied
      obtain rfl := Option.some.inj holds
      cases found
    · have lengths := congrArg List.length arcs
      rw [show (e.net.keyedArcs 0).length = 2 from rfl] at lengths
      simp at lengths
  obtain ⟨each, firing⟩ := keyedTransfers_exact
  refine ⟨sized, fired, named, ?_, ?_⟩
  · obtain ⟨-, grow⟩ := firing purses e _ "pay" 0 bindings [] valid sized fired named finds
    obtain ⟨value, here, grown⟩ := grow 0 _ rfl
    obtain rfl := Option.some.inj here
    exact grown
  · intro done
    obtain ⟨-, along, -⟩ := (each bindings 1 ["alice", "cash", "coins"] paid).1.1 done
    exact absurd (along ["alice", "cash"] (.int 2) ⟨["coins"], rfl⟩ (by decide) rfl) (by decide)

end Execution

end GuardedNet
