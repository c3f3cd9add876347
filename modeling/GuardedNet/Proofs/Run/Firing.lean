import GuardedNet.Proofs.Net.Validity
import GuardedNet.Proofs.Run.Key
import GuardedNet.Run.Execution

/-!
# What firing does to a marking

Tokens move by the plain tables and stay within the bounds (`Net.moves_of_flowTokens`), keyed
arcs change data and nothing else (`Net.sameTokens_of_transferAll`), and a successor satisfies
the invariants that are checked (`Net.checkInvariants_eq_ok_iff`).
-/

namespace GuardedNet

/-! ### Cells -/

namespace Marking

theorem tokens_eq {m : Marking} {p : Nat} {cell : Cell} (here : m[p]? = some cell) :
    m.tokens p = cell.tokens := by
  simp [tokens, here]

theorem data?_eq {m : Marking} {p : Nat} {cell : Cell} (here : m[p]? = some cell) :
    m.data? p = cell.data := by
  simp [data?, here]

theorem tokens_eq_zero {m : Marking} {p : Nat} (outside : m.length ≤ p) : m.tokens p = 0 := by
  simp [tokens, List.getElem?_eq_none outside]

theorem data?_eq_none {m : Marking} {p : Nat} (outside : m.length ≤ p) : m.data? p = none := by
  simp [data?, List.getElem?_eq_none outside]

theorem data?_setData {m : Marking} {q : Nat} (holds : (m.data? q).isSome) (value : Value)
    (p : Nat) : (m.setData q value).data? p = if q = p then some value else m.data? p := by
  by_cases same : q = p
  · subst same
    cases here : m[q]? with
    | none => simp [data?, here] at holds
    | some cell => simp [data?, setData, here]
  · simp [data?, setData, same]

end Marking

namespace Net

/-! ### Token flow -/

/-- What a place holds after it is given tokens: that many more. Unless there are none to give,
the sum lies within the bounds and the capacity. -/
theorem giveTo_eq_ok {place : Place} {cell after : Cell} {weight : Nat}
    (given : giveTo place cell weight = .ok after) :
    after.data = cell.data ∧ after.tokens = cell.tokens + weight ∧
      (0 < weight →
        Number.Fits after.tokens ∧ ∀ c, place.capacity = some c → after.tokens ≤ c) := by
  unfold giveTo at given
  split at given
  · rename_i zero
    obtain rfl := Except.ok.inj given
    exact ⟨rfl, by simp [zero], fun positive => absurd zero (Nat.ne_of_gt positive)⟩
  split at given
  · cases given
  rename_i sum fitted
  have fits : Number.Fits (cell.tokens + weight) ∧ cell.tokens + weight = sum := by
    simpa [Number.fit?] using fitted
  obtain ⟨fits, rfl⟩ := fits
  split at given
  · rename_i unlimited
    obtain rfl := Except.ok.inj given
    exact ⟨rfl, rfl, fun _ => ⟨fits, fun c limited => by rw [unlimited] at limited; cases limited⟩⟩
  split at given
  · cases given
  · rename_i capacity limited within
    obtain rfl := Except.ok.inj given
    refine ⟨rfl, rfl, fun _ => ⟨fits, fun c limited' => ?_⟩⟩
    obtain rfl : capacity = c := Option.some.inj (limited.symm.trans limited')
    exact Int.not_lt.1 within

/-- Every place is given its own tokens. -/
theorem giveAll_eq_ok {places : List Place} {cells next : Marking} {weights : List Nat}
    (samePlaces : places.length = cells.length) (sameWeights : weights.length = cells.length)
    (given : giveAll places cells weights = .ok next) :
    next.length = cells.length ∧
      ∀ (p : Nat) (cell : Cell), cells[p]? = some cell →
        ∃ place weight after, places[p]? = some place ∧ weights[p]? = some weight ∧
          next[p]? = some after ∧ giveTo place cell weight = .ok after := by
  induction cells generalizing places weights next with
  | nil =>
    obtain rfl := List.length_eq_zero_iff.1 samePlaces
    obtain rfl := Except.ok.inj given
    exact ⟨rfl, fun p cell here => by simp at here⟩
  | cons cell cells ih =>
    obtain ⟨place, places, rfl⟩ := List.exists_cons_of_length_eq_add_one samePlaces
    obtain ⟨weight, weights, rfl⟩ := List.exists_cons_of_length_eq_add_one sameWeights
    rw [giveAll, bind_eq_ok] at given
    obtain ⟨after, first, given⟩ := given
    rw [bind_eq_ok] at given
    obtain ⟨rest, later, given⟩ := given
    obtain rfl := Except.ok.inj given
    obtain ⟨lengths, each⟩ := ih (Nat.succ.inj samePlaces) (Nat.succ.inj sameWeights) later
    refine ⟨congrArg Nat.succ lengths, fun p other here => ?_⟩
    cases p with
    | zero =>
      obtain rfl : cell = other := by simpa using here
      exact ⟨place, weight, after, rfl, rfl, rfl, first⟩
    | succ p => simpa using each p other (by simpa using here)

/-- The tokens of a transition move from one marking to another: each place loses what is
taken, which it has, and gains what is given, up to the bounds and its capacity. -/
structure Moves (net : Net) (t : Nat) (m next : Marking) : Prop where
  sized : Marking.Over net next
  tokens : ∀ p, next.tokens p =
    m.tokens p - net.plainConsumed.entry p t + net.plainProduced.entry p t
  enough : ∀ p < net.places.length, (net.plainConsumed.entry p t : Int) ≤ m.tokens p
  bounded : ∀ (p : Nat) (place : Place), net.places[p]? = some place →
    0 < net.plainProduced.entry p t →
      Number.Fits (next.tokens p) ∧ ∀ c, place.capacity = some c → next.tokens p ≤ c
  data : ∀ p, next.data? p = m.data? p

section Flow

variable {net : Net} (formed : net.WellFormed) {m : Marking} (sized : Marking.Over net m)
include formed sized

theorem length_take (t : Nat) : (net.take m t).length = net.places.length := by
  simp only [take, List.length_zipWith, Table.length_column, formed.length_plainConsumed]
  rw [sized, Nat.min_self]

theorem getElem?_take (t : Nat) {p : Nat} {cell : Cell} (here : m[p]? = some cell) :
    (net.take m t)[p]? =
      some { cell with tokens := cell.tokens - (net.plainConsumed.entry p t : Nat) } := by
  have inside : p < net.plainConsumed.rows.length := by
    rw [formed.length_plainConsumed, ← sized]
    exact (List.getElem?_eq_some_iff.1 here).1
  simp [take, List.getElem?_zipWith, here, Table.getElem?_column, inside]

theorem enough_of_enables {t : Nat} (enabled : net.enables m t = true) {p : Nat}
    (inside : p < net.places.length) : (net.plainConsumed.entry p t : Int) ≤ m.tokens p := by
  have insideMarking : p < m.length := by rw [sized]; exact inside
  have insideTable : p < net.plainConsumed.rows.length := by
    rw [formed.length_plainConsumed]; exact inside
  have member : (m[p], net.plainConsumed.entry p t) ∈
      List.zip m (net.plainConsumed.column t) := by
    apply List.mem_of_getElem? (i := p)
    rw [List.getElem?_zip_eq_some]
    exact ⟨List.getElem?_eq_getElem insideMarking, by
      rw [Table.getElem?_column, if_pos insideTable]⟩
  have enough := List.all_eq_true.1 enabled _ member
  rw [Marking.tokens_eq (List.getElem?_eq_getElem insideMarking)]
  simpa using enough

/-- Moving the tokens of a transition by the tables is what token flow does. -/
theorem moves_of_flowTokens {t : Nat} {next : Marking}
    (flowed : net.flowTokens m t = .ok next) : net.Moves t m next := by
  unfold flowTokens at flowed
  split at flowed
  swap
  · cases flowed
  rename_i enabled
  have taken := length_take formed sized t
  obtain ⟨lengths, each⟩ := giveAll_eq_ok taken.symm
    (by rw [Table.length_column, formed.length_plainProduced, taken]) flowed
  have overNext : Marking.Over net next := lengths.trans taken
  -- outside of the net every count and every entry is zero
  have outside : ∀ p, net.places.length ≤ p →
      m.tokens p = 0 ∧ next.tokens p = 0 ∧ net.plainConsumed.entry p t = 0 ∧
        net.plainProduced.entry p t = 0 := by
    intro p beyond
    refine ⟨Marking.tokens_eq_zero (sized ▸ beyond), Marking.tokens_eq_zero (overNext ▸ beyond),
      ?_, ?_⟩
    · simp [Table.entry, Table.get?, Table.row, formed.length_plainConsumed, beyond]
    · simp [Table.entry, Table.get?, Table.row, formed.length_plainProduced, beyond]
  have within : ∀ (p : Nat) (place : Place), net.places[p]? = some place →
      next.data? p = m.data? p ∧
      next.tokens p = m.tokens p - net.plainConsumed.entry p t + net.plainProduced.entry p t ∧
      (0 < net.plainProduced.entry p t →
        Number.Fits (next.tokens p) ∧ ∀ c, place.capacity = some c → next.tokens p ≤ c) := by
    intro p place here
    have inside := (List.getElem?_eq_some_iff.1 here).1
    have insideMarking : p < m.length := by rw [sized]; exact inside
    have cellHere := List.getElem?_eq_getElem insideMarking
    obtain ⟨place', weight, after, here', column, afterHere, given⟩ :=
      each p _ (getElem?_take formed sized t cellHere)
    obtain rfl : place = place' := Option.some.inj (here.symm.trans here')
    rw [Table.getElem?_column, formed.length_plainProduced, if_pos inside] at column
    obtain rfl := Option.some.inj column
    obtain ⟨data, tokens, bounded⟩ := giveTo_eq_ok given
    rw [Marking.data?_eq afterHere, Marking.data?_eq cellHere, Marking.tokens_eq afterHere,
      Marking.tokens_eq cellHere]
    exact ⟨data, tokens, bounded⟩
  refine ⟨overNext, fun p => ?_, fun p => enough_of_enables formed sized enabled,
    fun p place here => (within p place here).2.2, fun p => ?_⟩
  · by_cases inside : p < net.places.length
    · exact (within p _ (List.getElem?_eq_getElem inside)).2.1
    · obtain ⟨before, after, taken, given⟩ := outside p (Nat.le_of_not_lt inside)
      rw [before, after, taken, given]
      rfl
  · by_cases inside : p < net.places.length
    · exact (within p _ (List.getElem?_eq_getElem inside)).1
    · rw [Marking.data?_eq_none (overNext ▸ Nat.le_of_not_lt inside),
        Marking.data?_eq_none (sized ▸ Nat.le_of_not_lt inside)]

end Flow

/-! ### Keyed arcs -/

/-- The markings differ at most in the values that data places hold. -/
structure SameTokens (m next : Marking) : Prop where
  length : next.length = m.length
  tokens : ∀ p, next.tokens p = m.tokens p
  data : ∀ p, (next.data? p).isSome = (m.data? p).isSome

theorem sameTokens_setData {m : Marking} {p : Nat} (holds : (m.data? p).isSome)
    (written : Value) : SameTokens m (m.setData p written) := by
  refine ⟨by simp [Marking.setData], fun q => ?_, fun q => ?_⟩
  · by_cases same : p = q
    · cases here : m[q]? <;> simp [Marking.tokens, Marking.setData, same, here]
    · simp [Marking.tokens, Marking.setData, same]
  · rw [Marking.data?_setData holds]
    split
    · rename_i same
      rw [← same, holds]
      rfl
    · rfl

/-- An arc with keys adds its change to an entry of the value that its place holds. -/
theorem transfer_eq_ok {net : Net} {bindings : Dictionary Value} {m next : Marking}
    {keyed : Flow × Arc} (moved : net.transfer bindings m keyed = .ok next) :
    ∃ value change written, m.data? keyed.1.place = some value ∧
      keyed.2.change keyed.1 bindings = .ok change ∧
      adjustEntry bindings change keyed.2.keys value = .ok written ∧
      next = m.setData keyed.1.place written := by
  obtain ⟨flow, arc⟩ := keyed
  dsimp only [transfer] at moved
  split at moved
  · cases moved
  · rename_i value holds
    rw [bind_eq_ok] at moved
    obtain ⟨change, changes, moved⟩ := moved
    rw [bind_eq_ok] at moved
    obtain ⟨written, adjusted, moved⟩ := moved
    obtain rfl := Except.ok.inj moved
    exact ⟨value, change, written, holds, changes, adjusted, rfl⟩

theorem sameTokens_of_transfer {net : Net} {bindings : Dictionary Value} {m next : Marking}
    {keyed : Flow × Arc} (moved : net.transfer bindings m keyed = .ok next) :
    SameTokens m next := by
  obtain ⟨value, change, written, holds, -, -, rfl⟩ := transfer_eq_ok moved
  exact sameTokens_setData (by rw [holds]; rfl) written

/-- Keyed arcs, one after the other, change the values of data places and nothing else. -/
theorem sameTokens_of_transferAll {net : Net} {bindings : Dictionary Value} {m next : Marking}
    {keyed : List (Flow × Arc)} (moved : net.transferAll bindings m keyed = .ok next) :
    SameTokens m next := by
  induction keyed generalizing m with
  | nil =>
    obtain rfl := Except.ok.inj moved
    exact ⟨rfl, fun _ => rfl, fun _ => rfl⟩
  | cons first rest ih =>
    rw [transferAll, List.foldlM_cons, bind_eq_ok] at moved
    obtain ⟨middle, step, moved⟩ := moved
    have before := sameTokens_of_transfer step
    have after := ih moved
    exact ⟨after.length.trans before.length, fun p => (after.tokens p).trans (before.tokens p),
      fun p => (after.data p).trans (before.data p)⟩

/-! ### Invariants -/

/-- The check passes when every invariant evaluates to true. -/
theorem checkInvariants_eq_ok_iff {net : Net} {m : Marking} {invariants : List Invariant} :
    net.checkInvariants m invariants = .ok () ↔
      ∀ invariant ∈ invariants, net.evalInvariant m invariant = .ok true := by
  induction invariants with
  | nil => simp [checkInvariants]
  | cons invariant rest ih =>
    rw [checkInvariants, List.forall_mem_cons]
    split
    · rename_i holds
      rw [ih, holds]
      simp
    · rename_i fails
      simp [fails]
    · rename_i fails
      simp [fails]

end Net

end GuardedNet
