import GuardedNet.Proofs.Run.History

/-!
# When a transition fires and why it does not

Firing by tokens alone goes through three stages: every place must have what is taken, every place
must be able to hold what is given, and the invariants that are checked must be true afterwards.
Main statement: a transition fires exactly if all three hold, and the error is that of the first
stage, place or invariant that does not (`Execution.fire_exact`).
-/

namespace GuardedNet

namespace Net

/-! ### Giving tokens -/

/-- A place takes tokens unless there are some and the sum leaves the bounds or the capacity. -/
theorem exists_giveTo_iff {place : Place} {cell : Cell} {weight : Nat} :
    (∃ after, giveTo place cell weight = .ok after) ↔
      (0 < weight → Number.Fits (cell.tokens + weight) ∧
        ∀ c, place.capacity = some c → cell.tokens + weight ≤ c) := by
  constructor
  · rintro ⟨after, given⟩ positive
    obtain ⟨-, tokens, bounded⟩ := giveTo_eq_ok given
    rw [← tokens]
    exact bounded positive
  · intro room
    unfold giveTo
    split
    · exact ⟨cell, rfl⟩
    rename_i nonzero
    obtain ⟨fits, within⟩ := room (Nat.pos_of_ne_zero nonzero)
    rw [Number.fit?, if_pos fits]
    dsimp only
    split
    · exact ⟨_, rfl⟩
    · rename_i c limited
      rw [if_neg (Int.not_lt.2 (within c limited))]
      exact ⟨_, rfl⟩

/-- What a place reports that does not take tokens: the bounds come before its capacity. -/
theorem giveTo_eq_error_iff {place : Place} {cell : Cell} {weight : Nat} {cause : FireError} :
    giveTo place cell weight = .error cause ↔ 0 < weight ∧
      ((¬Number.Fits (cell.tokens + weight) ∧ cause = .tokenOverflow place.id) ∨
        Number.Fits (cell.tokens + weight) ∧ ∃ c, place.capacity = some c ∧
          c < cell.tokens + weight ∧
          cause = .capacityExceeded place.id (cell.tokens + weight) c) := by
  by_cases zero : weight = 0
  · simp [giveTo, zero]
  have positive := Nat.pos_of_ne_zero zero
  by_cases fits : Number.Fits (cell.tokens + weight)
  · rw [giveTo, if_neg zero, Number.fit?, if_pos fits]
    cases limited : place.capacity with
    | none => simp [fits]
    | some c =>
      by_cases full : c < cell.tokens + weight
      · dsimp only
        rw [if_pos full]
        constructor
        · intro same
          exact ⟨positive, Or.inr ⟨fits, c, rfl, full, (Except.error.inj same).symm⟩⟩
        · rintro ⟨-, ⟨beyond, -⟩ | ⟨-, c', same, -, rfl⟩⟩
          · exact absurd fits beyond
          · rw [Option.some.inj same]
      · simp [full, positive, fits]
  · rw [giveTo, if_neg zero, Number.fit?, if_neg fits]
    simp only [positive, fits, not_false_iff, true_and, false_and, or_false, Except.error.injEq]
    exact eq_comm

theorem giveAll_eq_mapM (places : List Place) (cells : Marking) (weights : List Nat) :
    giveAll places cells weights =
      (places.zip (cells.zip weights)).mapM fun entry => giveTo entry.1 entry.2.1 entry.2.2 := by
  induction places generalizing cells weights with
  | nil => rfl
  | cons place places ih =>
    cases cells with
    | nil => rfl
    | cons cell cells =>
      cases weights with
      | nil => rfl
      | cons weight weights =>
        rw [giveAll, ih, List.zip_cons_cons, List.zip_cons_cons, List.mapM_cons]

/-- Giving stops at the first place that does not take its tokens. -/
theorem giveAll_eq_error_iff {places : List Place} {cells : Marking} {weights : List Nat}
    {cause : FireError} :
    giveAll places cells weights = .error cause ↔ ∃ (p : Nat) (place : Place) (cell : Cell)
      (weight : Nat), (places[p]? = some place ∧ cells[p]? = some cell ∧
        weights[p]? = some weight) ∧ giveTo place cell weight = .error cause ∧
      ∀ q < p, ∀ place cell weight,
        places[q]? = some place ∧ cells[q]? = some cell ∧ weights[q]? = some weight →
          ∃ after, giveTo place cell weight = .ok after := by
  rw [giveAll_eq_mapM, mapM_eq_error_iff]
  simp only [FirstFailing.iff_getElem?, List.getElem?_zip_eq_some, Prod.forall, Prod.exists]
  constructor
  · rintro ⟨place, cell, weight, ⟨p, here, -, before⟩, fails⟩
    exact ⟨p, place, cell, weight, here, fails, before⟩
  · rintro ⟨p, place, cell, weight, here, fails, before⟩
    exact ⟨place, cell, weight, ⟨p, here, by simp [fails], before⟩, fails⟩

/-! ### Token flow -/

/-- Every place has the tokens that a transition takes. -/
def HasEnough (net : Net) (m : Marking) (t : Nat) : Prop :=
  ∀ p < net.places.length, (net.plainConsumed.entry p t : Int) ≤ m.tokens p

/-- The tokens of a place after a transition has taken its own and given others. -/
def tokensAfter (net : Net) (m : Marking) (t p : Nat) : Int :=
  m.tokens p - net.plainConsumed.entry p t + net.plainProduced.entry p t

/-- A place that is given tokens stays within the bounds and within its capacity. -/
def HasRoom (net : Net) (m : Marking) (t p : Nat) : Prop :=
  0 < net.plainProduced.entry p t → Number.Fits (net.tokensAfter m t p) ∧
    ∀ place c, net.places[p]? = some place → place.capacity = some c →
      net.tokensAfter m t p ≤ c

/-- What the tokens of a transition need in order to move. -/
structure CanMove (net : Net) (m : Marking) (t : Nat) : Prop where
  enough : net.HasEnough m t
  room : ∀ p < net.places.length, net.HasRoom m t p

instance (net : Net) (m : Marking) (t : Nat) : Decidable (net.HasEnough m t) :=
  inferInstanceAs (Decidable (∀ p < net.places.length, _))

instance (net : Net) (m : Marking) (t p : Nat) : Decidable (net.HasRoom m t p) :=
  decidable_of_iff (0 < net.plainProduced.entry p t → Number.Fits (net.tokensAfter m t p) ∧
    ∀ place ∈ net.places[p]?, ∀ c ∈ place.capacity, net.tokensAfter m t p ≤ c)
    (imp_congr_right fun _ => and_congr_right' (forall_congr' fun _ => forall_comm))

instance (net : Net) (m : Marking) (t : Nat) : Decidable (net.CanMove m t) :=
  decidable_of_iff (net.HasEnough m t ∧ ∀ p < net.places.length, net.HasRoom m t p)
    ⟨fun both => ⟨both.1, both.2⟩, fun can => ⟨can.enough, can.room⟩⟩

/-- The marking with the tokens of every place as they are after a transition. -/
def moved (net : Net) (m : Marking) (t : Nat) : Marking :=
  m.mapIdx fun p cell => { cell with tokens := net.tokensAfter m t p }

/-- Why the tokens of a transition do not move: a place lacks what is taken, or else the first
place that cannot hold what is given is beyond the bounds or, within them, beyond its capacity. -/
inductive Blocks (net : Net) (m : Marking) (t : Nat) : FireError → Prop
  | notEnabled : ¬net.HasEnough m t → Blocks net m t (.notEnabled (net.transitionId t))
  | tokenOverflow {p : Nat} {place : Place} : net.HasEnough m t → net.places[p]? = some place →
      (∀ q < p, net.HasRoom m t q) → 0 < net.plainProduced.entry p t →
      ¬Number.Fits (net.tokensAfter m t p) → Blocks net m t (.tokenOverflow place.id)
  | capacityExceeded {p : Nat} {place : Place} {c : Int} : net.HasEnough m t →
      net.places[p]? = some place → (∀ q < p, net.HasRoom m t q) →
      0 < net.plainProduced.entry p t → Number.Fits (net.tokensAfter m t p) →
      place.capacity = some c → c < net.tokensAfter m t p →
      Blocks net m t (.capacityExceeded place.id (net.tokensAfter m t p) c)

/-- What is reported is a reason not to move. -/
theorem Blocks.not_canMove {net : Net} {m : Marking} {t : Nat} {cause : FireError}
    (blocks : net.Blocks m t cause) : ¬net.CanMove m t := by
  rintro ⟨enough, room⟩
  cases blocks with
  | notEnabled short => exact short enough
  | tokenOverflow _ here _ positive beyond =>
    exact beyond (room _ (List.getElem?_eq_some_iff.1 here).1 positive).1
  | capacityExceeded _ here _ positive _ limited full =>
    have within := (room _ (List.getElem?_eq_some_iff.1 here).1 positive).2 _ _ here limited
    exact Int.not_lt.2 within full

section Flow

variable {net : Net} (formed : net.WellFormed) {m : Marking} (sized : Marking.Over net m) (t : Nat)
include formed sized

theorem enables_iff : net.enables m t = true ↔ net.HasEnough m t := by
  constructor
  · intro enabled p inside
    exact enough_of_enables formed sized enabled inside
  · intro enough
    rw [enables, List.all_eq_true]
    rintro ⟨cell, weight⟩ member
    obtain ⟨p, there⟩ := List.mem_iff_getElem?.1 member
    obtain ⟨here, column⟩ := List.getElem?_zip_eq_some.1 there
    have inside : p < net.places.length := sized ▸ (List.getElem?_eq_some_iff.1 here).1
    rw [Table.getElem?_column, formed.length_plainConsumed, if_pos inside] at column
    obtain rfl := Option.some.inj column
    rw [decide_eq_true_iff, ← Marking.tokens_eq here]
    exact enough p inside

/-- What stands at a position when tokens have been taken and are to be given. -/
theorem getElem?_given {p : Nat} {place : Place} {cell : Cell} {weight : Nat} :
    (net.places[p]? = some place ∧ (net.take m t)[p]? = some cell ∧
      (net.plainProduced.column t)[p]? = some weight) ↔
    net.places[p]? = some place ∧
      cell = ⟨m.tokens p - net.plainConsumed.entry p t, m.data? p⟩ ∧
      weight = net.plainProduced.entry p t := by
  refine and_congr_right fun here => ?_
  have inside := (List.getElem?_eq_some_iff.1 here).1
  have cellHere := List.getElem?_eq_getElem (show p < m.length from sized ▸ inside)
  rw [getElem?_take formed sized t cellHere, Table.getElem?_column, formed.length_plainProduced,
    if_pos inside, Marking.tokens_eq cellHere, Marking.data?_eq cellHere]
  simp [eq_comm]

omit formed sized in
/-- A place takes what it is given exactly if it has room. -/
theorem exists_giveTo_iff_hasRoom {p : Nat} {place : Place} (here : net.places[p]? = some place) :
    (∃ after, giveTo place ⟨m.tokens p - net.plainConsumed.entry p t, m.data? p⟩
      (net.plainProduced.entry p t) = .ok after) ↔ net.HasRoom m t p := by
  rw [exists_giveTo_iff, HasRoom]
  refine imp_congr_right fun _ => and_congr_right fun _ => ?_
  constructor
  · intro within place' c here' limited
    obtain rfl : place = place' := Option.some.inj (here.symm.trans here')
    exact within c limited
  · intro within c limited
    exact within place c here limited

/-- Giving stops at the first place that has no room. -/
theorem giveAll_take_eq_error_iff {cause : FireError} :
    giveAll net.places (net.take m t) (net.plainProduced.column t) = .error cause ↔
      ∃ (p : Nat) (place : Place), net.places[p]? = some place ∧ (∀ q < p, net.HasRoom m t q) ∧
        giveTo place ⟨m.tokens p - net.plainConsumed.entry p t, m.data? p⟩
          (net.plainProduced.entry p t) = .error cause := by
  rw [giveAll_eq_error_iff]
  simp only [getElem?_given formed sized t]
  constructor
  · rintro ⟨p, place, cell, weight, ⟨here, rfl, rfl⟩, fails, before⟩
    refine ⟨p, place, here, fun q less => ?_, fails⟩
    have inside : q < net.places.length :=
      Nat.lt_trans less (List.getElem?_eq_some_iff.1 here).1
    have there := List.getElem?_eq_getElem inside
    exact (exists_giveTo_iff_hasRoom t there).1 (before q less _ _ _ ⟨there, rfl, rfl⟩)
  · rintro ⟨p, place, here, room, fails⟩
    refine ⟨p, place, _, _, ⟨here, rfl, rfl⟩, fails, ?_⟩
    rintro q less place' cell weight ⟨there, rfl, rfl⟩
    exact (exists_giveTo_iff_hasRoom t there).2 (room q less)

/-- The tokens of a transition do not move for one of the reasons, which is reported. -/
theorem flowTokens_eq_error_iff {cause : FireError} :
    net.flowTokens m t = .error cause ↔ net.Blocks m t cause := by
  unfold flowTokens
  by_cases enough : net.HasEnough m t
  · rw [if_pos ((enables_iff formed sized t).2 enough), giveAll_take_eq_error_iff formed sized]
    simp only [giveTo_eq_error_iff]
    constructor
    · rintro ⟨p, place, here, room, positive, ⟨beyond, rfl⟩ | ⟨fits, c, limited, full, rfl⟩⟩
      · exact .tokenOverflow enough here room positive beyond
      · exact .capacityExceeded enough here room positive fits limited full
    · rintro (short | ⟨-, here, room, positive, beyond⟩ |
        ⟨-, here, room, positive, fits, limited, full⟩)
      · exact absurd enough short
      · exact ⟨_, _, here, room, positive, Or.inl ⟨beyond, rfl⟩⟩
      · exact ⟨_, _, here, room, positive, Or.inr ⟨fits, _, limited, full, rfl⟩⟩
  · rw [if_neg fun enabled => enough ((enables_iff formed sized t).1 enabled)]
    constructor
    · intro same
      obtain rfl := Except.error.inj same
      exact .notEnabled enough
    · rintro (short | ⟨enough', -⟩ | ⟨enough', -⟩)
      · rfl
      · exact absurd enough' enough
      · exact absurd enough' enough

theorem tokens_moved (p : Nat) : (net.moved m t).tokens p = net.tokensAfter m t p := by
  by_cases inside : p < m.length
  · simp [Marking.tokens, moved, inside]
  · have beyond : net.places.length ≤ p := sized ▸ Nat.le_of_not_lt inside
    simp [Marking.tokens, moved, inside, tokensAfter, Table.entry, Table.get?, Table.row,
      formed.length_plainConsumed, formed.length_plainProduced, beyond]

omit formed sized in
theorem data?_moved (p : Nat) : (net.moved m t).data? p = m.data? p := by
  rw [Marking.data?, moved, List.getElem?_mapIdx, Marking.data?]
  cases m[p]? <;> rfl

/-- Where the tokens of a transition have moved, they could. -/
theorem canMove_of_flowTokens {next : Marking} (flowed : net.flowTokens m t = .ok next) :
    net.CanMove m t ∧ next = net.moved m t := by
  have moves := moves_of_flowTokens formed sized flowed
  refine ⟨⟨moves.enough, fun p inside positive => ?_⟩, ?_⟩
  · have bounded := moves.bounded p _ (List.getElem?_eq_getElem inside) positive
    rw [moves.tokens p] at bounded
    refine ⟨bounded.1, fun place c here limited => ?_⟩
    obtain rfl := Option.some.inj ((List.getElem?_eq_getElem inside).symm.trans here)
    exact bounded.2 c limited
  · refine Marking.ext_of_over moves.sized ?_ fun p => ?_
    · rw [Marking.Over, moved, List.length_mapIdx]
      exact sized
    · rw [tokens_moved formed sized, data?_moved]
      exact ⟨moves.tokens p, moves.data p⟩

/-- The tokens of a transition move exactly if every place has enough and has room. -/
theorem flowTokens_eq_ok_iff {next : Marking} :
    net.flowTokens m t = .ok next ↔ net.CanMove m t ∧ next = net.moved m t := by
  refine ⟨canMove_of_flowTokens formed sized t, ?_⟩
  rintro ⟨can, rfl⟩
  cases flowed : net.flowTokens m t with
  | error cause => exact absurd can ((flowTokens_eq_error_iff formed sized t).1 flowed).not_canMove
  | ok next => rw [(canMove_of_flowTokens formed sized t flowed).2]

end Flow

/-! ### Invariants -/

/-- The check stops at the first invariant that is not true. -/
theorem checkInvariants_eq_error_iff {net : Net} {m : Marking} {invariants : List Invariant}
    {cause : FireError} :
    net.checkInvariants m invariants = .error cause ↔
      ∃ invariant, FirstFailing (fun other => net.evalInvariant m other = .ok true) invariants
          invariant ∧
        ((net.evalInvariant m invariant = .ok false ∧
            cause = .invariantViolated invariant.id invariant.expression) ∨
          ∃ own, net.evalInvariant m invariant = .error own ∧
            cause = .invariantEvaluation invariant.id own) := by
  induction invariants with
  | nil => simp [checkInvariants, FirstFailing.not_nil]
  | cons invariant rest ih =>
    simp only [FirstFailing.cons_iff]
    rw [checkInvariants]
    split
    · rename_i holds
      simp [holds, ih]
    · rename_i fails
      simp [fails, eq_comm]
    · rename_i own fails
      simp [fails, eq_comm]

end Net

namespace Execution

/-! ### Firing by tokens alone -/

/-- What a transition needs in order to fire: its tokens can move, and the invariants that are
checked are true of the marking that follows. -/
structure Allows (e : Execution) (t : Nat) : Prop where
  moves : e.net.CanMove e.marking t
  invariants : e.checksInvariants = true → ∀ invariant ∈ e.net.document.invariants,
    e.net.evalInvariant (e.net.moved e.marking t) invariant = .ok true

/-- The invariant is the first that is not true of the marking that follows by a transition. -/
def FirstBroken (e : Execution) (t : Nat) (invariant : Invariant) : Prop :=
  FirstFailing (fun other => e.net.evalInvariant (e.net.moved e.marking t) other = .ok true)
    e.net.document.invariants invariant

/-- Why a transition does not fire: its tokens do not move, or they do and the first invariant
that is not true then is false or has no truth value. -/
inductive RefusesWith (e : Execution) (t : Nat) : FireError → Prop
  | blocked {cause : FireError} : e.net.Blocks e.marking t cause → RefusesWith e t cause
  | invariantViolated {invariant : Invariant} : e.net.CanMove e.marking t →
      e.checksInvariants = true → e.FirstBroken t invariant →
      e.net.evalInvariant (e.net.moved e.marking t) invariant = .ok false →
      RefusesWith e t (.invariantViolated invariant.id invariant.expression)
  | invariantEvaluation {invariant : Invariant} {cause : Guard.Error} :
      e.net.CanMove e.marking t → e.checksInvariants = true → e.FirstBroken t invariant →
      e.net.evalInvariant (e.net.moved e.marking t) invariant = .error cause →
      RefusesWith e t (.invariantEvaluation invariant.id cause)

theorem fire_eq {e : Execution} {id : String} {t : Nat}
    (known : e.net.transitionIndex? id = some t) :
    e.fire id = e.successor e.marking t >>= fun next => .ok (e.commit t next) := by
  rw [fire, lookup, known]
  rfl

theorem checkSuccessor_eq_ok_iff {e : Execution} {m : Marking} :
    e.checkSuccessor m = .ok () ↔ (e.checksInvariants = true →
      ∀ invariant ∈ e.net.document.invariants, e.net.evalInvariant m invariant = .ok true) := by
  unfold checkSuccessor
  split
  · rename_i checks
    rw [Net.checkInvariants_eq_ok_iff]
    simp [checks]
  · rename_i unchecked
    simp [unchecked]

theorem checkSuccessor_eq_error_iff {e : Execution} {m : Marking} {cause : FireError} :
    e.checkSuccessor m = .error cause ↔ e.checksInvariants = true ∧
      e.net.checkInvariants m e.net.document.invariants = .error cause := by
  unfold checkSuccessor
  split
  · rename_i checks
    simp [checks]
  · rename_i unchecked
    simp [unchecked]

theorem successor_eq_error {e : Execution} {m : Marking} {t : Nat} {cause : FireError} :
    e.successor m t = .error cause ↔ e.net.flowTokens m t = .error cause ∨
      ∃ next, e.net.flowTokens m t = .ok next ∧ e.checkSuccessor next = .error cause := by
  rw [successor, bind_eq_error]
  refine or_congr_right (exists_congr fun next => and_congr_right fun _ => ?_)
  cases e.checkSuccessor next <;> simp [bind, Except.bind, pure, Except.pure]

section Outcome

variable {e : Execution} (formed : e.net.WellFormed) (sized : Marking.Over e.net e.marking)
  (t : Nat)
include formed sized

theorem successor_eq_ok_iff_allows {next : Marking} :
    e.successor e.marking t = .ok next ↔ e.Allows t ∧ next = e.net.moved e.marking t := by
  rw [successor_eq_ok_iff, Net.flowTokens_eq_ok_iff formed sized]
  constructor
  · rintro ⟨⟨can, rfl⟩, checked⟩
    exact ⟨⟨can, checkSuccessor_eq_ok_iff.1 checked⟩, rfl⟩
  · rintro ⟨⟨can, checked⟩, rfl⟩
    exact ⟨⟨can, rfl⟩, checkSuccessor_eq_ok_iff.2 checked⟩

theorem successor_eq_error_iff_refusesWith {cause : FireError} :
    e.successor e.marking t = .error cause ↔ e.RefusesWith t cause := by
  rw [successor_eq_error, Net.flowTokens_eq_error_iff formed sized]
  simp only [Net.flowTokens_eq_ok_iff formed sized, checkSuccessor_eq_error_iff,
    Net.checkInvariants_eq_error_iff]
  constructor
  · rintro (blocks | ⟨_, ⟨can, rfl⟩, checks, invariant, first, ⟨fails, rfl⟩ | ⟨own, fails, rfl⟩⟩)
    · exact .blocked blocks
    · exact .invariantViolated can checks first fails
    · exact .invariantEvaluation can checks first fails
  · rintro (blocks | ⟨can, checks, first, fails⟩ | ⟨can, checks, first, fails⟩)
    · exact Or.inl blocks
    · exact Or.inr ⟨_, ⟨can, rfl⟩, checks, _, first, Or.inl ⟨fails, rfl⟩⟩
    · exact Or.inr ⟨_, ⟨can, rfl⟩, checks, _, first, Or.inr ⟨_, fails, rfl⟩⟩

variable {t}

theorem fire_eq_ok_iff {id : String} (known : e.net.transitionIndex? id = some t)
    {after : Execution} :
    e.fire id = .ok after ↔ e.Allows t ∧ after = e.commit t (e.net.moved e.marking t) := by
  rw [fire_eq known, bind_eq_ok]
  simp only [successor_eq_ok_iff_allows formed sized, Except.ok.injEq]
  constructor
  · rintro ⟨_, ⟨allows, rfl⟩, rfl⟩
    exact ⟨allows, rfl⟩
  · rintro ⟨allows, rfl⟩
    exact ⟨_, ⟨allows, rfl⟩, rfl⟩

theorem fire_eq_error_iff {id : String} (known : e.net.transitionIndex? id = some t)
    {cause : FireError} : e.fire id = .error cause ↔ e.RefusesWith t cause := by
  rw [fire_eq known, bind_eq_error, successor_eq_error_iff_refusesWith formed sized]
  simp

end Outcome

/-- A known transition fires exactly if every place has the tokens that are taken, every place
that is given some stays within the bounds and its capacity, and the invariants that are checked
are true of the marking that follows. That marking has what is taken subtracted and what is given
added, and the same data. Otherwise the error is that of the first of these that does not hold: not
enabled, the first place in order beyond the bounds or its capacity, with its count, or the first
invariant in order that is not true. -/
theorem fire_exact {d : Document} {e : Execution} (valid : Net.ofDocument d = .ok e.net)
    (sized : Marking.Over e.net e.marking) {id : String} {t : Nat}
    (known : e.net.transitionIndex? id = some t) :
    ((∃ after, e.fire id = .ok after) ↔ e.Allows t) ∧
    (∀ after, e.fire id = .ok after → after = e.commit t (e.net.moved e.marking t) ∧
      ∀ p, after.marking.tokens p = e.marking.tokens p - e.net.plainConsumed.entry p t +
          e.net.plainProduced.entry p t ∧
        after.marking.data? p = e.marking.data? p) ∧
    ∀ cause, e.fire id = .error cause ↔ e.RefusesWith t cause := by
  have formed := Net.wellFormed_of_ofDocument valid
  refine ⟨⟨?_, fun allows => ?_⟩, fun after fired => ?_, fun cause => ?_⟩
  · rintro ⟨after, fired⟩
    exact ((fire_eq_ok_iff formed sized known).1 fired).1
  · exact ⟨_, (fire_eq_ok_iff formed sized known).2 ⟨allows, rfl⟩⟩
  · obtain ⟨-, rfl⟩ := (fire_eq_ok_iff formed sized known).1 fired
    exact ⟨rfl, fun p => ⟨Net.tokens_moved formed sized t p, Net.data?_moved t p⟩⟩
  · exact fire_eq_error_iff formed sized known

/-- A transition that takes from the place it gives to, which can hold two. -/
def bakery : Document where
  name := "bakery"
  version := "1"
  places := [⟨"dough", .token, .int 3, false, none⟩, ⟨"shelf", .token, .int 1, true, some 2⟩]
  transitions := [{ id := "bake", guard := none, rate := 1.0 }]
  arcs := [⟨"dough", "bake", [], none⟩, ⟨"shelf", "bake", [], none⟩,
    ⟨"bake", "shelf", [], none⟩, ⟨"bake", "shelf", [], none⟩]
  invariants := [⟨"stocked", "shelf > 0"⟩, ⟨"leaven", "dough > 1"⟩]

/-- The bakery fires while the shelf holds one and leaven remains. With two on the shelf it is
refused with the count of three, and without leaven by the second invariant. -/
theorem fire_exact_bakery :
    ∃ net, Net.ofDocument bakery = .ok net ∧
      let holding (dough shelf : Int) : Execution :=
        { start net true with marking := [⟨dough, none⟩, ⟨shelf, none⟩] }
      (∃ after, (holding 3 1).fire "bake" = .ok after) ∧
      (holding 3 2).fire "bake" = .error (.capacityExceeded "shelf" 3 2) ∧
      (holding 2 1).fire "bake" = .error (.invariantViolated "leaven" "dough > 1") := by
  refine ⟨_, rfl, ?_⟩
  intro holding
  have outcome (dough shelf : Int) := fire_exact (d := bakery) (e := holding dough shelf) rfl rfl
    (show (holding dough shelf).net.transitionIndex? "bake" = some 0 from rfl)
  refine ⟨(outcome 3 1).1.2 ⟨by decide, ?_⟩, ((outcome 3 2).2.2 _).2 (.blocked ?_),
    ((outcome 2 1).2.2 _).2 ?_⟩
  · decide +kernel
  · have enough : (holding 3 2).net.HasEnough (holding 3 2).marking 0 := by decide
    have here : (holding 3 2).net.places[1]? = some ⟨"shelf", .token, .int 1, true, some 2⟩ := rfl
    exact .capacityExceeded (c := 2) enough here (by decide) (by decide) (by decide) rfl (by decide)
  · have canMove : (holding 2 1).net.CanMove (holding 2 1).marking 0 := by decide
    have broken : (holding 2 1).FirstBroken 0 ⟨"leaven", "dough > 1"⟩ :=
      ⟨[⟨"stocked", "shelf > 0"⟩], [], rfl, by decide +kernel, by decide +kernel⟩
    exact .invariantViolated canMove rfl broken (by decide +kernel)

end Execution

end GuardedNet
