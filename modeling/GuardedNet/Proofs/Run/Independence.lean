import GuardedNet.Proofs.Net.ById
import GuardedNet.Proofs.Run.Refusal

/-!
# Transitions that do not meet

A transition meets the places at its arcs without keys. Whether its tokens move, and why they do
not, depends on the tokens of these places alone (`Net.CanMove.of_alike`, `Net.Blocks.of_alike`).
Main statement: two transitions that meet no common place fire in either order with one outcome
(`Execution.fire_commutes`).
-/

namespace GuardedNet

/-- No place has a negative number of tokens. -/
def Marking.Nonneg (m : Marking) : Prop := ∀ p, 0 ≤ m.tokens p

namespace Net

/-! ### Places that a transition meets -/

/-- An arc without keys leads between the transition and the place. -/
def Meets (net : Net) (transition place : String) : Prop :=
  ∃ arc ∈ net.arcs, arc.isKeyed = false ∧
    (arc.ends = (place, transition) ∨ arc.ends = (transition, place))

instance (net : Net) (transition place : String) : Decidable (net.Meets transition place) :=
  inferInstanceAs (Decidable (∃ arc ∈ net.arcs, _ ∧ _))

/-- No place is met by both transitions. -/
def Independent (net : Net) (first second : String) : Prop :=
  ∀ place ∈ net.places, ¬(net.Meets first place.id ∧ net.Meets second place.id)

instance (net : Net) (first second : String) : Decidable (net.Independent first second) :=
  inferInstanceAs (Decidable (∀ place ∈ net.places, ¬(_ ∧ _)))

/-- The transition neither takes from the place nor gives to it. -/
def Spares (net : Net) (t p : Nat) : Prop :=
  net.plainConsumed.entry p t = 0 ∧ net.plainProduced.entry p t = 0

namespace WellFormed

variable {net : Net} (formed : net.WellFormed)
include formed

theorem spares_of_not_meets {t p : Nat} (placeInside : p < net.places.length)
    (transitionInside : t < net.transitions.length)
    (apart : ¬net.Meets (net.transitionId t) (net.placeId p)) : net.Spares t p := by
  have entry := formed.entry_table placeInside transitionInside
  have none : ∀ direction arc, arc ∈ net.arcs →
      ¬Arc.isCounted direction true (net.placeId p) (net.transitionId t) arc = true := by
    intro direction arc member counted
    simp only [Arc.isCounted, Bool.true_and, Bool.and_eq_true, Bool.not_eq_true', beq_iff_eq]
      at counted
    obtain ⟨ends, plain⟩ := counted
    cases direction with
    | input => exact apart ⟨arc, member, plain, Or.inl ends⟩
    | output => exact apart ⟨arc, member, plain, Or.inr ends⟩
  exact ⟨(entry .input true).trans (List.countP_eq_zero.2 (none .input)),
    (entry .output true).trans (List.countP_eq_zero.2 (none .output))⟩

/-- Of two independent transitions at least one leaves a place alone. -/
theorem spares_or_spares {a b : String} {s t : Nat} (first : net.transitionIndex? a = some s)
    (second : net.transitionIndex? b = some t) (independent : net.Independent a b) {p : Nat}
    (inside : p < net.places.length) : net.Spares s p ∨ net.Spares t p := by
  obtain ⟨insideS, rfl⟩ := transitionId_of_transitionIndex? first
  obtain ⟨insideT, rfl⟩ := transitionId_of_transitionIndex? second
  have apart := independent _ (List.getElem_mem inside)
  have placeNamed : net.placeId p = net.places[p].id := by
    rw [placeId, List.getElem?_eq_getElem inside]
    rfl
  rw [← placeNamed] at apart
  by_cases meets : net.Meets (net.transitionId s) (net.placeId p)
  · right
    exact formed.spares_of_not_meets inside insideT fun meets' => apart ⟨meets, meets'⟩
  · left
    exact formed.spares_of_not_meets inside insideS meets

end WellFormed

/-! ### Moving depends on these places alone -/

/-- The markings agree on the tokens of the places that the transition does not leave alone. -/
def Alike (net : Net) (t : Nat) (m m' : Marking) : Prop :=
  ∀ p < net.places.length, net.Spares t p ∨ m.tokens p = m'.tokens p

section Alike

variable {net : Net} {t : Nat} {m m' : Marking} (alike : net.Alike t m m')
include alike

theorem Alike.symm : net.Alike t m' m := fun p inside => (alike p inside).imp_right Eq.symm

theorem HasEnough.of_alike (nonneg : m'.Nonneg) (enough : net.HasEnough m t) :
    net.HasEnough m' t := by
  intro p inside
  rcases alike p inside with ⟨takesNone, -⟩ | same
  · rw [takesNone]
    exact nonneg p
  · rw [← same]
    exact enough p inside

/-- A place that is given tokens holds the same afterwards. -/
theorem Alike.tokensAfter_eq {p : Nat} (inside : p < net.places.length)
    (positive : 0 < net.plainProduced.entry p t) :
    net.tokensAfter m t p = net.tokensAfter m' t p := by
  rcases alike p inside with ⟨-, givesNone⟩ | same
  · rw [givesNone] at positive
    cases positive
  · rw [tokensAfter, tokensAfter, same]

theorem HasRoom.of_alike {p : Nat} (inside : p < net.places.length)
    (room : net.HasRoom m t p) : net.HasRoom m' t p := by
  intro positive
  rw [← alike.tokensAfter_eq inside positive]
  exact room positive

/-- Tokens that can move can move in every marking that is alike. -/
theorem CanMove.of_alike (nonneg : m'.Nonneg) (can : net.CanMove m t) : net.CanMove m' t :=
  ⟨can.enough.of_alike alike nonneg, fun p inside => (can.room p inside).of_alike alike inside⟩

/-- What holds tokens up holds them up, with the same report, in every marking that is alike. -/
theorem Blocks.of_alike (nonneg : m.Nonneg) (nonneg' : m'.Nonneg) {cause : FireError}
    (blocks : net.Blocks m t cause) : net.Blocks m' t cause := by
  have roomBefore : ∀ {p : Nat} {place : Place}, net.places[p]? = some place →
      (∀ q < p, net.HasRoom m t q) → ∀ q < p, net.HasRoom m' t q := by
    intro p place here room q before
    have inside := (List.getElem?_eq_some_iff.1 here).1
    exact (room q before).of_alike alike (Nat.lt_trans before inside)
  cases blocks with
  | notEnabled short =>
    exact .notEnabled fun enough => short (enough.of_alike alike.symm nonneg)
  | tokenOverflow enough here room positive beyond =>
    rw [alike.tokensAfter_eq (List.getElem?_eq_some_iff.1 here).1 positive] at beyond
    exact .tokenOverflow (enough.of_alike alike nonneg') here (roomBefore here room) positive beyond
  | capacityExceeded enough here room positive fits limited full =>
    rw [alike.tokensAfter_eq (List.getElem?_eq_some_iff.1 here).1 positive] at fits full ⊢
    exact .capacityExceeded (enough.of_alike alike nonneg') here (roomBefore here room) positive
      fits limited full

end Alike

/-! ### Moving the tokens of two transitions -/

section Moved

variable {net : Net} (formed : net.WellFormed) {m : Marking} (sized : Marking.Over net m)
include sized

/-- Nothing is enabled while a place has a negative number of tokens. -/
theorem HasEnough.nonneg {t : Nat} (enough : net.HasEnough m t) : m.Nonneg := by
  intro p
  by_cases inside : p < net.places.length
  · exact Int.le_trans (Int.natCast_nonneg _) (enough p inside)
  · rw [Marking.tokens_eq_zero (sized ▸ Nat.le_of_not_lt inside)]

theorem over_moved (t : Nat) : Marking.Over net (net.moved m t) := by
  rw [Marking.Over, moved, List.length_mapIdx]
  exact sized

include formed

theorem HasEnough.nonneg_moved {t : Nat} (enough : net.HasEnough m t) :
    (net.moved m t).Nonneg := by
  intro p
  by_cases inside : p < net.places.length
  · have has := enough p inside
    rw [tokens_moved formed sized, tokensAfter]
    omega
  · have outside : (net.moved m t).length ≤ p := over_moved sized t ▸ Nat.le_of_not_lt inside
    rw [Marking.tokens_eq_zero outside]

/-- A transition sees the same tokens after another that leaves its places alone. -/
theorem alike_moved {s t : Nat}
    (apart : ∀ p < net.places.length, net.Spares s p ∨ net.Spares t p) :
    net.Alike t m (net.moved m s) := by
  intro p inside
  rcases apart p inside with ⟨takesNone, givesNone⟩ | spares
  · right
    rw [tokens_moved formed sized, tokensAfter, takesNone, givesNone]
    omega
  · exact Or.inl spares

/-- The tokens of two transitions add up in either order. -/
theorem moved_comm (s t : Nat) :
    net.moved (net.moved m s) t = net.moved (net.moved m t) s := by
  have overS := over_moved sized s
  have overT := over_moved sized t
  refine Marking.ext_of_over (over_moved overS t) (over_moved overT s) fun p => ⟨?_, ?_⟩
  · rw [tokens_moved formed overS, tokens_moved formed overT, tokensAfter, tokensAfter,
      tokens_moved formed sized, tokens_moved formed sized, tokensAfter, tokensAfter]
    omega
  · rw [data?_moved, data?_moved, data?_moved, data?_moved]

end Moved

end Net

namespace Execution

/-! ### Firing twice -/

section Unchecked

variable {e : Execution} (formed : e.net.WellFormed) (sized : Marking.Over e.net e.marking)
  (unchecked : e.checksInvariants = false)
include formed sized unchecked

theorem fire_eq_ok_iff_canMove {id : String} {t : Nat} (known : e.net.transitionIndex? id = some t)
    {after : Execution} :
    e.fire id = .ok after ↔
      e.net.CanMove e.marking t ∧ after = e.commit t (e.net.moved e.marking t) := by
  rw [fire_eq_ok_iff formed sized known]
  refine and_congr_left fun _ => ⟨fun allows => allows.moves, fun can => ⟨can, fun checks => ?_⟩⟩
  rw [unchecked] at checks
  cases checks

theorem fire_eq_error_iff_blocks {id : String} {t : Nat}
    (known : e.net.transitionIndex? id = some t) {cause : FireError} :
    e.fire id = .error cause ↔ e.net.Blocks e.marking t cause := by
  rw [fire_eq_error_iff formed sized known]
  refine ⟨fun refuses => ?_, .blocked⟩
  cases refuses with
  | blocked blocks => exact blocks
  | invariantViolated _ checks => exact absurd checks (by simp [unchecked])
  | invariantEvaluation _ checks => exact absurd checks (by simp [unchecked])

variable {a b : String} {s t : Nat} (first : e.net.transitionIndex? a = some s)
  (second : e.net.transitionIndex? b = some t)
include first second

theorem fire_fire_eq_ok_iff {after : Execution} :
    (e.fire a >>= fun middle => middle.fire b) = .ok after ↔
      e.net.CanMove e.marking s ∧ e.net.CanMove (e.net.moved e.marking s) t ∧
      after = (e.commit s (e.net.moved e.marking s)).commit t
        (e.net.moved (e.net.moved e.marking s) t) := by
  have next := @fire_eq_ok_iff_canMove (e.commit s (e.net.moved e.marking s)) formed
    (Net.over_moved sized s) unchecked b t second
  rw [bind_eq_ok]
  constructor
  · rintro ⟨middle, fired, later⟩
    obtain ⟨can, rfl⟩ := (fire_eq_ok_iff_canMove formed sized unchecked first).1 fired
    exact ⟨can, next.1 later⟩
  · rintro ⟨can, later⟩
    exact ⟨_, (fire_eq_ok_iff_canMove formed sized unchecked first).2 ⟨can, rfl⟩, next.2 later⟩

end Unchecked

/-- Two transitions that meet no common place, with the invariants left aside: one fires after the
other exactly if the other fires after the one, both ways lead to one marking, and a transition
that does not fire still does not after the other has, with the same error. No number of tokens
need be asked to be nonnegative: where one is not, neither transition fires. -/
theorem fire_commutes {d : Document} {e : Execution} (valid : Net.ofDocument d = .ok e.net)
    (unchecked : e.checksInvariants = false) (sized : Marking.Over e.net e.marking) {a b : String}
    {s t : Nat} (first : e.net.transitionIndex? a = some s)
    (second : e.net.transitionIndex? b = some t) (independent : e.net.Independent a b) :
    ((∃ after, (e.fire a >>= fun middle => middle.fire b) = .ok after) ↔
      ∃ after, (e.fire b >>= fun middle => middle.fire a) = .ok after) ∧
    (∀ after after', (e.fire a >>= fun middle => middle.fire b) = .ok after →
      (e.fire b >>= fun middle => middle.fire a) = .ok after' →
        after.marking = after'.marking) ∧
    ∀ cause middle, e.fire a = .error cause → e.fire b = .ok middle →
      middle.fire a = .error cause := by
  have formed := Net.wellFormed_of_ofDocument valid
  have apart := fun p inside => formed.spares_or_spares first second independent (p := p) inside
  -- the tokens at the places of one transition are the same before and after the other
  have alikeA := Net.alike_moved formed sized fun p inside => (apart p inside).symm
  have alikeB := Net.alike_moved formed sized apart
  refine ⟨?_, fun after after' here there => ?_, fun cause middle refused fired => ?_⟩
  · simp only [fire_fire_eq_ok_iff formed sized unchecked first second,
      fire_fire_eq_ok_iff formed sized unchecked second first, exists_and_left, exists_eq,
      and_true]
    constructor
    · rintro ⟨canA, canB⟩
      have canB := canB.of_alike alikeB.symm (canA.enough.nonneg sized)
      exact ⟨canB, canA.of_alike alikeA (canB.enough.nonneg_moved formed sized)⟩
    · rintro ⟨canB, canA⟩
      have canA := canA.of_alike alikeA.symm (canB.enough.nonneg sized)
      exact ⟨canA, canB.of_alike alikeB (canA.enough.nonneg_moved formed sized)⟩
  · obtain ⟨-, -, rfl⟩ := (fire_fire_eq_ok_iff formed sized unchecked first second).1 here
    obtain ⟨-, -, rfl⟩ := (fire_fire_eq_ok_iff formed sized unchecked second first).1 there
    exact Net.moved_comm formed sized s t
  · have blocks := (fire_eq_error_iff_blocks formed sized unchecked first).1 refused
    obtain ⟨canB, rfl⟩ := (fire_eq_ok_iff_canMove formed sized unchecked second).1 fired
    have still := blocks.of_alike alikeA (canB.enough.nonneg sized)
      (canB.enough.nonneg_moved formed sized)
    exact (fire_eq_error_iff_blocks (e := e.commit t (e.net.moved e.marking t)) formed
      (Net.over_moved sized t) unchecked first).2 still

/-- A baker with one shelf and a dairy that keep out of each other's way. -/
def village : Document where
  name := "village"
  version := "1"
  places := [⟨"flour", .token, .int 3, false, none⟩, ⟨"bread", .token, .int 0, true, some 1⟩,
    ⟨"milk", .token, .int 2, false, none⟩, ⟨"cheese", .token, .int 0, true, none⟩]
  transitions := [{ id := "bake", guard := none, rate := 1.0 },
    { id := "churn", guard := none, rate := 1.0 }]
  arcs := [⟨"flour", "bake", [], none⟩, ⟨"milk", "churn", [], none⟩, ⟨"bake", "bread", [], none⟩,
    ⟨"milk", "churn", [], none⟩, ⟨"churn", "cheese", [], none⟩]
  invariants := []

/-- At the start the two fire in either order, and with bread on the shelf the baker is refused
for the same reason before and after the dairy. -/
theorem fire_commutes_village :
    ∃ net, Net.ofDocument village = .ok net ∧ net.Independent "bake" "churn" ∧
      let early : Execution := start net false
      let late : Execution :=
        { early with marking := [⟨2, none⟩, ⟨1, none⟩, ⟨2, none⟩, ⟨0, none⟩] }
      (∃ after, (early.fire "churn" >>= fun middle => middle.fire "bake") = .ok after) ∧
      ∃ middle, late.fire "churn" = .ok middle ∧
        middle.fire "bake" = .error (.capacityExceeded "bread" 2 1) := by
  refine ⟨_, rfl, by decide, ?_⟩
  intro early late
  have valid : Net.ofDocument village = .ok early.net := rfl
  have independent : early.net.Independent "bake" "churn" := by decide
  have bake : early.net.transitionIndex? "bake" = some 0 := by decide
  have churn : early.net.transitionIndex? "churn" = some 1 := by decide
  refine ⟨?_, _, rfl, ?_⟩
  · exact (fire_commutes (e := early) valid rfl rfl bake churn independent).1.1 ⟨_, rfl⟩
  · exact (fire_commutes (e := late) valid rfl rfl bake churn independent).2.2 _ _ rfl rfl

end Execution

end GuardedNet
