import Mathlib.Data.List.Basic
import GuardedNet.Proofs.Run.Firing

/-!
# Paths of legal steps

A legal step is a firing by tokens alone that `Execution.successor` allows. Paths are legal
steps one after the other; every path can be fired (`Execution.Path.replay`). The first path to
a marking is the least of the shortest ones in the order of the declarations.
-/

namespace GuardedNet.Execution

/-- A legal step from one marking to another by the transition at a position. -/
def Step (e : Execution) (m : Marking) (t : Nat) (next : Marking) : Prop :=
  t < e.net.transitions.length ∧ e.successor m t = .ok next

/-- Legal steps one after the other. -/
inductive Path (e : Execution) : Marking → List Nat → Marking → Prop
  | nil (m : Marking) : Path e m [] m
  | cons {m middle last : Marking} {t : Nat} {path : List Nat} :
      e.Step m t middle → Path e middle path last → Path e m (t :: path) last

/-! ### Steps -/

theorem successor_eq_ok_iff {e : Execution} {m next : Marking} {t : Nat} :
    e.successor m t = .ok next ↔
      e.net.flowTokens m t = .ok next ∧ e.checkSuccessor next = .ok () := by
  rw [successor, bind_eq_ok]
  constructor
  · rintro ⟨flowed, moved, rest⟩
    rw [bind_eq_ok] at rest
    obtain ⟨⟨⟩, checked, same⟩ := rest
    obtain rfl := Except.ok.inj same
    exact ⟨moved, checked⟩
  · rintro ⟨moved, checked⟩
    exact ⟨next, moved, bind_eq_ok.2 ⟨(), checked, rfl⟩⟩

theorem Step.enables {e : Execution} {m next : Marking} {t : Nat} (step : e.Step m t next) :
    e.net.enables m t = true := by
  have flowed := (successor_eq_ok_iff.1 step.2).1
  unfold Net.flowTokens at flowed
  split at flowed
  · assumption
  · cases flowed

theorem Step.sized {e : Execution} (formed : e.net.WellFormed) {m next : Marking} {t : Nat}
    (sized : Marking.Over e.net m) (step : e.Step m t next) : Marking.Over e.net next :=
  (Net.moves_of_flowTokens formed sized (successor_eq_ok_iff.1 step.2).1).sized

/-! ### Paths -/

theorem Path.sized {e : Execution} (formed : e.net.WellFormed) {m last : Marking}
    {path : List Nat} (sized : Marking.Over e.net m) (leads : e.Path m path last) :
    Marking.Over e.net last := by
  induction leads with
  | nil => exact sized
  | cons step _ ih => exact ih (step.sized formed sized)

/-- The last step of a path can be split off. -/
theorem path_append_singleton {e : Execution} {m last : Marking} {path : List Nat} {t : Nat} :
    e.Path m (path ++ [t]) last ↔ ∃ middle, e.Path m path middle ∧ e.Step middle t last := by
  induction path generalizing m with
  | nil =>
    constructor
    · rintro (_ | ⟨step, rest⟩)
      cases rest
      exact ⟨m, .nil m, step⟩
    · rintro ⟨middle, leads, step⟩
      cases leads
      exact .cons step (.nil last)
  | cons s path ih =>
    constructor
    · rintro (_ | ⟨step, rest⟩)
      obtain ⟨middle, leads, final⟩ := ih.1 rest
      exact ⟨middle, .cons step leads, final⟩
    · rintro ⟨middle, _ | ⟨step, rest⟩, final⟩
      exact .cons step (ih.2 ⟨middle, rest, final⟩)

/-- What is legal depends on the net and on whether invariants are checked, which firing does
not change. -/
theorem Path.commit {e : Execution} {m last : Marking} {path : List Nat}
    (leads : e.Path m path last) (t : Nat) (next : Marking) :
    (e.commit t next).Path m path last := by
  induction leads with
  | nil m => exact .nil m
  | cons step _ ih => exact .cons step ih

theorem fire_of_step {e : Execution} (formed : e.net.WellFormed) {t : Nat} {next : Marking}
    (step : e.Step e.marking t next) : e.fire (e.net.transitionId t) = .ok (e.commit t next) := by
  have found : e.lookup (e.net.transitionId t) = .ok t := by
    rw [lookup, formed.transitionIndex?_transitionId step.1]
  rw [fire, bind_eq_ok]
  exact ⟨t, found, bind_eq_ok.2 ⟨next, step.2, rfl⟩⟩

/-- A path from the current marking can be fired step by step and ends in its last marking. -/
theorem Path.replay {e : Execution} (formed : e.net.WellFormed) {path : List Nat}
    {last : Marking} (leads : e.Path e.marking path last) :
    ∃ final, (path.map e.net.transitionId).foldlM fire e = .ok final ∧ final.marking = last := by
  induction path generalizing e with
  | nil =>
    cases leads
    exact ⟨e, rfl, rfl⟩
  | cons t path ih =>
    obtain _ | ⟨step, rest⟩ := leads
    obtain ⟨final, fired, reached⟩ := ih (e := e.commit t _) formed (rest.commit t _)
    refine ⟨final, ?_, reached⟩
    rw [List.map_cons, List.foldlM_cons, bind_eq_ok]
    exact ⟨_, fire_of_step formed step, fired⟩

/-! ### First paths -/

/-- A path of fewer than `n` steps leads from the current marking to `m`. -/
def ReachedBefore (e : Execution) (n : Nat) (m : Marking) : Prop :=
  ∃ path : List Nat, path.length < n ∧ e.Path e.marking path m

/-- The path leads from the current marking to `m`, no path to it is shorter, and none of the
same length comes before it. -/
structure FirstPath (e : Execution) (path : List Nat) (m : Marking) : Prop where
  leads : e.Path e.marking path m
  least : ∀ other, e.Path e.marking other m →
    path.length ≤ other.length ∧ (other.length = path.length → ¬other < path)

theorem ReachedBefore.mono {e : Execution} {n k : Nat} {m : Marking} (le : n ≤ k) :
    e.ReachedBefore n m → e.ReachedBefore k m := by
  rintro ⟨path, short, leads⟩
  exact ⟨path, Nat.lt_of_lt_of_le short le, leads⟩

theorem ReachedBefore.step {e : Execution} {n t : Nat} {m next : Marking}
    (reached : e.ReachedBefore n m) (step : e.Step m t next) : e.ReachedBefore (n + 1) next := by
  obtain ⟨path, short, leads⟩ := reached
  refine ⟨path ++ [t], ?_, path_append_singleton.2 ⟨m, leads, step⟩⟩
  rw [List.length_append, List.length_singleton]
  omega

/-- What is reached before so many steps and one is the start or one step further. -/
theorem ReachedBefore.cases {e : Execution} {n : Nat} {m : Marking}
    (reached : e.ReachedBefore (n + 1) m) :
    m = e.marking ∨ ∃ middle t, e.ReachedBefore n middle ∧ e.Step middle t m := by
  obtain ⟨path, short, leads⟩ := reached
  rcases List.eq_nil_or_concat' path with rfl | ⟨front, t, rfl⟩
  · cases leads
    exact Or.inl rfl
  · obtain ⟨middle, leads, step⟩ := path_append_singleton.1 leads
    rw [List.length_append, List.length_singleton] at short
    exact Or.inr ⟨middle, t, ⟨front, by omega, leads⟩, step⟩

end GuardedNet.Execution
