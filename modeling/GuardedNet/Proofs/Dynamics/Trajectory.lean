import GuardedNet.Dynamics.RungeKutta
import GuardedNet.Proofs.Outcome
import GuardedNet.Sensitivity.Impact

/-!
# Complete trajectories

A trajectory is complete when it has a state for every time and an amount for every place in each
state. Any amount of a complete trajectory can be read, so that two of them can always be compared
(`Trajectory.Complete.impact`). A solver is complete when its answers are; the Runge-Kutta method is
(`RungeKutta.isComplete_solve`).
-/

namespace GuardedNet

/-! ### The order of doubles -/

section Order

open Float.Model

/-- The order is the same from both sides. -/
theorem compare_swap (a b : UnpackedFloat) : b.compare a = (a.compare b).map Ordering.swap := by
  cases a with
  | notANumber => cases b <;> rfl
  | infinity sign =>
    cases b with
    | notANumber => rfl
    | infinity other => cases sign <;> cases other <;> rfl
    | zero other => cases sign <;> rfl
    | finite other => cases sign <;> rfl
  | zero sign =>
    cases b with
    | infinity other => cases other <;> rfl
    | finite other => cases other <;> rfl
    | _ => rfl
  | finite sign m e _ =>
    cases b with
    | notANumber => cases sign <;> rfl
    | infinity other => cases sign <;> cases other <;> rfl
    | zero other => cases sign <;> rfl
    | finite other n f _ =>
      have mantissas : compare n m = (compare m n).swap := Std.OrientedCmp.eq_swap
      have exponents : compare f e = (compare e f).swap := Std.OrientedCmp.eq_swap
      have both : (compare f e).then (compare n m) = ((compare e f).then (compare m n)).swap := by
        rw [Ordering.swap_then, mantissas, exponents]
      cases sign with
      | positive =>
        cases other with
        | positive => exact congrArg some both
        | negative => rfl
      | negative =>
        cases other with
        | positive => rfl
        | negative => exact congrArg (fun order => some order.swap) both

/-- Two numbers have an order. -/
theorem exists_compare {a b : UnpackedFloat} (left : a.isNaN = false) (right : b.isNaN = false) :
    ∃ order, a.compare b = some order := by
  cases a with
  | notANumber => cases left
  | infinity sign =>
    cases b with
    | notANumber => cases right
    | _ => cases sign <;> exact ⟨_, rfl⟩
  | zero sign =>
    cases b with
    | notANumber => cases right
    | zero other => exact ⟨_, rfl⟩
    | infinity other | finite other => cases other <;> exact ⟨_, rfl⟩
  | finite sign m e _ =>
    cases b with
    | notANumber => cases right
    | zero other => cases sign <;> exact ⟨_, rfl⟩
    | infinity other | finite other => cases sign <;> cases other <;> exact ⟨_, rfl⟩

theorem lt_iff_compare {a b : Float} :
    a < b ↔ a.toModel.unpack.compare b.toModel.unpack = some .lt := by
  change decide (a.toModel < b.toModel) = true ↔ _
  rw [decide_eq_true_iff]
  change a.toModel.unpack.lt b.toModel.unpack = true ↔ _
  rw [UnpackedFloat.lt, beq_iff_eq]

theorem le_iff_compare {a b : Float} :
    a ≤ b ↔ ∃ order, a.toModel.unpack.compare b.toModel.unpack = some order ∧
      order.isLE = true := by
  change decide (a.toModel ≤ b.toModel) = true ↔ _
  rw [decide_eq_true_iff]
  change a.toModel.unpack.le b.toModel.unpack = true ↔ _
  rw [UnpackedFloat.le, Option.any_eq_true]

theorem float_le_of_lt {a b : Float} (less : a < b) : a ≤ b :=
  le_iff_compare.2 ⟨.lt, lt_iff_compare.1 less, rfl⟩

/-- Of two numbers one is the smaller, or does not exceed the other. -/
theorem float_lt_of_not_le {a b : Float} (left : a.isNaN = false) (right : b.isNaN = false)
    (beyond : ¬a ≤ b) : b < a := by
  obtain ⟨order, ordered⟩ := exists_compare (a := a.toModel.unpack) (b := b.toModel.unpack)
    left right
  rw [lt_iff_compare, compare_swap, ordered]
  cases order with
  | gt => rfl
  | lt | eq => exact absurd (le_iff_compare.2 ⟨_, ordered, rfl⟩) beyond

end Order

namespace Trajectory

/-- Every time has a state and every state an amount for every place. The first time is a
number. -/
structure Complete (t : Trajectory) : Prop where
  size_states : t.states.size = t.times.size
  size_of_mem : ∀ state ∈ t.states, state.size = t.places.length
  first : ∀ first, t.times[0]? = some first → first.isNaN = false

/-! ### Reading amounts -/

theorem read_of_lt {α : Type} {items : Array α} {index : Nat} (inside : index < items.size) :
    ∃ item ∈ items, read items index = .ok item := by
  refine ⟨items[index], Array.getElem_mem inside, ?_⟩
  simp [read, inside]

/-- The half that is kept is inside the whole. -/
theorem narrow_lt (times : Array Float) (time : Float) (fuel base : Nat) {size : Nat}
    (nonempty : 0 < size) :
    narrow times time fuel base size < base + size := by
  induction fuel generalizing base size with
  | zero => rw [narrow]; omega
  | succ fuel ih =>
    rw [narrow]
    split
    · refine Nat.lt_of_lt_of_le (ih _ (by omega)) ?_
      split <;> omega
    · omega

theorem placeIndex?_lt {t : Trajectory} {place : String} {index : Nat}
    (found : t.placeIndex? place = some index) : index < t.places.length :=
  (List.findIdx?_eq_some_iff_getElem.1 found).1

namespace Complete

variable {t : Trajectory} (complete : t.Complete)
include complete

theorem amount {moment place : Nat} (reached : moment < t.times.size)
    (inside : place < t.places.length) : ∃ value, t.amount moment place = .ok value := by
  obtain ⟨state, member, here⟩ := read_of_lt (complete.size_states ▸ reached)
  obtain ⟨value, -, there⟩ := read_of_lt (complete.size_of_mem state member ▸ inside)
  exact ⟨value, by rw [Trajectory.amount, here]; exact there⟩

/-- Between the first and the last time there is a line. -/
theorem onLine {place : Nat} (inside : place < t.places.length) (time : Float) {lower : Nat}
    (reached : lower + 1 < t.times.size) :
    ∃ value, t.onLine place time (lower + 1) = .ok value := by
  obtain ⟨t0, -, before⟩ := read_of_lt (Nat.lt_of_succ_lt reached)
  obtain ⟨t1, -, after⟩ := read_of_lt reached
  obtain ⟨x0, here⟩ := complete.amount (Nat.lt_of_succ_lt reached) inside
  obtain ⟨x1, there⟩ := complete.amount reached inside
  rw [Trajectory.onLine, before, after, here, there]
  exact ⟨_, rfl⟩

/-- A time after the first and not after the last lies on a line between two times. -/
theorem momentsBefore_eq {time first last : Float} (isNumber : time.isNaN = false)
    (start : t.times[0]? = some first) (stop : t.times.back? = some last)
    (later : ¬time ≤ first) (earlier : ¬last ≤ time) :
    ∃ lower, t.momentsBefore time = lower + 1 ∧ lower + 1 < t.times.size := by
  have nonempty : 0 < t.times.size := (Array.getElem?_eq_some_iff.1 start).1
  have below := narrow_lt t.times time t.times.size 0 nonempty
  have atStart : t.times.getD 0 0.0 = first := by simp [Array.getD_eq_getD_getElem?, start]
  have atStop : t.times.getD (t.times.size - 1) 0.0 = last := by
    rw [Array.getD_eq_getD_getElem?, ← Array.back?_eq_getElem?, stop]
    rfl
  rw [momentsBefore, if_neg (by simpa using Array.size_pos_iff.1 nonempty)]
  generalize narrow t.times time t.times.size 0 t.times.size = reached at below ⊢
  dsimp only
  split
  · rename_i before
    refine ⟨reached, rfl, ?_⟩
    -- The last time is not before the time.
    have notLast : reached ≠ t.times.size - 1 := by
      rintro rfl
      exact earlier (float_le_of_lt (atStop ▸ before))
    omega
  · rename_i notBefore
    -- The first time is before the time.
    have notFirst : reached ≠ 0 := by
      rintro rfl
      rw [atStart] at notBefore
      exact notBefore (float_lt_of_not_le isNumber (complete.first first start) later)
    exact ⟨reached - 1, by omega, by omega⟩

/-- An amount of a complete trajectory can be read at any time. -/
theorem amountAt (place : String) (time : Float) : ∃ value, t.amountAt place time = .ok value := by
  unfold Trajectory.amountAt
  split
  · rename_i index first last found start stop
    have inside := placeIndex?_lt found
    have nonempty : 0 < t.times.size := (Array.getElem?_eq_some_iff.1 start).1
    have lifted {outcome : Except DynamicsError Float} (read : ∃ value, outcome = .ok value) :
        ∃ value, some <$> outcome = .ok value := by
      obtain ⟨value, rfl⟩ := read
      exact ⟨some value, rfl⟩
    split
    · exact ⟨none, rfl⟩
    rename_i isNumber
    split
    · exact lifted (complete.amount nonempty inside)
    rename_i later
    split
    · exact lifted (complete.amount (by have := complete.size_states; omega) inside)
    · rename_i earlier
      obtain ⟨lower, before, reached⟩ := complete.momentsBefore_eq (by simpa using isNumber) start
        stop later earlier
      rw [before]
      exact lifted (complete.onLine inside time reached)
  · exact ⟨none, rfl⟩

theorem massAt (places : List String) (time : Float) :
    ∃ mass, t.massAt places time = .ok mass :=
  exists_ok_bind (exists_ok_mapM fun place _ => complete.amountAt place time) fun _ => ⟨_, rfl⟩

end Complete

/-! ### Comparing trajectories -/

theorem exists_ok_greatest (sofar : Float)
    {differences : List (Except DynamicsError (Option Float))}
    (all : ∀ next ∈ differences, ∃ difference, next = .ok difference) :
    ∃ value, greatest sofar differences = .ok value := by
  induction differences generalizing sofar with
  | nil => exact ⟨sofar, rfl⟩
  | cons next rest ih =>
    obtain ⟨⟨difference, rfl⟩, rest⟩ := List.forall_mem_cons.1 all
    cases difference with
    | none => exact ih sofar rest
    | some difference =>
      simp only [greatest, bind, Except.bind]
      split
      · exact ⟨_, rfl⟩
      · exact ih _ rest

/-- Two complete trajectories can be compared. -/
theorem Complete.impact {baseline changed : Trajectory} (complete : baseline.Complete)
    (complete' : changed.Complete) (metric : Metric) (times : List Float) :
    ∃ value, baseline.impact changed metric times = .ok value := by
  refine exists_ok_greatest _ fun next member => ?_
  obtain ⟨time, -, member⟩ := List.mem_flatMap.1 member
  cases metric with
  | pointwise =>
    obtain ⟨place, -, rfl⟩ := List.mem_map.1 member
    refine exists_ok_bind (complete.amountAt place time) fun a => ?_
    refine exists_ok_bind (complete'.amountAt place time) fun b => ?_
    split <;> exact ⟨_, rfl⟩
  | tokenMass =>
    obtain rfl := List.mem_singleton.1 member
    refine exists_ok_bind (complete.massAt _ time) fun a => ?_
    exact exists_ok_bind (complete'.massAt _ time) fun b => ⟨_, rfl⟩

end Trajectory

/-! ### Complete solvers -/

/-- The solver answers with complete trajectories when there is an amount in every place to start
with. -/
def Solver.IsComplete (solver : Solver) : Prop :=
  ∀ problem : Problem, problem.initial.size = problem.places.length →
    ∀ t, solver problem = .ok t → t.Complete

theorem Problem.size_initial_ofNet (net : Net) (timeSpan : Float) :
    (ofNet net timeSpan).initial.size = (ofNet net timeSpan).places.length := by
  simp [ofNet]

namespace RungeKutta

theorem size_advance (problem : Problem) (amounts : Amounts) (h : Float) :
    (advance problem amounts h).size = amounts.size := by
  simp [advance]

/-- What steps keep: as many states as times, states of one size, and the first time. -/
structure Kept (size : Nat) (start : Float) (times : Array Float) (states : Array Amounts) :
    Prop where
  size_states : states.size = times.size
  size_of_mem : ∀ state ∈ states, state.size = size
  start_eq : times[0]? = some start

theorem Kept.push {size : Nat} {start : Float} {times : Array Float} {states : Array Amounts}
    (kept : Kept size start times states) (time : Float) {amounts : Amounts}
    (sized : amounts.size = size) : Kept size start (times.push time) (states.push amounts) where
  size_states := by simp [kept.size_states]
  size_of_mem state member := by
    rcases Array.mem_push.1 member with member | rfl
    · exact kept.size_of_mem state member
    · exact sized
  start_eq := by
    have nonempty := (Array.getElem?_eq_some_iff.1 kept.start_eq).1
    rw [Array.getElem?_push_lt nonempty, ← Array.getElem?_eq_getElem nonempty, kept.start_eq]

theorem Kept.steps {size : Nat} {start : Float} {problem : Problem} {step : Float} {more : Nat}
    {time : Float} {amounts : Amounts} {times times' : Array Float} {states states' : Array Amounts}
    (kept : Kept size start times states) (sized : amounts.size = size)
    (taken : steps problem step more time amounts times states = .ok (times', states')) :
    Kept size start times' states' := by
  induction more generalizing time amounts times states with
  | zero =>
    rw [RungeKutta.steps] at taken
    cases taken
    exact kept
  | succ more ih =>
    rw [RungeKutta.steps] at taken
    dsimp only at taken
    split at taken
    · cases taken
      exact kept
    split at taken
    · cases taken
    · have sized' (h : Float) := (size_advance problem amounts h).trans sized
      exact ih (kept.push _ (sized' _)) (sized' _) taken

/-- A double that is finite is a number. -/
theorem isNaN_of_isFinite {a : Float} (finite : a.isFinite = true) : a.isNaN = false := by
  change a.toModel.unpack.isFinite = true at finite
  change a.toModel.unpack.isNaN = false
  cases unpacked : a.toModel.unpack with
  | notANumber => rw [unpacked] at finite; cases finite
  | _ => rfl

/-- The Runge-Kutta method answers with complete trajectories. -/
theorem isComplete_solve (step : Float) : (solve step).IsComplete := by
  intro problem sized t solved
  rw [solve] at solved
  split at solved
  · cases solved
  rename_i bounds
  split at solved
  · cases solved
  obtain ⟨⟨times, states⟩, taken, made⟩ := bind_eq_ok.1 solved
  cases made
  have kept : Kept problem.initial.size problem.start #[problem.start] #[problem.initial] :=
    ⟨rfl, by simp, rfl⟩
  have reached := kept.steps rfl taken
  refine ⟨reached.size_states, fun state member => ?_, fun first start => ?_⟩
  · rw [reached.size_of_mem state member, sized]
  · have finite : problem.start.isFinite = true := by
      simp only [Bool.or_eq_true, not_or] at bounds
      simpa using bounds.1.1
    obtain rfl := Option.some.inj (reached.start_eq.symm.trans start)
    exact isNaN_of_isFinite finite

end RungeKutta

end GuardedNet
