import GuardedNet.Dynamics.Reaction

/-!
# Trajectories

The amounts in all places at a sequence of times, with straight lines between them. A trajectory
may be given whose states do not go with its times and places; reading an amount that is not
there fails.
-/

namespace GuardedNet

/-- The amounts at each of a sequence of times. -/
structure Trajectory where
  places : List String
  times : Array Float
  states : Array Amounts
deriving Inhabited

/-- Why reactions have no trajectory. -/
inductive SolveError where
  | invalidTimeSpan (start stop : Float)
  | invalidStep (step : Float)
  | nonFinite (time : Float)
deriving Inhabited

/-- The wording of an error. -/
def SolveError.message : SolveError → String
  | .invalidTimeSpan start stop =>
    "invalid time span [" ++ Number.plainStyle.text start ++ ", " ++ Number.plainStyle.text stop
      ++ "]"
  | .invalidStep step => "invalid step size " ++ Number.plainStyle.text step
  | .nonFinite time => "state became non-finite at t = " ++ Number.plainStyle.text time

/-- A way to follow reactions. -/
abbrev Solver := Problem → Except SolveError Trajectory

/-- Why two nets cannot be compared by their trajectories. -/
inductive DynamicsError where
  | solve (net : String) (cause : SolveError)
  | unknownPlace (net place : String)
  /-- A trajectory is read where it has no time or no amount. -/
  | outOfRange
deriving Inhabited

/-- The wording of an error. -/
def DynamicsError.message : DynamicsError → String
  | .solve net cause => "continuous solve of `" ++ net ++ "` failed: " ++ cause.message
  | .unknownPlace net place => "model `" ++ net ++ "` has no place `" ++ place ++ "`"
  | .outOfRange => "index out of bounds"

/-- The trajectory of a net over a span of time. -/
def Net.trajectory (net : Net) (solver : Solver) (timeSpan : Float) :
    Except DynamicsError Trajectory :=
  match solver (Problem.ofNet net timeSpan) with
  | .ok trajectory => .ok trajectory
  | .error cause => .error (.solve net.name cause)

namespace Trajectory

/-- The number of times. -/
def length (t : Trajectory) : Nat := t.times.size

/-- The first position of a place. -/
def placeIndex? (t : Trajectory) (place : String) : Option Nat := t.places.findIdx? (· == place)

/-- An item of an array that should be there. -/
def read {α : Type} (items : Array α) (index : Nat) : Except DynamicsError α :=
  match items[index]? with
  | some item => .ok item
  | none => .error .outOfRange

/-- The amount of a place at a position in time. -/
def amount (t : Trajectory) (moment place : Nat) : Except DynamicsError Float := do
  let state ← read t.states moment
  read state place

/-- The amounts at the end, none if there are no times. -/
def final (t : Trajectory) : Amounts := t.states.back?.getD #[]

/-- The amount of a place at the end. -/
def finalAmount? (t : Trajectory) (place : String) : Option Float :=
  (t.placeIndex? place).bind fun index => t.final[index]?

/-- The amounts of a place at all times. -/
def series (t : Trajectory) (place : String) : Except DynamicsError (Option (List Float)) :=
  match t.placeIndex? place with
  | some index => some <$> t.states.toList.mapM fun state => read state index
  | none => .ok none

/-- Halves the `size` positions from `base` on until one is left, keeping the upper half when
its first time lies before `time`. -/
def narrow (times : Array Float) (time : Float) : Nat → Nat → Nat → Nat
  | 0, base, _ => base
  | fuel + 1, base, size =>
    if 1 < size then
      let half := size / 2
      let middle := base + half
      narrow times time fuel (if times.getD middle 0.0 < time then middle else base) (size - half)
    else base

/-- The number of times before a time, when the times are in order. -/
def momentsBefore (t : Trajectory) (time : Float) : Nat :=
  if t.times.isEmpty then 0
  else
    let last := narrow t.times time t.times.size 0 t.times.size
    if t.times.getD last 0.0 < time then last + 1 else last

/-- The amount of a place at a time on the line that leads to a position in time. -/
def onLine (t : Trajectory) (place : Nat) (time : Float) : Nat → Except DynamicsError Float
  | 0 => .error .outOfRange
  | lower + 1 => do
    let t0 ← read t.times lower
    let t1 ← read t.times (lower + 1)
    let x0 ← t.amount lower place
    let x1 ← t.amount (lower + 1) place
    return if t1 == t0 then x1 else x0 + (x1 - x0) * (time - t0) / (t1 - t0)

/-- The amount of a place at any time. Before the first time and after the last the amounts
stand still. -/
def amountAt (t : Trajectory) (place : String) (time : Float) :
    Except DynamicsError (Option Float) :=
  match t.placeIndex? place, t.times[0]?, t.times.back? with
  | some index, some first, some last =>
    if time.isNaN then .ok none
    else if time ≤ first then some <$> t.amount 0 index
    else if last ≤ time then some <$> t.amount (t.states.size - 1) index
    else some <$> t.onLine index time (t.momentsBefore time)
  | _, _, _ => .ok none

/-- The sum of all amounts at each time. -/
def totalMass (t : Trajectory) : List Float :=
  t.states.toList.map fun state => Number.sum state.toList

end Trajectory

end GuardedNet
