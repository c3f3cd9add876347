import GuardedNet.Dynamics.Trajectory

/-!
# The Runge-Kutta method

Follows reactions by the classical method of fourth order with a fixed step; the last step is
shortened to end on time.
-/

namespace GuardedNet.RungeKutta

/-- The step that is taken when none is given. -/
def defaultStep : Float := 0.01

/-- The amounts after going along slopes for a time. -/
def along (amounts slopes : Amounts) (h : Float) : Amounts :=
  Array.zipWith (fun amount slope => amount + h * slope) amounts slopes

/-- The amounts after one step. -/
def advance (problem : Problem) (amounts : Amounts) (h : Float) : Amounts :=
  let k1 := problem.slopes amounts
  let k2 := problem.slopes (along amounts k1 (h / 2.0))
  let k3 := problem.slopes (along amounts k2 (h / 2.0))
  let k4 := problem.slopes (along amounts k3 h)
  amounts.mapIdx fun i amount =>
    amount + h / 6.0 *
      (k1.getD i 0.0 + 2.0 * k2.getD i 0.0 + 2.0 * k3.getD i 0.0 + k4.getD i 0.0)

/-- Takes so many more steps, unless no time is left, and adds the times and states to those
reached so far. -/
def steps (problem : Problem) (step : Float) :
    Nat → Float → Amounts → Array Float → Array Amounts →
      Except SolveError (Array Float × Array Amounts)
  | 0, _, _, times, states => .ok (times, states)
  | more + 1, time, amounts, times, states =>
    let h := Number.lesser (problem.stop - time) step
    if h ≤ 0.0 then .ok (times, states)
    else
      let amounts := advance problem amounts h
      let time := if more = 0 then problem.stop else time + h
      if amounts.any fun amount => !amount.isFinite then .error (.nonFinite time)
      else steps problem step more time amounts (times.push time) (states.push amounts)

/-- The trajectory of reactions. -/
def solve (step : Float) : Solver := fun problem =>
  if !problem.start.isFinite || !problem.stop.isFinite || problem.stop < problem.start then
    .error (.invalidTimeSpan problem.start problem.stop)
  else if !step.isFinite || step ≤ 0.0 then .error (.invalidStep step)
  else do
    let count := ((problem.stop - problem.start) / step).ceil.toUInt64.toNat
    let (times, states) ←
      steps problem step count problem.start problem.initial #[problem.start] #[problem.initial]
    return ⟨problem.places, times, states⟩

/-- What following reactions reports. -/
def journal (step : Float) (problem : Problem) : Journal :=
  match solve step problem with
  | .error _ => []
  | .ok trajectory =>
    [.debug ("rk4: " ++ Number.natText problem.places.length ++ " places, "
      ++ Number.natText problem.reactions.length ++ " reactions, "
      ++ Number.natText (trajectory.length - 1) ++ " steps over ["
      ++ Number.plainStyle.text problem.start ++ ", " ++ Number.plainStyle.text problem.stop
      ++ "]")]

end GuardedNet.RungeKutta
