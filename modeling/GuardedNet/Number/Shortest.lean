import GuardedNet.Number.Double

/-!
# Shortest decimals

The fewest decimal digits that read back as a given double, and of those the nearest to it.

The reals that round to `m * 2 ^ q` form an interval whose ends belong to it exactly when `m`
is even. For one digit, two digits and so on, the two neighbours of the value on that decimal
grid are tested against the interval; the first grid with a hit gives the answer.
-/

namespace GuardedNet.Number

/-- Which of two equally near neighbours counts as the nearest. -/
inductive Tie where
  /-- The greater one. -/
  | up
  /-- The one with an even last digit. -/
  | even
deriving DecidableEq, Repr

/-- The decimal `digits * 10 ^ exponent`. -/
structure Decimal where
  digits : Nat
  exponent : Int
deriving DecidableEq, Repr

/-- The interval of reals that round to a double, in quarters of its last place. -/
structure RoundingInterval where
  low : Nat
  high : Nat
  closed : Bool

/-- The rounding interval of a magnitude; below a power of two the gap is half as wide. -/
def Dyadic.interval (d : Dyadic) : RoundingInterval :=
  let low := if d.mantissa = Nat.pow 2 52 && d.exponent > -1074 then 4 * d.mantissa - 1
    else 4 * d.mantissa - 2
  ⟨low, 4 * d.mantissa + 2, d.mantissa % 2 == 0⟩

/-- A fraction times a power of ten, as numerator and denominator. -/
def scaleDecimal (num den : Nat) (shift : Int) : Nat × Nat :=
  if shift ≥ 0 then (num * Nat.pow 10 shift.toNat, den)
  else (num, den * Nat.pow 10 (-shift).toNat)

/-- The number `k` for which `10 ^ (k - 1) ≤ num / den < 10 ^ k`. -/
def decimalSize (num den : Nat) : Int :=
  let estimate : Int := (((Nat.log2 num : Int) - Nat.log2 den - 1) * 30103).fdiv 100000
  let candidates := (List.range 8).map fun (step : Nat) => estimate - 1 + step
  let below (k : Int) : Bool :=
    let (n, d) := scaleDecimal num den (-k)
    n < d
  (candidates.find? below).getD estimate

/-- Whether `digits * 10 ^ exponent` lies in the rounding interval of `d`. -/
def Dyadic.admits (d : Dyadic) (digits : Nat) (exponent : Int) : Bool :=
  let (unitNum, unitDen) := scaleRatio 1 4 d.exponent
  let (num, den) := scaleDecimal digits 1 exponent
  let i := d.interval
  let left := num * unitDen
  if i.closed then i.low * unitNum * den ≤ left && left ≤ i.high * unitNum * den
  else i.low * unitNum * den < left && left < i.high * unitNum * den

/-- The decimal without trailing zeros in its digits; `fuel` bounds their number. -/
def stripZeros : Nat → Decimal → Decimal
  | 0, d => d
  | fuel + 1, d =>
    if d.digits % 10 == 0 && d.digits != 0 then stripZeros fuel ⟨d.digits / 10, d.exponent + 1⟩
    else d

/-- The neighbour of `n / e` on the grid of integers that is nearest to it. -/
def Tie.nearest (tie : Tie) (n e : Nat) : Nat :=
  let down := n / e
  let twice := 2 * (n % e)
  if twice < e || (twice == e && tie == .even && down % 2 == 0) then down else down + 1

/-- The nearest admissible decimal with `count` digits, if there is one. -/
def Dyadic.withDigits? (d : Dyadic) (tie : Tie) (size : Int) (count : Nat) : Option Decimal :=
  let (num, den) := d.ratio
  let exponent := size - count
  let (n, e) := scaleDecimal num den (-exponent)
  let down := n / e
  let up := down + 1
  match d.admits down exponent, d.admits up exponent with
  | true, true => some ⟨tie.nearest n e, exponent⟩
  | true, false => some ⟨down, exponent⟩
  | false, true => some ⟨up, exponent⟩
  | false, false => none

/-- The shortest decimal of a non-zero magnitude. Seventeen digits always suffice. -/
def Dyadic.shortest (d : Dyadic) (tie : Tie) : Decimal :=
  let (num, den) := d.ratio
  let size := decimalSize num den
  let found := (List.range 17).findSome? fun count => d.withDigits? tie size (count + 1)
  stripZeros 20 (found.getD ⟨0, 0⟩)

end GuardedNet.Number
