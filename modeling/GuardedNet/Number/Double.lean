/-!
# Double-precision numbers as exact fractions

A finite double is `m * 2 ^ q` for a natural number `m` below `2 ^ 53`. Decimals are read by
rounding an exact fraction to the nearest double, a tie going to the even one.
-/

namespace GuardedNet.Number

/-- The exact magnitude `mantissa * 2 ^ exponent` of a finite double. -/
structure Dyadic where
  mantissa : Nat
  exponent : Int

/-- Whether the sign bit of a double is set. -/
def isNegative (x : Float) : Bool := x.toBits.toNat ≥ Nat.pow 2 63

/-- The exact magnitude of a finite double. -/
def magnitude (x : Float) : Dyadic :=
  let bits := x.toBits.toNat % Nat.pow 2 63
  let field : Nat := bits / Nat.pow 2 52
  let fraction : Nat := bits % Nat.pow 2 52
  if field = 0 then ⟨fraction, -1074⟩ else ⟨fraction + Nat.pow 2 52, (field : Int) - 1075⟩

/-- Numerator and denominator of a magnitude. -/
def Dyadic.ratio (d : Dyadic) : Nat × Nat :=
  if d.exponent ≥ 0 then (d.mantissa * Nat.pow 2 d.exponent.toNat, 1)
  else (d.mantissa, Nat.pow 2 (-d.exponent).toNat)

/-- The quotient of two naturals, rounded to the nearest; a tie goes to the even one. -/
def roundQuotient (num den : Nat) : Nat :=
  let q := num / den
  let r := num % den
  if 2 * r > den || (2 * r == den && q % 2 == 1) then q + 1 else q

/-- A fraction times a power of two, as numerator and denominator. -/
def scaleRatio (num den : Nat) (shift : Int) : Nat × Nat :=
  if shift ≥ 0 then (num * Nat.pow 2 shift.toNat, den) else (num, den * Nat.pow 2 (-shift).toNat)

/-- The double nearest to a fraction, infinite when the fraction is too large. -/
def ofRatio (num den : Nat) : Float :=
  if num = 0 || den = 0 then 0.0
  else
    let estimate : Int := (Nat.log2 num : Int) - Nat.log2 den - 53
    let (n, d) := scaleRatio num den (-estimate)
    let exponent := max (-1074) (if n / d ≥ Nat.pow 2 53 then estimate + 1 else estimate)
    let (n, d) := scaleRatio num den (-exponent)
    let mantissa := roundQuotient n d
    let bits :=
      if mantissa < Nat.pow 2 52 then mantissa
      else (exponent + 1075).toNat * Nat.pow 2 52 + (mantissa - Nat.pow 2 52)
    Float.ofBits (UInt64.ofNat (min bits 0x7FF0000000000000))

/-- The double nearest to `digits * 10 ^ exponent`. -/
def ofDecimal (digits : Nat) (exponent : Int) : Float :=
  let size : Int := (Nat.toDigits 10 digits).length + exponent
  if digits = 0 || size < -400 then 0.0
  else if size > 400 then Float.ofBits 0x7FF0000000000000
  else if exponent ≥ 0 then ofRatio (digits * Nat.pow 10 exponent.toNat) 1
  else ofRatio digits (Nat.pow 10 (-exponent).toNat)

/-- The double nearest to an integer. -/
def ofInt : Int → Float
  | .ofNat n => ofRatio n 1
  | .negSucc n => -ofRatio (n + 1) 1

/-- The lesser of two doubles; a value that is not a number gives way to the other. -/
def lesser (x y : Float) : Float :=
  if x.isNaN then y else if y.isNaN then x else if y < x then y else x

/-- The greater of two doubles; a value that is not a number gives way to the other. -/
def greater (x y : Float) : Float :=
  if x.isNaN then y else if y.isNaN then x else if x < y then y else x

/-- The sum of doubles from left to right. The sum of none is the negative zero, which
added to any number gives that number. -/
def sum (xs : List Float) : Float := xs.foldl (· + ·) (-0.0)

/-- The place of a double in the total order of all bit patterns. -/
def totalRank (x : Float) : Int :=
  let bits := x.toBits.toNat
  if bits ≥ Nat.pow 2 63 then -((bits - Nat.pow 2 63 : Nat) : Int) - 1 else bits

end GuardedNet.Number
