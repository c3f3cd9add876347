import GuardedNet.Number.Bounds
import GuardedNet.Number.Double

/-!
# Number literals

Digits in several bases, and decimal fractions with an exponent, as document formats share
them.
-/

namespace GuardedNet.Number

/-- The value of a digit in the given base. -/
def digitValue? (base : Nat) (c : Char) : Option Nat :=
  let value :=
    if c.isDigit then c.toNat - '0'.toNat
    else if 'a' ≤ c ∧ c ≤ 'f' then c.toNat - 'a'.toNat + 10
    else if 'A' ≤ c ∧ c ≤ 'F' then c.toNat - 'A'.toNat + 10
    else 16
  if value < base then some value else none

/-- The value of a non-empty run of digits in the given base. -/
def ofRadix? (base : Nat) (cs : List Char) : Option Nat :=
  match cs with
  | [] => none
  | cs => cs.foldlM (fun acc c => (digitValue? base c).map fun digit => acc * base + digit) 0

/-- Splits a sign off. -/
def splitSign : List Char → Bool × List Char
  | '-' :: cs => (true, cs)
  | '+' :: cs => (false, cs)
  | cs => (false, cs)

/-- The exponent after the mark `e`, zero when there is none. -/
def readExponent? : List Char → Option Int
  | [] => some 0
  | c :: cs =>
    if c == 'e' || c == 'E' then
      let (negative, digits) := splitSign cs
      if isDigits digits then
        some (if negative then -(ofDigits digits : Int) else ofDigits digits)
      else none
    else none

/-- A decimal number with an optional sign, fraction and exponent, as the nearest double. At
least one digit stands before the exponent, on either side of the point. -/
def readDouble? (cs : List Char) : Option Float := do
  let (negative, cs) := splitSign cs
  let whole := cs.takeWhile Char.isDigit
  let rest := cs.drop whole.length
  let (fraction, rest) := match rest with
    | '.' :: rest =>
      let digits := rest.takeWhile Char.isDigit
      (digits, rest.drop digits.length)
    | rest => ([], rest)
  if whole.isEmpty && fraction.isEmpty then none
  else
    let exponent ← readExponent? rest
    let x := ofDecimal (ofDigits (whole ++ fraction)) (exponent - fraction.length)
    return if negative then -x else x

end GuardedNet.Number
