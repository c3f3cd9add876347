import GuardedNet.Number.Bounds
import GuardedNet.Number.Shortest

/-!
# Texts of doubles

One selection of digits, laid out by a `FloatStyle`, and the text with a fixed number of
places.
-/

namespace GuardedNet.Number

/-- How the digits of a double are laid out. -/
structure FloatStyle where
  /-- Least and greatest position of the decimal point, counted from the first digit, for
  which no exponent is written; `none` for no exponent at all. -/
  positional : Option (Int × Int)
  /-- Whether an integer keeps a decimal point and one zero. -/
  keepsPoint : Bool
  /-- Whether a positive exponent has a sign. -/
  signsExponent : Bool
  /-- Which of two equally near shortest decimals is written. -/
  tie : Tie

/-- The text of an infinity or of a value that is not a number. -/
def specialText (x : Float) : String :=
  if x.isNaN then "NaN" else if x < 0.0 then "-inf" else "inf"

/-- The sign in front of a double. -/
def signText (x : Float) : String := if isNegative x then "-" else ""

/-- Digits around a decimal point that stands `point` places after the first of them. -/
def positionalText (keepsPoint : Bool) (digits : List Char) (point : Int) : String :=
  if point ≤ 0 then
    String.ofList (['0', '.'] ++ List.replicate (-point).toNat '0' ++ digits)
  else if digits.length ≤ point.toNat then
    String.ofList (digits ++ List.replicate (point.toNat - digits.length) '0')
      ++ (if keepsPoint then ".0" else "")
  else
    String.ofList (digits.take point.toNat ++ '.' :: digits.drop point.toNat)

/-- Digits with the point after the first of them and an exponent. -/
def exponentText (signsExponent : Bool) (digits : List Char) (exponent : Int) : String :=
  let mantissa := match digits with
    | first :: rest@(_ :: _) => first :: '.' :: rest
    | digits => digits
  String.ofList mantissa ++ "e" ++ (if signsExponent && exponent ≥ 0 then "+" else "")
    ++ intText exponent

/-- A finite double in the given style. -/
def FloatStyle.finiteText (style : FloatStyle) (x : Float) : String :=
  if x == 0.0 then signText x ++ (if style.keepsPoint then "0.0" else "0")
  else
    let decimal := (magnitude x).shortest style.tie
    let digits := Nat.toDigits 10 decimal.digits
    let point := (digits.length : Int) + decimal.exponent
    let inRange := match style.positional with
      | some (low, high) => low ≤ point && point ≤ high
      | none => true
    signText x ++ (if inRange then positionalText style.keepsPoint digits point
      else exponentText style.signsExponent digits (point - 1))

/-- A double in the given style. -/
def FloatStyle.text (style : FloatStyle) (x : Float) : String :=
  if x.isFinite then style.finiteText x else specialText x

/-- The style of messages: no exponent, and integers without a point. -/
def plainStyle : FloatStyle := ⟨none, false, false, .up⟩

/-- The style of settings in the journal: a point always, and exponents from `10 ^ 16` on and
below `10 ^ -4`. -/
def detailedStyle : FloatStyle := ⟨some (-3, 16), true, false, .up⟩

/-- A double with `places` digits after the point, rounded from its exact value with ties to
the even digit. -/
def fixedText (places : Nat) (x : Float) : String :=
  if !x.isFinite then specialText x
  else
    let (num, den) := (magnitude x).ratio
    let scaled := roundQuotient (num * Nat.pow 10 places) den
    let digits := Nat.toDigits 10 scaled
    let padded := List.replicate (places + 1 - digits.length) '0' ++ digits
    let whole := padded.length - places
    signText x ++ String.ofList (padded.take whole ++ '.' :: padded.drop whole)

/-- The sixteen digits in base sixteen of a double's bits. -/
def bitsText (x : Float) : String :=
  let digits := Nat.toDigits 16 x.toBits.toNat
  String.ofList (List.replicate (16 - digits.length) '0' ++ digits)

end GuardedNet.Number
