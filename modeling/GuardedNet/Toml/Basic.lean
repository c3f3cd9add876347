import GuardedNet.Dictionary
import GuardedNet.Number.Literal

/-!
# TOML documents

Documents of keys and values as trees, and how their scalars are written.
-/

namespace GuardedNet

/-- A TOML value. -/
inductive Toml where
  | bool (b : Bool)
  | int (n : Int)
  | float (x : Float)
  | str (s : String)
  /-- A date, a time or both; which one does not matter here. -/
  | moment
  | array (items : List Toml)
  | table (entries : List (String × Toml))
deriving Inhabited

namespace Toml

/-! ### Numbers -/

/-- Digits with single underscores between them, without the underscores. -/
def groupedDigits? (isDigit : Char → Bool) : List Char → Option (List Char)
  | [] => none
  | [c] => if isDigit c then some [c] else none
  | c :: '_' :: rest =>
    if isDigit c then (groupedDigits? isDigit rest).map (c :: ·) else none
  | c :: d :: rest =>
    if isDigit c then (groupedDigits? isDigit (d :: rest)).map (c :: ·) else none

/-- Decimal digits without a leading zero, unless it is the only one. -/
def wholeDigits? (cs : List Char) : Option (List Char) :=
  match groupedDigits? Char.isDigit cs with
  | some ('0' :: _ :: _) => none
  | digits => digits

/-- Digits in the given base. -/
def radixInt? (base : Nat) (cs : List Char) : Option Int := do
  let digits ← groupedDigits? (fun c => (Number.digitValue? base c).isSome) cs
  let n ← Number.ofRadix? base digits
  return n

/-- An integer. -/
def int? (cs : List Char) : Option Int :=
  match cs with
  | '0' :: 'x' :: rest => radixInt? 16 rest
  | '0' :: 'o' :: rest => radixInt? 8 rest
  | '0' :: 'b' :: rest => radixInt? 2 rest
  | cs =>
    let (negative, rest) := Number.splitSign cs
    (wholeDigits? rest).map fun digits =>
      if negative then -(Number.ofDigits digits : Int) else Number.ofDigits digits

/-- The mark of an exponent. -/
def isExponentMark (c : Char) : Bool := c == 'e' || c == 'E'

/-- An exponent after its mark. -/
def exponent? (cs : List Char) : Option Int :=
  let (negative, rest) := Number.splitSign cs
  (groupedDigits? Char.isDigit rest).map fun digits =>
    if negative then -(Number.ofDigits digits : Int) else Number.ofDigits digits

/-- The parts of a fraction: digits before the point, digits after it, exponent. At least one
of the last two is there. -/
def fractionParts? (cs : List Char) : Option (List Char × List Char × Int) := do
  let mantissa := cs.takeWhile fun c => !isExponentMark c
  let exponent ← match cs.drop mantissa.length with
    | [] => some none
    | _ :: rest => (exponent? rest).map some
  let whole := mantissa.takeWhile (· != '.')
  let fraction ← match mantissa.drop whole.length with
    | [] => some none
    | _ :: rest => (groupedDigits? Char.isDigit rest).map some
  let digits ← wholeDigits? whole
  if fraction.isNone && exponent.isNone then none
  else some (digits, fraction.getD [], exponent.getD 0)

/-- A number with a fraction, an exponent or both, or one of the special numbers. A number
beyond all doubles is none. -/
def float? (cs : List Char) : Option Float :=
  let (negative, rest) := Number.splitSign cs
  let sign (x : Float) : Float := if negative then -x else x
  if rest == ['i', 'n', 'f'] then some (sign (1.0 / 0.0))
  else if rest == ['n', 'a', 'n'] then some (sign (0.0 / 0.0))
  else do
    let (whole, fraction, exponent) ← fractionParts? rest
    let x := Number.ofDecimal (Number.ofDigits (whole ++ fraction)) (exponent - fraction.length)
    if x.isInf then none else some (sign x)

/-! ### Dates and times -/

/-- A number of exactly so many digits. -/
def fixedDigits? (count : Nat) (cs : List Char) : Option (Nat × List Char) :=
  let digits := cs.take count
  if digits.length = count && digits.all Char.isDigit then
    some (Number.ofDigits digits, cs.drop count)
  else none

/-- The number of days of a month. -/
def daysIn (year month : Nat) : Nat :=
  if month = 2 then
    if year % 4 = 0 && (year % 100 ≠ 0 || year % 400 = 0) then 29 else 28
  else if month = 4 || month = 6 || month = 9 || month = 11 then 30
  else 31

/-- Drops the given character. -/
def dropMark? (mark : Char) : List Char → Option (List Char)
  | c :: cs => if c == mark then some cs else none
  | [] => none

/-- Drops a date. -/
def dropDate? (cs : List Char) : Option (List Char) := do
  let (year, cs) ← fixedDigits? 4 cs
  let cs ← dropMark? '-' cs
  let (month, cs) ← fixedDigits? 2 cs
  let cs ← dropMark? '-' cs
  let (day, cs) ← fixedDigits? 2 cs
  if 1 ≤ month && month ≤ 12 && 1 ≤ day && day ≤ daysIn year month then some cs else none

/-- Drops the fraction of a second, if there is one. -/
def dropFraction? : List Char → Option (List Char)
  | '.' :: cs =>
    let digits := cs.takeWhile Char.isDigit
    if digits.isEmpty then none else some (cs.drop digits.length)
  | cs => some cs

/-- Drops seconds with their fraction, if there are any. -/
def dropSeconds? : List Char → Option (List Char)
  | ':' :: cs => do
    let (second, cs) ← fixedDigits? 2 cs
    if second ≤ 60 then dropFraction? cs else none
  | cs => some cs

/-- Drops a time of day. -/
def dropTime? (cs : List Char) : Option (List Char) := do
  let (hour, cs) ← fixedDigits? 2 cs
  let cs ← dropMark? ':' cs
  let (minute, cs) ← fixedDigits? 2 cs
  if hour ≤ 23 && minute ≤ 59 then dropSeconds? cs else none

/-- Drops the offset of a time zone, if there is one. -/
def dropOffset? : List Char → Option (List Char)
  | [] => some []
  | c :: cs =>
    if c == 'Z' || c == 'z' then some cs
    else if c == '+' || c == '-' then do
      let (hour, cs) ← fixedDigits? 2 cs
      let cs ← dropMark? ':' cs
      let (minute, cs) ← fixedDigits? 2 cs
      if hour ≤ 23 && minute ≤ 59 then some cs else none
    else some (c :: cs)

/-- A date, a time of day, or a date and a time with a letter or a space between them. -/
def isMoment (cs : List Char) : Bool :=
  match dropDate? cs with
  | some [] => true
  | some (mark :: rest) =>
    (mark == 'T' || mark == 't' || mark == ' ')
      && ((dropTime? rest).bind dropOffset?) == some []
  | none => dropTime? cs == some []

/-- The scalar that a run of characters spells, strings apart. -/
def scalar? (cs : List Char) : Option Toml :=
  if cs == ['t', 'r', 'u', 'e'] then some (.bool true)
  else if cs == ['f', 'a', 'l', 's', 'e'] then some (.bool false)
  else
    match int? cs with
    | some n => if -Number.wideLimit ≤ n && n < 2 * Number.wideLimit then some (.int n) else none
    | none =>
      match float? cs with
      | some x => some (.float x)
      | none => if isMoment cs then some .moment else none

end Toml

end GuardedNet
