/-!
# Bounded integers

Token counts and expression results are integers of 64 bits with a sign. They are kept as
exact integers; an operation either refuses a result outside the bounds (`fit?`) or takes
the nearer bound instead (`clamp`).
-/

namespace GuardedNet.Number

/-- The least bounded integer. -/
def least : Int := -9223372036854775808

/-- The greatest bounded integer. -/
def greatest : Int := 9223372036854775807

/-- The least integer beyond the sizes. -/
def sizeLimit : Nat := 18446744073709551616

/-- The least integer beyond those of 128 bits with a sign. -/
def wideLimit : Int := 170141183460469231731687303715884105728

/-- The integer lies within the bounds. -/
abbrev Fits (n : Int) : Prop := least ≤ n ∧ n ≤ greatest

/-- The integer itself when it lies within the bounds. -/
def fit? (n : Int) : Option Int := if Fits n then some n else none

theorem fit?_eq_some_iff {n m : Int} : fit? n = some m ↔ Fits n ∧ m = n := by
  simp [fit?, eq_comm]

theorem fits_of_natAbs_le {n : Int} (small : (n.natAbs : Int) ≤ greatest) : Fits n := by
  unfold Fits least greatest at *
  omega

/-- The bounded integer nearest to `n`. -/
def clamp (n : Int) : Int := max least (min greatest n)

/-- The integer nearest to `n` among those of 128 bits with a sign, in which weighted sums are
added up. -/
def clampWide (n : Int) : Int := max (-wideLimit) (min (wideLimit - 1) n)

/-- The sum of counts. -/
def total (counts : List Nat) : Nat := counts.foldr (· + ·) 0

theorem total_pos_iff {counts : List Nat} : 0 < total counts ↔ ∃ n ∈ counts, 0 < n := by
  induction counts with
  | nil => simp [total]
  | cons n counts ih =>
    have parts : 0 < total (n :: counts) ↔ 0 < n ∨ 0 < total counts := by
      simp only [total, List.foldr_cons]
      omega
    simp [parts, ih]

/-- The value of a run of decimal digits. -/
def ofDigits (cs : List Char) : Nat :=
  cs.foldl (fun acc c => acc * 10 + (c.toNat - '0'.toNat)) 0

/-- A non-empty run of decimal digits and nothing else. -/
def isDigits (cs : List Char) : Bool := !cs.isEmpty && cs.all Char.isDigit

/-- Reads digits with at most one sign in front, if the number lies within the bounds. -/
def readInt? : List Char → Option Int
  | '-' :: cs => if isDigits cs then fit? (-(ofDigits cs : Int)) else none
  | '+' :: cs => if isDigits cs then fit? (ofDigits cs) else none
  | cs => if isDigits cs then fit? (ofDigits cs) else none

/-- Reads a size: digits, possibly after a plus sign, below the size limit. -/
def readSize? (cs : List Char) : Option Nat :=
  let digits := match cs with
    | '+' :: rest => rest
    | _ => cs
  if isDigits digits && ofDigits digits < sizeLimit then some (ofDigits digits) else none

/-- An integer in decimal, a minus sign in front of a negative one. -/
def intChars : Int → List Char
  | .ofNat n => Nat.toDigits 10 n
  | .negSucc n => '-' :: Nat.toDigits 10 (n + 1)

/-- A natural number in decimal. -/
def natText (n : Nat) : String := String.ofList (Nat.toDigits 10 n)

/-- An integer in decimal. -/
def intText (n : Int) : String := String.ofList (intChars n)

end GuardedNet.Number
