import GuardedNet.Number.Literal

/-!
# Numbers of RON

What the text of a number stands for, as an integer and as a double, and which of the two it
is where either may stand. The type of a number may be written after it.
-/

namespace GuardedNet.Ron

/-! ### Integers -/

/-- A digit in base sixteen or an underscore. -/
def isIntegerPart (c : Char) : Bool := (Number.digitValue? 16 c).isSome || c == '_'

/-- The digits of a number without the underscores between them. -/
def withoutUnderscores (cs : List Char) : Option (List Char) :=
  if cs.head? == some '_' then none else some (cs.filter (· != '_'))

/-- An integer and the type written after it, empty if none is. -/
structure TypedInteger where
  value : Int
  type : List Char

/-- The integer that a number is written as. A type may only follow digits in base ten or
two. -/
def integerOf? (text : String) : Option TypedInteger := do
  let (negative, cs) := Number.splitSign text.toList
  let (base, cs) := match cs with
    | '0' :: 'x' :: cs => (16, cs)
    | '0' :: 'b' :: cs => (2, cs)
    | '0' :: 'o' :: cs => (8, cs)
    | cs => (10, cs)
  let digits := cs.takeWhile isIntegerPart
  let type := cs.drop digits.length
  let n ← Number.ofRadix? base (← withoutUnderscores digits)
  if !type.isEmpty && (base == 16 || base == 8) then none
  else some ⟨if negative then -(n : Int) else n, type⟩

/-- The widths in bits of the types of integers. -/
def integerWidths : List (List Char × Nat) :=
  [(['8'], 8), (['1', '6'], 16), (['3', '2'], 32), (['6', '4'], 64)]

/-- Whether an integer has its type; without one it is a bounded integer or a size. -/
def TypedInteger.isSound (n : TypedInteger) : Bool :=
  match n.type with
  | [] => Number.least ≤ n.value && n.value < Number.sizeLimit
  | 'i' :: width =>
    match integerWidths.lookup width with
    | some bits => -(Nat.pow 2 (bits - 1) : Int) ≤ n.value && n.value < Nat.pow 2 (bits - 1)
    | none => false
  | 'u' :: width =>
    match integerWidths.lookup width with
    | some bits => 0 ≤ n.value && n.value < Nat.pow 2 bits
    | none => false
  | _ => false

/-- The bounded integer that a number is written as, where only such an integer may stand. -/
def boundedOf? (text : String) : Option Int := do
  let n ← integerOf? text
  if n.type == [] || n.type == ['i', '6', '4'] then Number.fit? n.value else none

/-! ### Doubles -/

/-- Whether every underscore comes after a digit or the mark of an exponent, with no point
between them. -/
def underscoresAllowed (allowed : Bool) : List Char → Bool
  | [] => true
  | '_' :: cs => allowed && underscoresAllowed allowed cs
  | '.' :: cs => underscoresAllowed false cs
  | c :: cs => underscoresAllowed (allowed || c.isDigit || c == 'e' || c == 'E') cs

/-- The digits of a double and the type written after them. -/
def splitDoubleType (cs : List Char) : List Char × List Char :=
  let type := cs.drop (cs.length - 3)
  if type == ['f', '3', '2'] || type == ['f', '6', '4'] then (cs.take (cs.length - 3), type)
  else (cs, [])

/-- The double that characters without a type spell. -/
def untypedDouble? (cs : List Char) : Option Float :=
  let (negative, body) := Number.splitSign cs
  if body == ['i', 'n', 'f'] then some (if negative then -(1.0 / 0.0) else 1.0 / 0.0)
  else if body == ['N', 'a', 'N'] then some (0.0 / 0.0)
  else if underscoresAllowed false cs then Number.readDouble? (cs.filter (· != '_'))
  else none

/-- The double that a number is written as, where only a double may stand. -/
def doubleOf? (text : String) : Option Float :=
  let (cs, type) := splitDoubleType text.toList
  if type == ['f', '3', '2'] then none else untypedDouble? cs

/-- Whether a number is written as a double of either type. -/
def isDouble (text : String) : Bool :=
  (untypedDouble? (splitDoubleType text.toList).1).isSome

/-- Whether a number is written as the one that is no number, with a minus sign. -/
def isNegatedNaN (text : String) : Bool :=
  (splitDoubleType text.toList).1 == ['-', 'N', 'a', 'N']

/-! ### Numbers of either kind -/

/-- Whether a number is taken for a double at once: the characters of one go on for longer
than those of an integer. -/
def looksDouble (text : String) : Bool :=
  let body := (Number.splitSign text.toList).2
  let asDouble := body.takeWhile fun c =>
    c.isDigit || c == 'e' || c == 'E' || c == '.' || c == '+' || c == '-' || c == '_'
  (body.takeWhile isIntegerPart).length < asDouble.length

/-- The integer that a number stands for where any number may stand. -/
def anyInteger? (text : String) : Option Int :=
  if looksDouble text then none
  else
    match integerOf? text with
    | some n => if n.isSound then some n.value else none
    | none => none

/-- Whether a number can be read where any number may stand. -/
def isAnyNumber (text : String) : Bool := (anyInteger? text).isSome || isDouble text

end GuardedNet.Ron
