import GuardedNet.Json.Basic

/-!
# Reading JSON

The reader follows the grammar of JSON: no comments, no trailing commas, no leading zeros. A
bound on the calls, set from the length of the text, makes it total.
-/

namespace GuardedNet.Json

/-- The rest of a text, after what has been read. -/
abbrev Rest := List Char

/-- A character between tokens. -/
def isSpace (c : Char) : Bool := c == ' ' || c == '\n' || c == '\r' || c == '\t'

/-- The text after the spaces at its front. -/
def skipSpace (cs : Rest) : Rest := cs.dropWhile isSpace

/-- The value of a digit in base sixteen. -/
def hexValue? (c : Char) : Option Nat :=
  if c.isDigit then some (c.toNat - '0'.toNat)
  else if 'a' ≤ c && c ≤ 'f' then some (c.toNat - 'a'.toNat + 10)
  else if 'A' ≤ c && c ≤ 'F' then some (c.toNat - 'A'.toNat + 10)
  else none

/-- A unit of text: a code unit of two bytes, written as an escape, or a character. -/
inductive Unit16 where
  | char (c : Char)
  | unit (n : Nat)

/-- The units of a string after its opening mark, and the text after its closing one. -/
def readUnits : Rest → Option (List Unit16 × Rest)
  | [] => none
  | '"' :: cs => some ([], cs)
  | '\\' :: 'u' :: a :: b :: c :: d :: cs => do
    let n := (((← hexValue? a) * 16 + (← hexValue? b)) * 16 + (← hexValue? c)) * 16
      + (← hexValue? d)
    let (units, rest) ← readUnits cs
    return (.unit n :: units, rest)
  | '\\' :: c :: cs => do
    let plain ← match c with
      | '"' => some '"'
      | '\\' => some '\\'
      | '/' => some '/'
      | 'b' => some (Char.ofNat 8)
      | 'f' => some (Char.ofNat 12)
      | 'n' => some '\n'
      | 'r' => some '\r'
      | 't' => some '\t'
      | _ => none
    let (units, rest) ← readUnits cs
    return (.char plain :: units, rest)
  | c :: cs =>
    if c.toNat < 32 || c == '\\' then none
    else do
      let (units, rest) ← readUnits cs
      return (.char c :: units, rest)

/-- The characters of units; two halves of a surrogate pair make one character, and a half
alone makes none. -/
def charsOfUnits : List Unit16 → Option (List Char)
  | [] => some []
  | .char c :: rest => (charsOfUnits rest).map (c :: ·)
  | .unit high :: .unit low :: rest =>
    if 0xD800 ≤ high && high < 0xDC00 then
      if 0xDC00 ≤ low && low < 0xE000 then
        (charsOfUnits rest).map
          (Char.ofNat (0x10000 + (high - 0xD800) * 0x400 + (low - 0xDC00)) :: ·)
      else none
    else if 0xDC00 ≤ high && high < 0xE000 then none
    else (charsOfUnits (.unit low :: rest)).map (Char.ofNat high :: ·)
  | .unit n :: rest =>
    if 0xD800 ≤ n && n < 0xE000 then none
    else (charsOfUnits rest).map (Char.ofNat n :: ·)

/-- A string after its opening mark; the inner option is empty if it has no value. -/
def readString (cs : Rest) : Option (Option String × Rest) := do
  let (units, rest) ← readUnits cs
  return ((charsOfUnits units).map String.ofList, rest)

/-- An optional exponent. -/
def readExponent (cs : Rest) : Option (Option Int × Rest) :=
  match cs with
  | c :: rest =>
    if c == 'e' || c == 'E' then
      let (negative, rest) := match rest with
        | '-' :: rest => (true, rest)
        | '+' :: rest => (false, rest)
        | rest => (false, rest)
      let digits := rest.takeWhile Char.isDigit
      if digits.isEmpty then none
      else
        let n : Int := Number.ofDigits digits
        some (some (if negative then -n else n), rest.drop digits.length)
    else some (none, cs)
  | [] => some (none, [])

/-- Optional digits after a point. -/
def readFraction (cs : Rest) : Option (Option (List Char) × Rest) :=
  match cs with
  | '.' :: rest =>
    let digits := rest.takeWhile Char.isDigit
    if digits.isEmpty then none else some (some digits, rest.drop digits.length)
  | cs => some (none, cs)

/-- Appends digits to a size as long as the result is one; the size, and the digits from the
first that does not fit. -/
def leadingDigits (n : Nat) : List Char → Nat × List Char
  | [] => (n, [])
  | c :: cs =>
    let next := n * 10 + (c.toNat - '0'.toNat)
    if next < Number.sizeLimit then leadingDigits next cs else (n, c :: cs)

/-- The greatest exponent of a power of ten that is a double. -/
def maxPower : Nat := 308

/-- The double nearest to a power of ten. -/
def power (exponent : Nat) : Float := Number.ofDecimal 1 exponent

/-- A double divided by a power of ten, in steps of at most `10 ^ 308`, each of them rounded. -/
def divideByPower (x : Float) (exponent : Nat) : Float :=
  if exponent ≤ maxPower then x / power exponent
  else if x == 0.0 then x
  else divideByPower (x / power maxPower) (exponent - maxPower)
termination_by exponent
decreasing_by simp only [maxPower] at *; omega

/-- The double of `digits * 10 ^ exponent`, rounded once for the digits and once for the
product; none if that is infinite. -/
def scaled? (digits : Nat) (exponent : Int) : Option Float :=
  let x := Number.ofInt digits
  if exponent < 0 then some (divideByPower x (-exponent).toNat)
  else if x == 0.0 then some x
  else if exponent ≤ maxPower then
    let y := x * power exponent.toNat
    if y.isInf then none else some y
  else none

/-- The value of a number: an integer if it is written as one and is not the negative zero and
fits a size or a bounded integer, else a double. Of the digits only those in front that make
up a size count. -/
def numeral (negative : Bool) (whole : List Char) (fraction : Option (List Char))
    (exponent : Option Int) : Json :=
  let (n, unread) := leadingDigits 0 whole
  let isInt := fraction.isNone && exponent.isNone && unread.isEmpty &&
    (!negative || (n != 0 && (Number.fit? (-(n : Int))).isSome))
  if isInt then .int (if negative then -(n : Int) else n)
  else
    let places := fraction.getD []
    let (n, beyond) := leadingDigits n places
    let scale := exponent.getD 0 + unread.length - (places.length - beyond.length : Nat)
    match scaled? n scale with
    | some x => .float (if negative then -x else x)
    | none => .unreadable

/-- A number. -/
def readNumber (cs : Rest) : Option (Json × Rest) := do
  let (negative, rest) := match cs with
    | '-' :: rest => (true, rest)
    | cs => (false, cs)
  let whole := rest.takeWhile Char.isDigit
  let rest := rest.drop whole.length
  match whole with
  | [] => none
  | '0' :: _ :: _ => none
  | whole =>
    let (fraction, rest) ← readFraction rest
    let (exponent, rest) ← readExponent rest
    return (numeral negative whole fraction exponent, rest)

/-- An object, unless one of its keys has no value. -/
def ofEntries (entries : List (Option String × Json)) : Json :=
  match entries.mapM fun entry => entry.1.map fun key => (key, entry.2) with
  | some entries => .object entries
  | none => .unreadable

mutual

/-- A value with spaces in front. -/
def readValue (bound : Nat) (cs : Rest) : Option (Json × Rest) :=
  match bound with
  | 0 => none
  | bound + 1 =>
    match skipSpace cs with
    | 'n' :: 'u' :: 'l' :: 'l' :: rest => some (.null, rest)
    | 't' :: 'r' :: 'u' :: 'e' :: rest => some (.bool true, rest)
    | 'f' :: 'a' :: 'l' :: 's' :: 'e' :: rest => some (.bool false, rest)
    | '"' :: rest => do
      let (s, rest) ← readString rest
      return (match s with
        | some s => .str s
        | none => .unreadable, rest)
    | '[' :: rest =>
      match skipSpace rest with
      | ']' :: rest => some (.array [], rest)
      | _ => do
        let (items, rest) ← readItems bound rest
        return (.array items, rest)
    | '{' :: rest =>
      match skipSpace rest with
      | '}' :: rest => some (.object [], rest)
      | _ => do
        let (entries, rest) ← readEntries bound rest
        return (ofEntries entries, rest)
    | cs => readNumber cs

/-- The items of an array, of which there is at least one, and its closing bracket. -/
def readItems (bound : Nat) (cs : Rest) : Option (List Json × Rest) :=
  match bound with
  | 0 => none
  | bound + 1 => do
    let (item, rest) ← readValue bound cs
    match skipSpace rest with
    | ',' :: rest => do
      let (items, rest) ← readItems bound rest
      return (item :: items, rest)
    | ']' :: rest => return ([item], rest)
    | _ => none

/-- The entries of an object, of which there is at least one, and its closing brace. -/
def readEntries (bound : Nat) (cs : Rest) : Option (List (Option String × Json) × Rest) :=
  match bound with
  | 0 => none
  | bound + 1 =>
    match skipSpace cs with
    | '"' :: rest => do
      let (key, rest) ← readString rest
      match skipSpace rest with
      | ':' :: rest => do
        let (value, rest) ← readValue bound rest
        match skipSpace rest with
        | ',' :: rest => do
          let (entries, rest) ← readEntries bound rest
          return ((key, value) :: entries, rest)
        | '}' :: rest => return ([(key, value)], rest)
        | _ => none
      | _ => none
    | _ => none

end

/-- The document that a text spells, if it spells one and nothing more. -/
def parse? (text : String) : Option Json := do
  let cs := text.toList
  let (j, rest) ← readValue (2 * cs.length + 2) cs
  if (skipSpace rest).isEmpty then some j else none

end GuardedNet.Json
