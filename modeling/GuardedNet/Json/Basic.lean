import GuardedNet.Dictionary
import GuardedNet.Number.FloatText

/-!
# JSON documents

Documents as trees, and the two ways they are written: on one line, or with one item a line.
-/

namespace GuardedNet

/-- A JSON document. An object keeps its entries in the order of the text. -/
inductive Json where
  | null
  | bool (b : Bool)
  | int (n : Int)
  | float (x : Float)
  | str (s : String)
  | array (items : List Json)
  | object (entries : List (String × Json))
  /-- Well-formed text without a value, such as a string with half of a surrogate pair or a
  number beyond all doubles. It can be skipped, but not used. -/
  | unreadable
deriving Inhabited

namespace Json

/-- Numbers keep a decimal point, and have an exponent from `10 ^ 16` on and below
`10 ^ -5`. Of two equally near decimals the one with an even last digit is written. -/
def floatStyle : Number.FloatStyle := ⟨some (-4, 16), true, true, .even⟩

/-- A number; infinities and what is not a number have none. -/
def floatText (x : Float) : String := if x.isFinite then floatStyle.finiteText x else "null"

/-- One character of a string. -/
def escapeChar (c : Char) : List Char :=
  if c == '"' then ['\\', '"']
  else if c == '\\' then ['\\', '\\']
  else if c == '\n' then ['\\', 'n']
  else if c == '\r' then ['\\', 'r']
  else if c == '\t' then ['\\', 't']
  else if c.toNat == 8 then ['\\', 'b']
  else if c.toNat == 12 then ['\\', 'f']
  else if c.toNat < 32 then
    let digits := Nat.toDigits 16 c.toNat
    ['\\', 'u'] ++ List.replicate (4 - digits.length) '0' ++ digits
  else [c]

/-- A string in quotation marks. -/
def quoted (s : String) : String :=
  String.ofList ('"' :: (s.toList.flatMap escapeChar ++ ['"']))

mutual

/-- The document on one line, without spaces. -/
def compact : Json → String
  | .null | .unreadable => "null"
  | .bool true => "true"
  | .bool false => "false"
  | .int n => Number.intText n
  | .float x => floatText x
  | .str s => quoted s
  | .array items => "[" ++ String.intercalate "," (compactItems items) ++ "]"
  | .object entries => "\x7b" ++ String.intercalate "," (compactEntries entries) ++ "\x7d"

/-- Each item on one line. -/
def compactItems : List Json → List String
  | [] => []
  | j :: js => j.compact :: compactItems js

/-- Each entry on one line. -/
def compactEntries : List (String × Json) → List String
  | [] => []
  | (k, j) :: rest => (quoted k ++ ":" ++ j.compact) :: compactEntries rest

end

/-- Items between brackets, each on a line of its own; brackets alone without items. -/
def block (opening closing indent : String) (items : List String) : String :=
  match items with
  | [] => opening ++ closing
  | items =>
    opening ++ "\n"
      ++ String.intercalate ",\n" (items.map fun item => indent ++ "  " ++ item)
      ++ "\n" ++ indent ++ closing

mutual

/-- The document with one item a line, two spaces further in at each level. -/
def prettyAt (indent : String) : Json → String
  | .array items => block "[" "]" indent (prettyItems (indent ++ "  ") items)
  | .object entries => block "\x7b" "\x7d" indent (prettyEntries (indent ++ "  ") entries)
  | .null | .unreadable => "null"
  | .bool true => "true"
  | .bool false => "false"
  | .int n => Number.intText n
  | .float x => floatText x
  | .str s => quoted s

/-- Each item at its level. -/
def prettyItems (indent : String) : List Json → List String
  | [] => []
  | j :: js => j.prettyAt indent :: prettyItems indent js

/-- Each entry at its level. -/
def prettyEntries (indent : String) : List (String × Json) → List String
  | [] => []
  | (k, j) :: rest => (quoted k ++ ": " ++ j.prettyAt indent) :: prettyEntries indent rest

end

/-- The document with one item a line. -/
def pretty (j : Json) : String := j.prettyAt ""

mutual

/-- How deep arrays and objects are nested. -/
def nesting : Json → Nat
  | .array items => nestingItems items + 1
  | .object entries => nestingEntries entries + 1
  | _ => 0

/-- The deepest nesting among the items. -/
def nestingItems : List Json → Nat
  | [] => 0
  | j :: js => max j.nesting (nestingItems js)

/-- The deepest nesting among the entries. -/
def nestingEntries : List (String × Json) → Nat
  | [] => 0
  | (_, j) :: rest => max j.nesting (nestingEntries rest)

end

/-! ### Building documents -/

/-- A natural number. -/
def ofNat (n : Nat) : Json := .int n

/-- An array of strings. -/
def ofTexts (texts : List String) : Json := .array (texts.map .str)

/-- An optional part, `null` when absent. -/
def ofOption {α : Type} (encode : α → Json) : Option α → Json
  | some a => encode a
  | none => .null

/-! ### Looking into documents -/

/-- The deepest nesting that readers accept. -/
def maxNesting : Nat := 127

/-- A truth value. -/
def bool? : Json → Option Bool
  | .bool b => some b
  | _ => none

/-- A bounded integer. -/
def int? : Json → Option Int
  | .int n => Number.fit? n
  | _ => none

/-- A size. -/
def size? : Json → Option Nat
  | .int n => if 0 ≤ n then some n.toNat else none
  | _ => none

/-- A number of either kind, as a double. -/
def float? : Json → Option Float
  | .int n => some (Number.ofInt n)
  | .float x => some x
  | _ => none

/-- A string. -/
def text? : Json → Option String
  | .str s => some s
  | _ => none

/-- An array of parts that all decode. -/
def list? {α : Type} (decode : Json → Option α) : Json → Option (List α)
  | .array items => items.mapM decode
  | _ => none

/-- A part that may be `null`. -/
def optional? {α : Type} (decode : Json → Option α) : Json → Option (Option α)
  | .null => some none
  | j => (decode j).map some

/-- An object whose values all decode; of two entries with one key the later counts. -/
def dictionary? {α : Type} (decode : Json → Option α) : Json → Option (Dictionary α)
  | .object entries => do
    let pairs ← entries.mapM fun entry => do
      let value ← decode entry.2
      return (entry.1, value)
    return Dictionary.ofPairs pairs
  | _ => none

/-- The fields of a record, in the order of `names`. A record is an object, in which no known
field may stand twice and unknown ones are skipped, or an array of the fields in order, the
last of which may be left out. -/
def record? (names : List String) : Json → Option (List (Option Json))
  | .object entries =>
    names.mapM fun name =>
      match entries.filter fun entry => entry.1 == name with
      | [] => some none
      | [entry] => some (some entry.2)
      | _ => none
  | .array items =>
    if items.length ≤ names.length then some ((List.range names.length).map fun i => items[i]?)
    else none
  | _ => none

/-- A field that must be present. -/
def required? {α : Type} (decode : Json → Option α) : Option Json → Option α
  | some j => decode j
  | none => none

/-- A field with a value for the case that it is absent. -/
def withDefault? {α : Type} (default : α) (decode : Json → Option α) : Option Json → Option α
  | some j => decode j
  | none => some default

end Json

end GuardedNet
