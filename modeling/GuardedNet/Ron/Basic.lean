import GuardedNet.Number.FloatText
import GuardedNet.Text.Layout
import GuardedNet.Text.Quoted

/-!
# RON documents

Documents of the object notation with parenthesised records, as trees, and how they are
written with one item a line.
-/

namespace GuardedNet

/-- A RON document. Numbers are kept as written, since their reading depends on what is
wanted. -/
inductive Ron where
  | numeral (text : String)
  /-- A character literal that stands for a byte. -/
  | byte (value : UInt8)
  | str (s : String)
  /-- A string literal that stands for bytes. -/
  | bytes (data : List UInt8)
  | char (c : Char)
  | bool (b : Bool)
  /-- An optional part that is not there. -/
  | absent
  /-- An optional part that is there. -/
  | present (part : Ron)
  /-- A name that stands alone. -/
  | word (name : String)
  /-- Parentheses with nothing at all between them. -/
  | unit
  | list (items : List Ron)
  | map (entries : List (Ron × Ron))
  /-- Parts in parentheses, after an optional name. -/
  | tuple (name : Option String) (items : List Ron)
  /-- Named fields in parentheses, after an optional name. -/
  | record (name : Option String) (fields : List (String × Ron))
deriving Inhabited

namespace Ron

/-- Numbers are written out, with a decimal point. -/
def floatStyle : Number.FloatStyle := ⟨none, true, false, .up⟩

/-- An integer. -/
def int (n : Int) : Ron := .numeral (Number.intText n)

/-- A double; what is not a number has a minus sign if it is negated. -/
def float (x : Float) (isNegated : Bool) : Ron :=
  .numeral ((if x.isNaN && isNegated then "-" else "") ++ floatStyle.text x)

/-- A byte as an escape of two digits in base sixteen. -/
def byteEscape (b : UInt8) : String :=
  let digits := Nat.toDigits 16 b.toNat
  "\\x" ++ String.ofList (List.replicate (2 - digits.length) '0' ++ digits)

/-- Items between brackets, each on a line of its own with a comma after it; brackets alone
without items. -/
def block (opening closing indent : String) (items : List String) : String :=
  match items with
  | [] => opening ++ closing
  | items =>
    opening ++ "\n" ++ String.join (items.map fun item => indent ++ "    " ++ item ++ ",\n")
      ++ indent ++ closing

mutual

/-- The document with one item a line, four spaces further in at each level. -/
def prettyAt (indent : String) : Ron → String
  | .numeral text => text
  | .byte b => "b'" ++ byteEscape b ++ "'"
  | .str s => Text.quotedStrictly s
  | .bytes data => "b\"" ++ String.join (data.map byteEscape) ++ "\""
  | .char c => Text.quotedChar c
  | .bool b => Text.ofBool b
  | .absent => "None"
  | .present part => "Some(" ++ part.prettyAt indent ++ ")"
  | .word name => name
  | .unit => "()"
  | .list items => block "[" "]" indent (prettyItems (indent ++ "    ") items)
  | .map entries => block "\x7b" "\x7d" indent (prettyEntries (indent ++ "    ") entries)
  | .tuple name items => name.getD "" ++ "(" ++ Text.joined ", " (prettyItems indent items) ++ ")"
  | .record name fields =>
    name.getD "" ++ block "(" ")" indent (prettyFields (indent ++ "    ") fields)

/-- Each item at its level. -/
def prettyItems (indent : String) : List Ron → List String
  | [] => []
  | r :: rs => r.prettyAt indent :: prettyItems indent rs

/-- Each entry at its level. -/
def prettyEntries (indent : String) : List (Ron × Ron) → List String
  | [] => []
  | (k, r) :: rest => (k.prettyAt indent ++ ": " ++ r.prettyAt indent) :: prettyEntries indent rest

/-- Each field at its level. -/
def prettyFields (indent : String) : List (String × Ron) → List String
  | [] => []
  | (name, r) :: rest => (name ++ ": " ++ r.prettyAt indent) :: prettyFields indent rest

end

/-- The document with one item a line. -/
def pretty (r : Ron) : String := r.prettyAt ""

mutual

/-- How many levels reading a document takes: one for each optional part that is there, and two
for each other level of nesting. -/
def depth : Ron → Nat
  | .present part => 1 + part.depth
  | .list items => 1 + depthItems items
  | .map entries => 1 + depthEntries entries
  | .tuple _ items => 1 + depthItems items
  | .record _ fields => 1 + depthFields fields
  | _ => 0

/-- The levels that the deepest item takes. -/
def depthItems : List Ron → Nat
  | [] => 0
  | r :: rs => max (1 + r.depth) (depthItems rs)

/-- The levels that the deepest entry takes. -/
def depthEntries : List (Ron × Ron) → Nat
  | [] => 0
  | (k, r) :: rest => max (1 + max k.depth r.depth) (depthEntries rest)

/-- The levels that the deepest field takes. -/
def depthFields : List (String × Ron) → Nat
  | [] => 0
  | (_, r) :: rest => max (1 + r.depth) (depthFields rest)

end

/-- The number of levels that readers accept. -/
def maxDepth : Nat := 128

end Ron

end GuardedNet
