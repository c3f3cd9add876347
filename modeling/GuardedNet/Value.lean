import GuardedNet.Dictionary
import GuardedNet.Number.Bounds
import GuardedNet.Text.Quoted

/-!
# Values

What a place holds and what an expression yields: truth values, integers, texts, lists and
maps with text keys. Main statement: equality is decidable (`Value.same_iff`).
-/

namespace GuardedNet

/-- A value of the guard language. The entries of a map stand in increasing order of their
keys. -/
inductive Value where
  | bool (b : Bool)
  | int (n : Int)
  | str (s : String)
  | list (items : List Value)
  | map (entries : List (String × Value))
deriving Inhabited

namespace Value

/-! ### Equality -/

mutual

/-- Equality of values as a Boolean. -/
def same : Value → Value → Bool
  | .bool a, .bool b => a == b
  | .int a, .int b => a == b
  | .str a, .str b => a == b
  | .list a, .list b => sameItems a b
  | .map a, .map b => sameEntries a b
  | _, _ => false

/-- Equality of lists of values as a Boolean. -/
def sameItems : List Value → List Value → Bool
  | [], [] => true
  | a :: as, b :: bs => same a b && sameItems as bs
  | _, _ => false

/-- Equality of entries as a Boolean. -/
def sameEntries : List (String × Value) → List (String × Value) → Bool
  | [], [] => true
  | (k, a) :: as, (l, b) :: bs => k == l && same a b && sameEntries as bs
  | _, _ => false

end

mutual

theorem same_iff : ∀ a b : Value, same a b = true ↔ a = b
  | .bool a, b => by cases b <;> simp [same]
  | .int a, b => by cases b <;> simp [same]
  | .str a, b => by cases b <;> simp [same]
  | .list a, b => by cases b <;> simp [same, sameItems_iff a]
  | .map a, b => by cases b <;> simp [same, sameEntries_iff a]

theorem sameItems_iff : ∀ as bs : List Value, sameItems as bs = true ↔ as = bs
  | [], bs => by cases bs <;> simp [sameItems]
  | a :: as, bs => by cases bs <;> simp [sameItems, same_iff a, sameItems_iff as]

theorem sameEntries_iff :
    ∀ as bs : List (String × Value), sameEntries as bs = true ↔ as = bs
  | [], bs => by cases bs <;> simp [sameEntries]
  | (k, a) :: as, bs => by
    cases bs with
    | nil => simp [sameEntries]
    | cons entry bs =>
      obtain ⟨l, b⟩ := entry
      simp [sameEntries, same_iff a, sameEntries_iff as]

end

instance : DecidableEq Value := fun a b => decidable_of_iff _ (same_iff a b)

/-! ### Views -/

/-- The integer view: an integer itself, or a text that holds a decimal integer between
blanks. -/
def asInt? : Value → Option Int
  | .int n => some n
  | .str s => Number.readInt? (Text.trimBlanks s.toList)
  | _ => none

/-- The truth value, if it is one. -/
def asBool? : Value → Option Bool
  | .bool b => some b
  | _ => none

/-- The text, if it is one. -/
def asText? : Value → Option String
  | .str s => some s
  | _ => none

/-- The word for the kind of a value. -/
def kind : Value → String
  | .bool _ => "bool"
  | .int _ => "int"
  | .str _ => "string"
  | .list _ => "list"
  | .map _ => "map"

/-- The map key that a value stands for; lists and maps stand for none. -/
def asKey? : Value → Option String
  | .int n => some (Number.intText n)
  | .str s => some s
  | .bool true => some "true"
  | .bool false => some "false"
  | .list _ => none
  | .map _ => none

mutual

/-- The sum of all integers within a value, where other leaves count as zero. There is none
when a partial sum leaves the bounds. -/
def total? : Value → Option Int
  | .list items => totalItems? 0 items
  | .map entries => totalEntries? 0 entries
  | .int n => some n
  | .str s => some ((asInt? (.str s)).getD 0)
  | .bool _ => some 0

/-- The sum of the totals of `items`, added to `acc` from left to right. -/
def totalItems? (acc : Int) : List Value → Option Int
  | [] => some acc
  | v :: vs => do
    let n ← total? v
    let acc ← Number.fit? (acc + n)
    totalItems? acc vs

/-- The sum of the totals of the entries' values, added to `acc` from left to right. -/
def totalEntries? (acc : Int) : List (String × Value) → Option Int
  | [] => some acc
  | (_, v) :: rest => do
    let n ← total? v
    let acc ← Number.fit? (acc + n)
    totalEntries? acc rest

end

/-- The map with the given entries; of two entries with one key the later counts. -/
def ofPairs (pairs : List (String × Value)) : Value := .map (Dictionary.ofPairs pairs)

/-! ### Text -/

/-- Texts one after the other with a comma and a space between neighbours. -/
def commaSeparated : List (List Char) → List Char
  | [] => []
  | [part] => part
  | part :: rest => part ++ ',' :: ' ' :: commaSeparated rest

mutual

/-- The characters that show a value: texts in quotation marks, lists in square brackets,
maps in braces. -/
def chars : Value → List Char
  | .bool true => ['t', 'r', 'u', 'e']
  | .bool false => ['f', 'a', 'l', 's', 'e']
  | .int n => Number.intChars n
  | .str s => Text.quoteWith (fun c => c == '"') s.toList
  | .list items => '[' :: (commaSeparated (itemChars items) ++ [']'])
  | .map entries => '{' :: (commaSeparated (entryChars entries) ++ ['}'])

/-- The characters of each item. -/
def itemChars : List Value → List (List Char)
  | [] => []
  | v :: vs => chars v :: itemChars vs

/-- The characters of each entry: the key in quotation marks, a colon, the value. -/
def entryChars : List (String × Value) → List (List Char)
  | [] => []
  | (k, v) :: rest =>
    (Text.quoteWith (fun c => c == '"') k.toList ++ ':' :: ' ' :: chars v) :: entryChars rest

end

/-- The text that shows a value. -/
def render (v : Value) : String := String.ofList (chars v)

end Value

end GuardedNet
