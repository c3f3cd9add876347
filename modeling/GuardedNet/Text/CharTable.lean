/-!
# Character tables

A character class given as a list of inclusive code point ranges.
-/

namespace GuardedNet.Text

/-- A set of characters: inclusive ranges of code points, in increasing order. -/
abbrev CharTable := List (Nat × Nat)

/-- Membership of a character in a table. -/
def CharTable.contains (table : CharTable) (c : Char) : Bool :=
  table.any fun range => range.1 ≤ c.toNat && c.toNat ≤ range.2

end GuardedNet.Text
