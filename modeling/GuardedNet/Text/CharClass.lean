import GuardedNet.Text.Alphabetic
import GuardedNet.Text.Combining
import GuardedNet.Text.NamePart
import GuardedNet.Text.NameStart
import GuardedNet.Text.Numeric
import GuardedNet.Text.Unprintable

/-!
# Character classes

The classes that reading and quoting depend on. ASCII characters are decided without a
table; the tables cover the rest.
-/

namespace GuardedNet.Text

/-- Ranges of the Unicode property White_Space. -/
def blank : CharTable :=
  [(0x9, 0xD), (0x20, 0x20), (0x85, 0x85), (0xA0, 0xA0), (0x1680, 0x1680), (0x2000, 0x200A),
   (0x2028, 0x2029), (0x202F, 0x202F), (0x205F, 0x205F), (0x3000, 0x3000)]

/-- A character of the property White_Space. -/
def isBlank (c : Char) : Bool := blank.contains c

/-- A character of the property Alphabetic. -/
def isAlphabetic (c : Char) : Bool :=
  if c.toNat < 128 then c.isAlpha else alphabetic.contains c

/-- A character that is alphabetic or of a numeric general category. -/
def isAlphanumeric (c : Char) : Bool :=
  if c.toNat < 128 then c.isAlphanum else alphabetic.contains c || numeric.contains c

/-- A character of the property XID_Start. -/
def isNameStart (c : Char) : Bool :=
  if c.toNat < 128 then c.isAlpha else nameStart.contains c

/-- A character of the property XID_Continue. -/
def isNamePart (c : Char) : Bool :=
  if c.toNat < 128 then c.isAlphanum || c == '_' else namePart.contains c

/-- A character that quoted text may show as it is. -/
def isShown (c : Char) : Bool :=
  if c.toNat < 128 then 0x20 ≤ c.toNat && c.toNat < 0x7F
  else !combining.contains c && !unprintable.contains c

/-- The characters of `cs` without the blanks at either end. -/
def trimBlanks (cs : List Char) : List Char :=
  ((cs.dropWhile isBlank).reverse.dropWhile isBlank).reverse

/-- A text of blanks only. -/
def isBlankText (s : String) : Bool := s.toList.all isBlank

/-- The text with the letters `A` to `Z` in lower case. -/
def lowerAscii (s : String) : String := String.ofList (s.toList.map Char.toLower)

/-- Whether `part` occurs in `cs` as a run of neighbouring characters. -/
def occursIn (part : List Char) : List Char → Bool
  | [] => part.isEmpty
  | c :: cs => part.isPrefixOf (c :: cs) || occursIn part cs

end GuardedNet.Text
