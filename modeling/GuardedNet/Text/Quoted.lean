import GuardedNet.Text.CharClass

/-!
# Quoted text

Text between quotation marks, with a backslash before the mark and before the backslash
itself, short escapes for the common control characters, and the code point in braces for
every other character without a visible form of its own.
-/

namespace GuardedNet.Text

/-- The digits of `n` in base sixteen, lower case. -/
def hexDigits (n : Nat) : List Char := Nat.toDigits 16 n

/-- The escape of a character by its code point. -/
def codePointEscape (c : Char) : List Char :=
  ['\\', 'u', '{'] ++ hexDigits c.toNat ++ ['}']

/-- One character of quoted text; `isMark` says which quotation marks are escaped. -/
def escapeChar (isMark : Char → Bool) (c : Char) : List Char :=
  if c == '\\' || isMark c then ['\\', c]
  else if c == '\n' then ['\\', 'n']
  else if c == '\r' then ['\\', 'r']
  else if c == '\t' then ['\\', 't']
  else if c.toNat == 0 then ['\\', '0']
  else if isShown c then [c]
  else codePointEscape c

/-- Characters between double quotation marks. -/
def quoteWith (isMark : Char → Bool) (cs : List Char) : List Char :=
  '"' :: (cs.flatMap (escapeChar isMark) ++ ['"'])

/-- Text in double quotation marks, only those escaped within. -/
def quoted (s : String) : String :=
  String.ofList (quoteWith (fun c => c == '"') s.toList)

/-- Text in double quotation marks, with both kinds of mark escaped within. -/
def quotedStrictly (s : String) : String :=
  String.ofList (quoteWith (fun c => c == '"' || c == '\'') s.toList)

/-- A character in single quotation marks. -/
def quotedChar (c : Char) : String :=
  String.ofList ('\'' :: (escapeChar (fun c => c == '\'') c ++ ['\'']))

end GuardedNet.Text
