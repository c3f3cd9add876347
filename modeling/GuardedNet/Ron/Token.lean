import GuardedNet.Number.Literal
import GuardedNet.Text.CharClass

/-!
# Tokens of RON

Spaces and comments, names, and what strings, characters and bytes in quotation marks stand
for.
-/

namespace GuardedNet.Ron

/-- The characters that are still to be read. -/
abbrev Rest := List Char

/-! ### Spaces and comments -/

/-- Where a reader of gaps stands: outside comments, in a comment to the end of the line, or
in a comment with so many more to be closed. -/
inductive Gap where
  | plain
  | line
  | block (outer : Nat)

/-- A character that separates tokens. -/
def isSpace (c : Char) : Bool :=
  (9 ≤ c.toNat && c.toNat ≤ 13) || c == ' ' ||
    [0x85, 0x200E, 0x200F, 0x2028, 0x2029].contains c.toNat

/-- Drops spaces and comments. There is no result when a comment is not closed. -/
def skipGap : Gap → Rest → Option Rest
  | .plain, [] => some []
  | .plain, '/' :: '/' :: cs => skipGap .line cs
  | .plain, '/' :: '*' :: cs => skipGap (.block 0) cs
  | .plain, c :: cs => if isSpace c then skipGap .plain cs else some (c :: cs)
  | .line, [] => some []
  | .line, c :: cs => if c == '\n' then skipGap .plain cs else skipGap .line cs
  | .block _, [] => none
  | .block outer, '*' :: '/' :: cs =>
    match outer with
    | 0 => skipGap .plain cs
    | outer + 1 => skipGap (.block outer) cs
  | .block outer, '/' :: '*' :: cs => skipGap (.block (outer + 1)) cs
  | .block outer, _ :: cs => skipGap (.block outer) cs

/-- Drops spaces and comments. -/
def skipSpace (cs : Rest) : Option Rest := skipGap .plain cs

/-- Drops a comma with the space before and after it; whether there was one, and the rest. -/
def readComma (cs : Rest) : Option (Bool × Rest) := do
  match ← skipSpace cs with
  | ',' :: rest => return (true, ← skipSpace rest)
  | rest => return (false, rest)

/-! ### Names -/

/-- A character that a name may start with. -/
def isNameStart (c : Char) : Bool := c == '_' || Text.isNameStart c

/-- A character of a raw name. -/
def isRawNamePart (c : Char) : Bool := Text.isNamePart c || c == '.' || c == '+' || c == '-'

/-- Whether a text starts like a raw name, which never is a keyword. -/
def startsRawName : Rest → Bool
  | 'r' :: '#' :: _ => true
  | _ => false

/-- A name at the front of a text, raw or not. -/
def readName (cs : Rest) : Option (String × Rest) :=
  match cs with
  | 'r' :: '#' :: cs =>
    let name := cs.takeWhile isRawNamePart
    if name.isEmpty then none else some (String.ofList name, cs.drop name.length)
  | c :: _ =>
    if isNameStart c then
      let name := cs.takeWhile Text.isNamePart
      some (String.ofList name, cs.drop name.length)
    else none
  | [] => none

/-- A name and the colon after it. -/
def readFieldName (cs : Rest) : Option (String × Rest) := do
  let (name, rest) ← readName cs
  match ← skipSpace rest with
  | ':' :: rest => some (name, rest)
  | _ => none

/-! ### Escapes -/

/-- The character that a single letter after a backslash stands for. -/
def simpleEscape? : Char → Option Char
  | '\'' => some '\''
  | '"' => some '"'
  | '\\' => some '\\'
  | 'n' => some '\n'
  | 'r' => some '\r'
  | 't' => some '\t'
  | '0' => some (Char.ofNat 0)
  | _ => none

/-- The byte of two digits in base sixteen. -/
def readByte : Rest → Option (UInt8 × Rest)
  | a :: b :: cs => do
    let n ← Number.ofRadix? 16 [a, b]
    return (UInt8.ofNat n, cs)
  | _ => none

/-- The text that bytes encode, if they encode one. -/
def textOfBytes? (data : List UInt8) : Option String := String.fromUTF8? ⟨data.toArray⟩

/-- The character of a sequence of escaped bytes, of which at most `room` may follow those
already read and the next. -/
def readByteChar (room : Nat) (bytes : List UInt8) (cs : Rest) : Option (Char × Rest) := do
  let (byte, rest) ← readByte cs
  let bytes := bytes ++ [byte]
  match (textOfBytes? bytes).map String.toList, room with
  | some [c], _ => some (c, rest)
  | _, 0 => none
  | _, room + 1 =>
    match rest with
    | '\\' :: 'x' :: rest => readByteChar room bytes rest
    | _ => none

/-- The character with the code point that up to six digits in braces give. -/
def readCodePoint : Rest → Option (Char × Rest)
  | '{' :: cs => do
    let digits := cs.takeWhile (· != '}')
    let n ← if digits.length ≤ 6 then Number.ofRadix? 16 digits else none
    match cs.drop digits.length with
    | '}' :: rest => if n.isValidChar then some (Char.ofNat n, rest) else none
    | _ => none
  | _ => none

/-- The character after a backslash; at most `room` escaped bytes may follow a first one to
make up a character. -/
def readEscape (room : Nat) : Rest → Option (Char × Rest)
  | 'x' :: cs => readByteChar room [] cs
  | 'u' :: cs => readCodePoint cs
  | c :: cs => (simpleEscape? c).map fun plain => (plain, cs)
  | [] => none

/-- The bytes after a backslash. -/
def readByteEscape : Rest → Option (List UInt8 × Rest)
  | 'x' :: cs => (readByte cs).map fun (byte, rest) => ([byte], rest)
  | cs => (readEscape 0 cs).map fun (c, rest) => (String.utf8EncodeChar c, rest)

/-! ### Literals -/

/-- The contents of a string up to its closing mark. -/
def readString (bound : Nat) (cs : Rest) : Option (List Char × Rest) :=
  match bound, cs with
  | 0, _ => none
  | _, [] => none
  | _, '"' :: rest => some ([], rest)
  | bound + 1, '\\' :: rest => do
    let (c, rest) ← readEscape 3 rest
    let (body, rest) ← readString bound rest
    return (c :: body, rest)
  | bound + 1, c :: rest => do
    let (body, rest) ← readString bound rest
    return (c :: body, rest)

/-- The contents of a string of bytes up to its closing mark. -/
def readByteString (bound : Nat) (cs : Rest) : Option (List UInt8 × Rest) :=
  match bound, cs with
  | 0, _ => none
  | _, [] => none
  | _, '"' :: rest => some ([], rest)
  | bound + 1, '\\' :: rest => do
    let (bytes, rest) ← readByteEscape rest
    let (body, rest) ← readByteString bound rest
    return (bytes ++ body, rest)
  | bound + 1, c :: rest => do
    let (body, rest) ← readByteString bound rest
    return (String.utf8EncodeChar c ++ body, rest)

/-- The contents of a raw string, which ends at the given mark. -/
def readRawBody (closing : List Char) : Rest → Option (List Char × Rest)
  | [] => none
  | c :: cs =>
    if closing.isPrefixOf (c :: cs) then some ([], (c :: cs).drop closing.length)
    else (readRawBody closing cs).map fun (body, rest) => (c :: body, rest)

/-- A raw string after its letter: number signs, a quotation mark, and the contents up to a
quotation mark with as many number signs. -/
def readRawString (cs : Rest) : Option (List Char × Rest) :=
  let marks := cs.takeWhile (· == '#')
  match cs.drop marks.length with
  | '"' :: rest => readRawBody ('"' :: marks) rest
  | _ => none

/-- Whether a text starts like the rest of a raw string after its letter. -/
def startsRawString (cs : Rest) : Bool := (cs.dropWhile (· == '#')).head? == some '"'

/-- A character literal after its opening mark. -/
def readCharLiteral (cs : Rest) : Option (Char × Rest) := do
  let (c, rest) ← match cs with
    | '\\' :: cs => readEscape 0 cs
    | c :: cs => some (c, cs)
    | [] => none
  match rest with
  | '\'' :: rest => some (c, rest)
  | _ => none

/-- A byte literal after its opening mark: a character of ASCII or an escape. -/
def readByteLiteral (cs : Rest) : Option (UInt8 × Rest) := do
  let (byte, rest) ← match cs with
    | '\\' :: 'x' :: cs => readByte cs
    | '\\' :: c :: cs => (simpleEscape? c).map fun plain => (UInt8.ofNat plain.toNat, cs)
    | c :: cs => if c.toNat < 128 then some (UInt8.ofNat c.toNat, cs) else none
    | [] => none
  match rest with
  | '\'' :: rest => some (byte, rest)
  | _ => none

end GuardedNet.Ron
