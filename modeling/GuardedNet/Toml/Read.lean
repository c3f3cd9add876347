import GuardedNet.Toml.Basic

/-!
# Reading TOML

A text is a sequence of lines that open tables or set keys. No key may be set twice, and no
table opened twice.
-/

namespace GuardedNet.Toml

/-- The characters that are still to be read. -/
abbrev Rest := List Char

/-- A character that may not stand in texts and comments. -/
def isControl (c : Char) : Bool := (c.toNat < 32 && c != '\t') || c.toNat == 127

/-- Drops spaces and tabs. -/
def skipBlanks (cs : Rest) : Rest := cs.dropWhile fun c => c == ' ' || c == '\t'

/-- Drops the end of a line, if one comes next. -/
def lineEnd? : Rest → Option Rest
  | '\n' :: cs => some cs
  | '\r' :: '\n' :: cs => some cs
  | _ => none

/-- Drops a comment, if one comes next, up to the end of its line. -/
def skipComment (cs : Rest) : Option Rest :=
  match cs with
  | '#' :: rest =>
    let body := rest.takeWhile fun c => c != '\n' && c != '\r'
    if body.any isControl then none else some (rest.drop body.length)
  | cs => some cs

/-- Drops blanks, comments and line ends. -/
def skipLines (bound : Nat) (cs : Rest) : Option Rest :=
  match bound with
  | 0 => none
  | bound + 1 => do
    let rest ← skipComment (skipBlanks cs)
    match lineEnd? rest with
    | some rest => skipLines bound rest
    | none => some rest

/-- Drops what may follow a statement on its line, and the end of the line. -/
def finishLine (cs : Rest) : Option Rest := do
  let rest ← skipComment (skipBlanks cs)
  match rest with
  | [] => some []
  | rest => lineEnd? rest

/-! ### Strings -/

/-- The character with a code point given by so many digits. -/
def readCodePoint (count : Nat) (cs : Rest) : Option (Char × Rest) := do
  let digits := cs.take count
  let n ← if digits.length = count then Number.ofRadix? 16 digits else none
  if n.isValidChar then some (Char.ofNat n, cs.drop count) else none

/-- The character after a backslash. -/
def readEscape : Rest → Option (Char × Rest)
  | 'b' :: cs => some (Char.ofNat 8, cs)
  | 'e' :: cs => some (Char.ofNat 27, cs)
  | 't' :: cs => some ('\t', cs)
  | 'n' :: cs => some ('\n', cs)
  | 'f' :: cs => some (Char.ofNat 12, cs)
  | 'r' :: cs => some ('\r', cs)
  | '"' :: cs => some ('"', cs)
  | '\\' :: cs => some ('\\', cs)
  | 'x' :: cs => readCodePoint 2 cs
  | 'u' :: cs => readCodePoint 4 cs
  | 'U' :: cs => readCodePoint 8 cs
  | _ => none

/-- The contents of a string on one line, up to its closing mark. -/
def readBasic (bound : Nat) (cs : Rest) : Option (List Char × Rest) :=
  match bound, cs with
  | 0, _ => none
  | _, [] => none
  | _, '"' :: rest => some ([], rest)
  | bound + 1, '\\' :: rest => do
    let (c, rest) ← readEscape rest
    let (body, rest) ← readBasic bound rest
    return (c :: body, rest)
  | bound + 1, c :: rest =>
    if isControl c then none
    else do
      let (body, rest) ← readBasic bound rest
      return (c :: body, rest)

/-- The contents of a string without escapes on one line, up to its closing mark. -/
def readLiteral (cs : Rest) : Option (List Char × Rest) :=
  let body := cs.takeWhile (· != '\'')
  match cs.drop body.length with
  | '\'' :: rest => if body.any isControl then none else some (body, rest)
  | _ => none

/-- Drops blanks and line ends after a backslash at the end of a line, of which there must be
a line end. -/
def skipFold (cs : Rest) : Option Rest := do
  let rest ← lineEnd? (skipBlanks cs)
  return rest.dropWhile fun c => c == ' ' || c == '\t' || c == '\n' || c == '\r'

/-- Marks at the front of a text, at most five. -/
def closingMarks (mark : Char) (cs : Rest) : Nat := ((cs.take 5).takeWhile (· == mark)).length

/-- The contents of a string of several lines, up to three closing marks; two more marks in
front of those belong to the contents. Escapes count when `escapes` is set. -/
def readMultiline (mark : Char) (escapes : Bool) (bound : Nat) (cs : Rest) :
    Option (List Char × Rest) :=
  match bound with
  | 0 => none
  | bound + 1 =>
    let marks := closingMarks mark cs
    if 3 ≤ marks then some (List.replicate (marks - 3) mark, cs.drop marks)
    else
      match cs with
      | [] => none
      | c :: rest =>
        if escapes && c == '\\' then
          match readEscape rest with
          | some (c, rest) => do
            let (body, rest) ← readMultiline mark escapes bound rest
            return (c :: body, rest)
          | none => do
            let rest ← skipFold rest
            readMultiline mark escapes bound rest
        else
          match lineEnd? cs with
          | some rest => do
            let (body, rest) ← readMultiline mark escapes bound rest
            return ('\n' :: body, rest)
          | none =>
            if isControl c then none
            else do
              let (body, rest) ← readMultiline mark escapes bound rest
              return (c :: body, rest)

/-- Drops the line end that may follow the opening marks. -/
def dropFirstLineEnd (cs : Rest) : Rest := (lineEnd? cs).getD cs

/-- A string of any kind, if one comes next. -/
def readString? (cs : Rest) : Option (Option (String × Rest)) :=
  let bound := cs.length + 1
  let done (read : Option (List Char × Rest)) : Option (Option (String × Rest)) :=
    read.map fun (body, rest) => some (String.ofList body, rest)
  match cs with
  | '"' :: '"' :: '"' :: rest => done (readMultiline '"' true bound (dropFirstLineEnd rest))
  | '\'' :: '\'' :: '\'' :: rest => done (readMultiline '\'' false bound (dropFirstLineEnd rest))
  | '"' :: rest => done (readBasic bound rest)
  | '\'' :: rest => done (readLiteral rest)
  | _ => some none

/-! ### Keys -/

/-- A character of a key without quotation marks. -/
def isKeyChar (c : Char) : Bool := c.isAlphanum || c == '_' || c == '-'

/-- A single key. -/
def readKey (cs : Rest) : Option (String × Rest) :=
  match cs with
  | '"' :: rest => (readBasic (cs.length + 1) rest).map fun (body, rest) =>
      (String.ofList body, rest)
  | '\'' :: rest => (readLiteral rest).map fun (body, rest) => (String.ofList body, rest)
  | cs =>
    let name := cs.takeWhile isKeyChar
    if name.isEmpty then none else some (String.ofList name, cs.drop name.length)

/-- How deep arrays and inline tables may be nested, and how many keys a path may have. -/
def maxDepth : Nat := 80

/-- Keys with points between them, at most `bound`. -/
def readPath (bound : Nat) (cs : Rest) : Option (List String × Rest) :=
  match bound with
  | 0 => none
  | bound + 1 => do
    let (key, rest) ← readKey cs
    match skipBlanks rest with
    | '.' :: rest => do
      let (keys, rest) ← readPath bound (skipBlanks rest)
      return (key :: keys, rest)
    | rest => return ([key], rest)

/-! ### Tables under construction -/

/-- What stands at a key: a value, a table, or a sequence of tables. A table is implicit until a
line opens it; `dotted` says that keys with points made it. -/
inductive Node where
  | leaf (value : Toml)
  | table (implicit dotted : Bool) (entries : List (String × Node))
  | tables (items : List (List (String × Node)))

/-- Entries under construction. -/
abbrev Entries := List (String × Node)

namespace Entries

/-- What stands at a key. -/
def find? (entries : Entries) (key : String) : Option Node := Dictionary.get? key entries

/-- Puts something at a key that is present. -/
def put (entries : Entries) (key : String) (node : Node) : Entries :=
  Dictionary.replace key node entries

/-- Changes the entries that a path leads to. Tables that are missing on the way are made; a
path within a statement (`dotted`) may not lead through tables that a line opened, and must
end in one that keys with points made. -/
def change (dotted : Bool) (act : Entries → Option Entries) :
    List String → Entries → Option Entries
  | [], entries => act entries
  | key :: path, entries =>
    match entries.find? key with
    | none => do
      let inner ← change dotted act path []
      return entries ++ [(key, .table true dotted inner)]
    | some (.leaf _) => none
    | some (.table implicit isDotted inner) =>
      if dotted && !(if path.isEmpty then isDotted else implicit) then none
      else do
        let inner ← change dotted act path inner
        return entries.put key (.table implicit isDotted inner)
    | some (.tables items) =>
      if dotted && path.isEmpty then none
      else
        match items.getLast? with
        | none => none
        | some last => do
          let inner ← change dotted act path last
          return entries.put key (.tables (items.dropLast ++ [inner]))

/-- Opens the table at a key. -/
def openTable (key : String) (entries : Entries) : Option Entries :=
  match entries.find? key with
  | none => some (entries ++ [(key, .table false false [])])
  | some (.table true false inner) => some (entries.put key (.table false false inner))
  | some _ => none

/-- Opens one more table in the sequence at a key. -/
def openItem (key : String) (entries : Entries) : Option Entries :=
  match entries.find? key with
  | none => some (entries ++ [(key, .tables [[]])])
  | some (.tables items) => some (entries.put key (.tables (items ++ [[]])))
  | some _ => none

/-- Sets a key that is not set. -/
def assign (key : String) (value : Toml) (entries : Entries) : Option Entries :=
  match entries.find? key with
  | none => some (entries ++ [(key, .leaf value)])
  | some _ => none

/-- Sets a key that a path leads to. -/
def assignPath (path : List String) (value : Toml) (entries : Entries) : Option Entries :=
  match path.getLast? with
  | none => none
  | some key => change true (assign key value) path.dropLast entries

end Entries

mutual

/-- The value of what stands at a key. -/
def Node.finish : Node → Toml
  | .leaf value => value
  | .table _ _ entries => .table (finishEntries entries)
  | .tables items => .array (finishItems items)

/-- The values of entries. -/
def finishEntries : List (String × Node) → List (String × Toml)
  | [] => []
  | (key, node) :: rest => (key, node.finish) :: finishEntries rest

/-- The values of tables in sequence. -/
def finishItems : List (List (String × Node)) → List Toml
  | [] => []
  | entries :: rest => .table (finishEntries entries) :: finishItems rest

end

/-! ### Values -/

/-- A character of a number, a date or a time. -/
def isScalarChar (c : Char) : Bool :=
  c.isAlphanum || c == '_' || c == '+' || c == '-' || c == '.' || c == ':'

/-- The run of characters of a scalar. A date may be followed by a space and a time. -/
def scalarRun (cs : Rest) : List Char :=
  let run := cs.takeWhile isScalarChar
  match cs.drop run.length with
  | ' ' :: c :: rest =>
    if c.isDigit && (dropDate? run) == some [] then
      run ++ ' ' :: (c :: rest).takeWhile isScalarChar
    else run
  | _ => run

mutual

/-- A value, with at most `depth` arrays and inline tables around one another. -/
def readValue (bound depth : Nat) (cs : Rest) : Option (Toml × Rest) :=
  match bound with
  | 0 => none
  | bound + 1 =>
    match cs, depth with
    | '[' :: _, 0 => none
    | '{' :: _, 0 => none
    | '[' :: rest, depth + 1 => do
      let (items, rest) ← readItems bound depth rest
      return (.array items, rest)
    | '{' :: rest, depth + 1 => do
      let (entries, rest) ← readInline bound depth [] rest
      return (.table (finishEntries entries), rest)
    | cs, _ => do
      match ← readString? cs with
      | some (s, rest) => return (.str s, rest)
      | none => do
        let run := scalarRun cs
        let value ← scalar? run
        return (value, cs.drop run.length)

/-- Items of an array and its closing bracket. -/
def readItems (bound depth : Nat) (cs : Rest) : Option (List Toml × Rest) :=
  match bound with
  | 0 => none
  | bound + 1 => do
    let rest ← skipLines (cs.length + 1) cs
    match rest with
    | ']' :: rest => return ([], rest)
    | rest => do
      let (item, rest) ← readValue bound depth rest
      let rest ← skipLines (rest.length + 1) rest
      match rest with
      | ',' :: rest => do
        let (items, rest) ← readItems bound depth rest
        return (item :: items, rest)
      | ']' :: rest => return ([item], rest)
      | _ => none

/-- Settings of an inline table and its closing brace. -/
def readInline (bound depth : Nat) (entries : Entries) (cs : Rest) : Option (Entries × Rest) :=
  match bound with
  | 0 => none
  | bound + 1 => do
    let rest ← skipLines (cs.length + 1) cs
    match rest with
    | '}' :: rest => return (entries, rest)
    | rest => do
      let (path, rest) ← readPath maxDepth rest
      let rest ← skipLines (rest.length + 1) rest
      match rest with
      | '=' :: rest => do
        let rest ← skipLines (rest.length + 1) rest
        let (value, rest) ← readValue bound depth rest
        let entries ← entries.assignPath path value
        let rest ← skipLines (rest.length + 1) rest
        match rest with
        | ',' :: rest => readInline bound depth entries rest
        | '}' :: rest => return (entries, rest)
        | _ => none
      | _ => none

end

/-! ### Documents -/

/-- One line: the path of the table that is open and the entries so far, before and after. -/
def readStatement (current : List String) (entries : Entries) (cs : Rest) :
    Option (List String × Entries × Rest) :=
  match cs with
  | '[' :: '[' :: rest => do
    let (path, rest) ← readPath maxDepth (skipBlanks rest)
    let key ← path.getLast?
    match rest with
    | ']' :: ']' :: rest => do
      let entries ← Entries.change false (Entries.openItem key) path.dropLast entries
      return (path, entries, rest)
    | _ => none
  | '[' :: rest => do
    let (path, rest) ← readPath maxDepth (skipBlanks rest)
    let key ← path.getLast?
    match rest with
    | ']' :: rest => do
      let entries ← Entries.change false (Entries.openTable key) path.dropLast entries
      return (path, entries, rest)
    | _ => none
  | cs => do
    let (path, rest) ← readPath maxDepth cs
    match rest with
    | '=' :: rest => do
      let (value, rest) ← readValue (2 * rest.length + 2) maxDepth (skipBlanks rest)
      let entries ← Entries.change false (Entries.assignPath path value) current entries
      return (current, entries, rest)
    | _ => none

/-- All lines. -/
def readLines (bound : Nat) (current : List String) (entries : Entries) (cs : Rest) :
    Option Entries :=
  match bound with
  | 0 => none
  | bound + 1 => do
    let rest ← skipLines (cs.length + 1) cs
    match rest with
    | [] => return entries
    | rest => do
      let (opened, entries, rest) ← readStatement current entries rest
      let rest ← finishLine rest
      readLines bound opened entries rest

/-- The entries of the document that a text spells. -/
def parse? (text : String) : Option (List (String × Toml)) :=
  let cs := match text.toList with
    | c :: cs => if c.toNat == 0xFEFF then cs else c :: cs
    | [] => []
  (readLines (cs.length + 1) [] [] cs).map finishEntries

end GuardedNet.Toml
