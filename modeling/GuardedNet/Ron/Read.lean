import GuardedNet.Ron.Basic
import GuardedNet.Ron.Token

/-!
# Reading RON

A text is read as a tree first; what its numbers and names stand for is decided by the
decoders, which know what is wanted. Attributes in front of a document choose a dialect.
-/

namespace GuardedNet.Ron

/-! ### Dialects -/

/-- What the attributes in front of a document ask for. -/
structure Dialect where
  /-- Whether an optional part may stand without saying that it is there. -/
  implicitSome : Bool := false
  /-- Whether records must have their names. -/
  explicitNames : Bool := false
  /-- Whether a tuple or record that is an optional part may stand without parentheses of its
  own. -/
  bareParts : Bool := false
deriving DecidableEq, Inhabited

/-- The dialect with one more extension, if there is one with that name. -/
def Dialect.enable (dialect : Dialect) : String → Option Dialect
  | "implicit_some" => some { dialect with implicitSome := true }
  | "explicit_struct_names" => some { dialect with explicitNames := true }
  | "unwrap_newtypes" => some dialect
  | "unwrap_variant_newtypes" => some { dialect with bareParts := true }
  | _ => none

/-- Drops marks with space after each. -/
def dropAll : List String → Rest → Option Rest
  | [], cs => some cs
  | mark :: marks, cs =>
    if mark.toList.isPrefixOf cs then do
      let rest ← skipSpace (cs.drop mark.toList.length)
      dropAll marks rest
    else none

/-- Names of extensions with commas between them. -/
def readExtensions (bound : Nat) (dialect : Dialect) (cs : Rest) : Option (Dialect × Rest) :=
  match bound with
  | 0 => none
  | bound + 1 => do
    let (name, rest) ← readName cs
    let dialect ← dialect.enable name
    let (comma, rest) ← readComma rest
    if comma && (rest.head?.map isNameStart).getD false then readExtensions bound dialect rest
    else return (dialect, rest)

/-- The attributes in front of a document. -/
def readDialect (bound : Nat) (dialect : Dialect) (cs : Rest) : Option (Dialect × Rest) :=
  match bound, cs with
  | 0, _ => none
  | bound + 1, '#' :: _ => do
    let rest ← dropAll ["#", "!", "[", "enable", "("] cs
    let (dialect, rest) ← readExtensions (rest.length + 1) dialect rest
    let rest ← dropAll [")", "]"] rest
    readDialect bound dialect rest
  | _, _ => some (dialect, cs)

/-! ### Documents -/

/-- A character of a number. -/
def isNumberPart (c : Char) : Bool :=
  c.isAlphanum || c == '_' || c == '.' || c == '+' || c == '-'

/-- The keywords that are numbers. -/
def numberWords : List String := ["inf", "inff32", "inff64", "NaN", "NaNf32", "NaNf64"]

/-- The document that a keyword stands for. -/
def keyword? (name : String) : Option Ron :=
  if name == "true" then some (.bool true)
  else if name == "false" then some (.bool false)
  else if name == "None" then some .absent
  else if numberWords.contains name then some (.numeral name)
  else none

/-- A literal in quotation marks, if one comes next. -/
def readLiteral? (cs : Rest) : Option (Option (Ron × Rest)) :=
  match cs with
  | '"' :: rest => do
    let (body, rest) ← readString (rest.length + 1) rest
    return some (.str (String.ofList body), rest)
  | '\'' :: rest => do
    let (c, rest) ← readCharLiteral rest
    return some (.char c, rest)
  | 'b' :: '"' :: rest => do
    let (data, rest) ← readByteString (rest.length + 1) rest
    return some (.bytes data, rest)
  | 'b' :: '\'' :: rest => do
    let (value, rest) ← readByteLiteral rest
    return some (.byte value, rest)
  | 'b' :: 'r' :: rest =>
    if startsRawString rest then do
      let (body, rest) ← readRawString rest
      return some (.bytes (String.ofList body).toUTF8.toList, rest)
    else some none
  | 'r' :: rest =>
    if startsRawString rest then do
      let (body, rest) ← readRawString rest
      return some (.str (String.ofList body), rest)
    else some none
  | _ => some none

mutual

/-- A document, with no space in front. -/
def readValue (dialect : Dialect) (bound : Nat) (cs : Rest) : Option (Ron × Rest) :=
  match bound with
  | 0 => none
  | bound + 1 =>
    match cs with
    | [] => none
    | '[' :: rest => do
      let rest ← skipSpace rest
      let (items, rest) ← readItems dialect bound ']' rest
      return (.list items, rest)
    | '{' :: rest => do
      let rest ← skipSpace rest
      let (entries, rest) ← readEntries dialect bound rest
      return (.map entries, rest)
    | '(' :: ')' :: rest => some (.unit, rest)
    | '(' :: rest => readParts dialect bound none rest
    | c :: _ =>
      if c.isDigit || c == '+' || c == '-' || c == '.' then
        let text := cs.takeWhile isNumberPart
        some (.numeral (String.ofList text), cs.drop text.length)
      else do
        match ← readLiteral? cs with
        | some found => return found
        | none => do
          let (name, rest) ← readName cs
          if startsRawName cs then readNamed dialect bound name rest
          else if name == "Some" then readPresent dialect bound rest
          else
            match keyword? name with
            | some r => return (r, rest)
            | none => readNamed dialect bound name rest

/-- What a name belongs to: a tuple, a record, or nothing but itself. -/
def readNamed (dialect : Dialect) (bound : Nat) (name : String) (cs : Rest) :
    Option (Ron × Rest) :=
  match bound with
  | 0 => none
  | bound + 1 => do
    match ← skipSpace cs with
    | '(' :: rest => readParts dialect bound (some name) rest
    | _ => return (.word name, cs)

/-- An optional part that is there, after the word that says so. -/
def readPresent (dialect : Dialect) (bound : Nat) (cs : Rest) : Option (Ron × Rest) :=
  match bound with
  | 0 => none
  | bound + 1 => do
    match ← skipSpace cs with
    | '(' :: rest =>
      if dialect.bareParts then
        match ← readParts dialect bound none rest with
        | (.tuple _ [], rest) => return (.present .unit, rest)
        | (.tuple _ [part], rest) => return (.present part, rest)
        | (parts, rest) => return (.present parts, rest)
      else do
        match ← readItems dialect bound ')' (← skipSpace rest) with
        | ([part], rest) => return (.present part, rest)
        | _ => none
    | rest =>
      if dialect.implicitSome then do
        let (part, rest) ← readValue dialect bound rest
        return (.present part, rest)
      else none

/-- The parts of a tuple or record after its opening parenthesis. -/
def readParts (dialect : Dialect) (bound : Nat) (name : Option String) (cs : Rest) :
    Option (Ron × Rest) :=
  match bound with
  | 0 => none
  | bound + 1 => do
    let cs ← skipSpace cs
    match readFieldName cs with
    | some _ => do
      let (fields, rest) ← readFields dialect bound cs
      return (.record name fields, rest)
    | none => do
      let (items, rest) ← readItems dialect bound ')' cs
      return (.tuple name items, rest)

/-- Items and the given closing bracket. -/
def readItems (dialect : Dialect) (bound : Nat) (closing : Char) (cs : Rest) :
    Option (List Ron × Rest) :=
  match bound with
  | 0 => none
  | bound + 1 =>
    match cs with
    | [] => none
    | c :: rest =>
      if c == closing then some ([], rest)
      else do
        let (item, rest) ← readValue dialect bound cs
        let (comma, rest) ← readComma rest
        if comma then do
          let (items, rest) ← readItems dialect bound closing rest
          return (item :: items, rest)
        else if rest.head? == some closing then return ([item], rest.drop 1)
        else none

/-- Entries of a map and its closing brace. -/
def readEntries (dialect : Dialect) (bound : Nat) (cs : Rest) :
    Option (List (Ron × Ron) × Rest) :=
  match bound with
  | 0 => none
  | bound + 1 =>
    match cs with
    | [] => none
    | '}' :: rest => some ([], rest)
    | cs => do
      let (key, rest) ← readValue dialect bound cs
      match ← skipSpace rest with
      | ':' :: rest => do
        let (value, rest) ← readValue dialect bound (← skipSpace rest)
        let (comma, rest) ← readComma rest
        if comma then do
          let (entries, rest) ← readEntries dialect bound rest
          return ((key, value) :: entries, rest)
        else if rest.head? == some '}' then return ([(key, value)], rest.drop 1)
        else none
      | _ => none

/-- Fields of a record and its closing parenthesis. -/
def readFields (dialect : Dialect) (bound : Nat) (cs : Rest) :
    Option (List (String × Ron) × Rest) :=
  match bound with
  | 0 => none
  | bound + 1 =>
    match cs with
    | [] => none
    | ')' :: rest => some ([], rest)
    | cs => do
      let (name, rest) ← readFieldName cs
      let (value, rest) ← readValue dialect bound (← skipSpace rest)
      let (comma, rest) ← readComma rest
      if comma then do
        let (fields, rest) ← readFields dialect bound rest
        return ((name, value) :: fields, rest)
      else if rest.head? == some ')' then return ([(name, value)], rest.drop 1)
      else none

end

/-- The document that a text spells, if it spells one and nothing more, and its dialect. -/
def parse? (text : String) : Option (Dialect × Ron) := do
  let cs ← skipSpace text.toList
  let (dialect, cs) ← readDialect (cs.length + 1) {} cs
  let (r, rest) ← readValue dialect (4 * cs.length + 4) cs
  let rest ← skipSpace rest
  if rest.isEmpty && r.depth ≤ maxDepth then some (dialect, r) else none

end GuardedNet.Ron
