import GuardedNet.Guard.Term

/-!
# Tokens of the guard language

A text is a sequence of tokens with blanks between them. Each token keeps the offset of its
first byte.
-/

namespace GuardedNet.Guard

/-- What a token is. The minus sign is the operator `sub`, in front of an operand too. -/
inductive TokenKind where
  | int (n : Int)
  | str (s : String)
  | ident (name : String)
  | bool (b : Bool)
  | op (o : BinaryOp)
  | bang
  | lparen | rparen
  | lbracket | rbracket
  | dot | comma
deriving DecidableEq, Inhabited

/-- The text that shows a token. -/
def TokenKind.render : TokenKind → String
  | .int n => Number.intText n
  | .str s => Text.quoted s
  | .ident name => name
  | .bool true => "true"
  | .bool false => "false"
  | .op o => o.symbol
  | .bang => "!"
  | .lparen => "("
  | .rparen => ")"
  | .lbracket => "["
  | .rbracket => "]"
  | .dot => "."
  | .comma => ","

/-- A token and the offset of its first byte. -/
structure Token where
  kind : TokenKind
  pos : Nat
deriving DecidableEq, Inhabited

/-- What the reader of an expression was looking for. -/
inductive Expected where
  | expression
  | endOfExpression
  | fieldName
  | closingBracket
  | closingParen
  | commaOrParen
deriving DecidableEq, Inhabited

/-- The words for what was looked for. -/
def Expected.text : Expected → String
  | .expression => "expression"
  | .endOfExpression => "end of expression"
  | .fieldName => "field name"
  | .closingBracket => "`]`"
  | .closingParen => "`)`"
  | .commaOrParen => "`,` or `)`"

/-- Why a text is no expression. -/
inductive ParseError where
  | unexpectedChar (c : Char) (pos : Nat)
  | unterminatedString (pos : Nat)
  | invalidNumber (text : String) (pos : Nat)
  | unexpectedToken (found : TokenKind) (pos : Nat) (expected : Expected)
  | unexpectedEnd (expected : Expected)
  | notCallable (pos : Nat)
  | depthExceeded
deriving DecidableEq, Inhabited

/-- The wording of an error. -/
def ParseError.message : ParseError → String
  | .unexpectedChar c pos =>
    "unexpected character " ++ Text.quotedChar c ++ " at offset " ++ Number.natText pos
  | .unterminatedString pos => "unterminated string starting at offset " ++ Number.natText pos
  | .invalidNumber text pos =>
    "invalid integer literal " ++ Text.quoted text ++ " at offset " ++ Number.natText pos
  | .unexpectedToken found pos expected =>
    "unexpected token `" ++ found.render ++ "` at offset " ++ Number.natText pos
      ++ ", expected " ++ expected.text
  | .unexpectedEnd expected => "unexpected end of expression, expected " ++ expected.text
  | .notCallable pos => "only named functions can be called (offset " ++ Number.natText pos ++ ")"
  | .depthExceeded =>
    "expression nesting exceeds the maximum depth of " ++ Number.natText maxDepth

/-! ### Lexemes -/

/-- A character that a word may start with. -/
def isWordStart (c : Char) : Bool := c == '_' || Text.isAlphabetic c

/-- A character that a word may contain after its first one. -/
def isWordPart (c : Char) : Bool := c == '_' || Text.isAlphanumeric c

/-- A token read at the front of a text: what it is, and how many characters after its first
one it takes up. -/
structure Lexeme where
  kind : TokenKind
  extent : Nat
deriving DecidableEq, Inhabited

/-- The characters that a backslash and `c` stand for in a text literal. -/
def unescape (c : Char) : List Char :=
  if c == 'n' then ['\n']
  else if c == 't' then ['\t']
  else if c == '\\' || c == '"' || c == '\'' then [c]
  else ['\\', c]

/-- The contents of a text literal up to its closing mark, and the number of characters they
and the mark take up. There are none without a closing mark. -/
def literalBody (mark : Char) : List Char → Option (List Char × Nat)
  | [] => none
  | '\\' :: c :: cs =>
    (literalBody mark cs).map fun (body, extent) => (unescape c ++ body, extent + 2)
  | c :: cs =>
    if c == mark then some ([], 1)
    else if c == '\\' then none
    else (literalBody mark cs).map fun (body, extent) => (c :: body, extent + 1)

/-- The sign that starts with `c`, the longer one where two fit. -/
def symbol? (c : Char) (cs : List Char) : Option Lexeme :=
  match c, cs with
  | '|', '|' :: _ => some ⟨.op .or, 1⟩
  | '&', '&' :: _ => some ⟨.op .and, 1⟩
  | '=', '=' :: _ => some ⟨.op .eq, 1⟩
  | '!', '=' :: _ => some ⟨.op .ne, 1⟩
  | '<', '=' :: _ => some ⟨.op .le, 1⟩
  | '>', '=' :: _ => some ⟨.op .ge, 1⟩
  | '<', _ => some ⟨.op .lt, 0⟩
  | '>', _ => some ⟨.op .gt, 0⟩
  | '!', _ => some ⟨.bang, 0⟩
  | '+', _ => some ⟨.op .add, 0⟩
  | '-', _ => some ⟨.op .sub, 0⟩
  | '*', _ => some ⟨.op .mul, 0⟩
  | '/', _ => some ⟨.op .div, 0⟩
  | '%', _ => some ⟨.op .rem, 0⟩
  | '(', _ => some ⟨.lparen, 0⟩
  | ')', _ => some ⟨.rparen, 0⟩
  | '[', _ => some ⟨.lbracket, 0⟩
  | ']', _ => some ⟨.rbracket, 0⟩
  | '.', _ => some ⟨.dot, 0⟩
  | ',', _ => some ⟨.comma, 0⟩
  | _, _ => none

/-- The token of a word. -/
def wordKind (name : String) : TokenKind :=
  if name = "true" then .bool true else if name = "false" then .bool false else .ident name

/-- The token that starts with the character `c`, at byte `pos`, in front of `cs`. -/
def lexeme (pos : Nat) (c : Char) (cs : List Char) : Except ParseError Lexeme :=
  if c.isDigit then
    let digits := c :: cs.takeWhile Char.isDigit
    match Number.fit? (Number.ofDigits digits) with
    | some n => .ok ⟨.int n, digits.length - 1⟩
    | none => .error (.invalidNumber (String.ofList digits) pos)
  else if isWordStart c then
    let rest := cs.takeWhile isWordPart
    .ok ⟨wordKind (String.ofList (c :: rest)), rest.length⟩
  else if c == '"' || c == '\'' then
    match literalBody c cs with
    | some (body, extent) => .ok ⟨.str (String.ofList body), extent⟩
    | none => .error (.unterminatedString pos)
  else
    match symbol? c cs with
    | some found => .ok found
    | none => .error (.unexpectedChar c pos)

/-- The number of bytes of a text in UTF-8. -/
def byteLength (cs : List Char) : Nat := Number.total (cs.map Char.utf8Size)

/-- The tokens of a text whose first byte has the offset `pos`. -/
def tokensFrom (pos : Nat) : List Char → Except ParseError (List Token)
  | [] => .ok []
  | c :: cs =>
    if Text.isBlank c then tokensFrom (pos + c.utf8Size) cs
    else do
      let found ← lexeme pos c cs
      let width := c.utf8Size + byteLength (cs.take found.extent)
      let rest ← tokensFrom (pos + width) (cs.drop found.extent)
      return ⟨found.kind, pos⟩ :: rest
termination_by cs => cs.length
decreasing_by all_goals simp only [List.length_cons, List.length_drop]; omega

/-- The tokens of a text. -/
def tokenize (text : String) : Except ParseError (List Token) := tokensFrom 0 text.toList

end GuardedNet.Guard
