import GuardedNet.Guard.Token
import GuardedNet.Proofs.Outcome
import GuardedNet.Proofs.Text.Delimited

/-!
# Tokens of shown text

What single tokens look like in a text, and how the tokens of neighbouring pieces of text join.
Main statements: a name, a number, a text literal and a sign are each read as their own token as
long as the text after them does not go on with them (`Lexes`), and every token that is read
could be shown again (`isProper_of_tokensFrom`).
-/

namespace GuardedNet

/-! ### Character classes -/

namespace Text

theorem toNat_of_isDigit {c : Char} (digit : c.isDigit = true) : 48 ≤ c.toNat ∧ c.toNat ≤ 57 := by
  simpa [Char.isDigit, UInt32.le_iff_toNat_le] using digit

theorem toNat_of_isAlpha {c : Char} (letter : c.isAlpha = true) :
    65 ≤ c.toNat ∧ c.toNat ≤ 90 ∨ 97 ≤ c.toNat ∧ c.toNat ≤ 122 := by
  rcases Bool.or_eq_true_iff.1 letter with upper | lower
  · obtain ⟨least, greatest⟩ := of_decide_eq_true upper
    exact .inl ⟨UInt32.le_iff_toNat_le.1 least, UInt32.le_iff_toNat_le.1 greatest⟩
  · obtain ⟨least, greatest⟩ := Bool.and_eq_true_iff.1 lower
    exact .inr ⟨UInt32.le_iff_toNat_le.1 (of_decide_eq_true least),
      UInt32.le_iff_toNat_le.1 (of_decide_eq_true greatest)⟩

/-- No blank is alphabetic: the ranges of the two tables are disjoint. -/
theorem blank_disjoint_alphabetic :
    ∀ blanks ∈ blank, ∀ letters ∈ alphabetic, letters.2 < blanks.1 ∨ blanks.2 < letters.1 := by
  decide +kernel

theorem isBlank_eq_false_of_isAlphabetic {c : Char} (letter : isAlphabetic c = true) :
    isBlank c = false := by
  unfold isAlphabetic at letter
  split at letter
  · have range := toNat_of_isAlpha letter
    simp only [isBlank, CharTable.contains, blank, List.any_cons, List.any_nil]
    simp
    omega
  · refine Bool.eq_false_iff.2 fun blanks => ?_
    simp only [isBlank, CharTable.contains, List.any_eq_true, Bool.and_eq_true,
      decide_eq_true_eq] at blanks letter
    obtain ⟨letters, memberLetters, low, high⟩ := letter
    obtain ⟨blanks, memberBlanks, low', high'⟩ := blanks
    have apart := blank_disjoint_alphabetic blanks memberBlanks letters memberLetters
    omega

theorem isBlank_eq_false_of_isDigit {c : Char} (digit : c.isDigit = true) : isBlank c = false := by
  have range := toNat_of_isDigit digit
  simp only [isBlank, CharTable.contains, blank, List.any_cons, List.any_nil]
  simp
  omega

/-- A run of a class in front of a text that does not go on with the class. -/
theorem takeWhile_append_of_stopsAt {isPart : Char → Bool} {cs rest : List Char}
    (parts : ∀ c ∈ cs, isPart c = true) (stops : StopsAt isPart rest) :
    (cs ++ rest).takeWhile isPart = cs := by
  rw [List.takeWhile_append_of_pos parts]
  cases rest with
  | nil => simp
  | cons c rest =>
    rw [stopsAt_cons] at stops
    simp [stops]

end Text

/-- Decimal digits are read as the number they show. -/
theorem Number.ofDigits_toDigits (n : Nat) : ofDigits (Nat.toDigits 10 n) = n := by
  have single : ∀ k < 10, (Nat.digitChar k).toNat - '0'.toNat = k := by decide
  induction n using Nat.strongRecOn with
  | ind n ih =>
    rw [Nat.toDigits_eq_if (by decide)]
    split
    · rename_i small
      simpa [ofDigits] using single n small
    · rename_i large
      have quotient := ih (n / 10) (by omega)
      unfold ofDigits at quotient ⊢
      rw [List.foldl_append, quotient, List.foldl_cons, List.foldl_nil,
        single (n % 10) (Nat.mod_lt n (by decide))]
      omega

namespace Guard

open Text (StopsAt)

theorem isBlank_eq_false_of_isWordStart {c : Char} (start : isWordStart c = true) :
    Text.isBlank c = false := by
  rcases Bool.or_eq_true_iff.1 start with same | letter
  · rw [beq_iff_eq.1 same]
    decide
  · exact Text.isBlank_eq_false_of_isAlphabetic letter

theorem isDigit_eq_false_of_isWordStart {c : Char} (start : isWordStart c = true) :
    c.isDigit = false := by
  refine Bool.eq_false_iff.2 fun digit => ?_
  have range := Text.toNat_of_isDigit digit
  rcases Bool.or_eq_true_iff.1 start with same | letter
  · rw [beq_iff_eq.1 same] at range
    exact absurd range (by decide)
  · have ascii : c.toNat < 128 := by omega
    rw [Text.isAlphabetic, if_pos ascii] at letter
    have := Text.toNat_of_isAlpha letter
    omega

theorem isWordPart_of_isDigit {c : Char} (digit : c.isDigit = true) : isWordPart c = true := by
  have range := Text.toNat_of_isDigit digit
  have ascii : c.toNat < 128 := by omega
  simp [isWordPart, Text.isAlphanumeric, ascii, Char.isAlphanum, digit]

/-- A text that does not go on with a word does not go on with a number. -/
theorem stopsAt_isDigit {rest : List Char} (stops : StopsAt isWordPart rest) :
    StopsAt Char.isDigit rest := by
  intro c first
  refine Bool.eq_false_iff.2 fun digit => ?_
  have part := isWordPart_of_isDigit digit
  rw [stops c first] at part
  cases part

/-! ### Pieces of text -/

/-- The characters, in front of the rest of a text, are read as tokens of the given kinds, after
which the rest is read. -/
def Lexes (cs : List Char) (kinds : List TokenKind) (rest : List Char) : Prop :=
  ∀ pos, ∃ (ts : List Token) (after : Nat), ts.map Token.kind = kinds ∧
    tokensFrom pos (cs ++ rest) = (ts ++ ·) <$> tokensFrom after rest

namespace Lexes

variable {cs more rest : List Char} {kinds others : List TokenKind}

theorem append (first : Lexes cs kinds (more ++ rest)) (second : Lexes more others rest) :
    Lexes (cs ++ more) (kinds ++ others) rest := by
  intro pos
  obtain ⟨ts, middle, same, lexed⟩ := first pos
  obtain ⟨us, after, same', lexed'⟩ := second middle
  refine ⟨ts ++ us, after, by rw [List.map_append, same, same'], ?_⟩
  rw [List.append_assoc, lexed, lexed']
  cases tokensFrom after rest <;> simp [Functor.map, Except.map]

/-- A piece of text with one more character behind it. -/
theorem cons {c : Char} (first : Lexes [c] kinds (more ++ rest)) (second : Lexes more others rest) :
    Lexes (c :: more) (kinds ++ others) rest := first.append second

theorem nil (rest : List Char) : Lexes [] [] rest := by
  intro pos
  refine ⟨[], pos, rfl, ?_⟩
  rw [List.nil_append]
  cases tokensFrom pos rest <;> rfl

theorem blank (rest : List Char) : Lexes [' '] [] rest := by
  intro pos
  refine ⟨[], pos + ' '.utf8Size, rfl, ?_⟩
  rw [List.singleton_append, tokensFrom, if_pos (by decide)]
  cases tokensFrom (pos + ' '.utf8Size) rest <;> rfl

/-- One token. -/
theorem ofLexeme {c : Char} {kind : TokenKind} (visible : Text.isBlank c = false)
    (found : ∀ pos, lexeme pos c (cs ++ rest) = .ok ⟨kind, cs.length⟩) :
    Lexes (c :: cs) [kind] rest := by
  intro pos
  refine ⟨[⟨kind, pos⟩], pos + (c.utf8Size + byteLength cs), rfl, ?_⟩
  rw [List.cons_append, tokensFrom, if_neg (by simp [visible]), found pos]
  change (tokensFrom (pos + (c.utf8Size + byteLength ((cs ++ rest).take cs.length)))
    ((cs ++ rest).drop cs.length) >>= _) = _
  rw [List.take_left, List.drop_left]
  cases tokensFrom (pos + (c.utf8Size + byteLength cs)) rest <;> rfl

end Lexes

/-! ### Words and numbers -/

/-- The characters form a word. -/
def isWord : List Char → Bool
  | [] => false
  | c :: cs => isWordStart c && cs.all isWordPart

/-- The text is a word and no truth value. -/
def isName (name : String) : Bool := isWord name.toList && name != "true" && name != "false"

theorem lexes_word {cs rest : List Char} (word : isWord cs = true)
    (stops : StopsAt isWordPart rest) : Lexes cs [wordKind (String.ofList cs)] rest := by
  cases cs with
  | nil => cases word
  | cons c cs =>
    obtain ⟨start, parts⟩ := Bool.and_eq_true_iff.1 word
    refine .ofLexeme (isBlank_eq_false_of_isWordStart start) fun pos => ?_
    rw [lexeme, if_neg (by simp [isDigit_eq_false_of_isWordStart start]), if_pos start,
      Text.takeWhile_append_of_stopsAt (List.all_eq_true.1 parts) stops]

theorem isWord_of_isName {name : String} (named : isName name = true) :
    isWord name.toList = true := by
  simp only [isName, Bool.and_eq_true] at named
  exact named.1.1

theorem lexes_name {name : String} {rest : List Char} (named : isName name = true)
    (stops : StopsAt isWordPart rest) : Lexes name.toList [.ident name] rest := by
  simp only [isName, Bool.and_eq_true, bne_iff_ne] at named
  obtain ⟨⟨word, notTrue⟩, notFalse⟩ := named
  have lexes := lexes_word word stops
  rwa [String.ofList_toList, wordKind, if_neg notTrue, if_neg notFalse] at lexes

theorem lexes_bool {rest : List Char} (b : Bool) (stops : StopsAt isWordPart rest) :
    Lexes (Term.bool b).chars [.bool b] rest := by
  cases b
  · exact lexes_word (by decide) stops
  · exact lexes_word (by decide) stops

theorem lexes_int {n : Int} {rest : List Char} (nonneg : 0 ≤ n) (fits : n ≤ Number.greatest)
    (stops : StopsAt isWordPart rest) : Lexes (Number.intChars n) [.int n] rest := by
  obtain ⟨n, rfl⟩ := Int.eq_ofNat_of_zero_le nonneg
  obtain ⟨c, cs, digits, digit⟩ := Number.toDigits_eq_cons n
  change Lexes (Nat.toDigits 10 n) _ _
  have allDigits : ∀ d ∈ cs, d.isDigit = true := fun d member =>
    Nat.isDigit_of_mem_toDigits (b := 10) (n := n) (by decide) (by decide)
      (digits ▸ List.mem_cons_of_mem c member)
  have value : Number.fit? (Number.ofDigits (c :: cs)) = some (n : Int) := by
    have bounded : Number.Fits n := ⟨by unfold Number.least; omega, fits⟩
    rw [← digits, Number.ofDigits_toDigits, Number.fit?, if_pos bounded]
  rw [digits]
  refine .ofLexeme (Text.isBlank_eq_false_of_isDigit digit) fun pos => ?_
  rw [lexeme, if_pos digit, Text.takeWhile_append_of_stopsAt allDigits (stopsAt_isDigit stops)]
  simp only [value]
  rfl

/-! ### Text literals -/

/-- A character is read back from its form in a text literal. -/
theorem literalBody_escapeChar (c : Char) (cs : List Char) :
    literalBody '"' (Term.escapeChar c ++ cs) =
      (literalBody '"' cs).map fun (body, extent) =>
        (c :: body, extent + (Term.escapeChar c).length) := by
  unfold Term.escapeChar
  split
  · rename_i same
    rw [beq_iff_eq.1 same]
    simp [literalBody, unescape]
  split
  · rename_i same
    rw [beq_iff_eq.1 same]
    simp [literalBody, unescape]
  split
  · rename_i same
    rw [beq_iff_eq.1 same]
    simp [literalBody, unescape]
  split
  · rename_i same
    rw [beq_iff_eq.1 same]
    simp [literalBody, unescape]
  · rename_i mark backslash _ _
    have noMark : c ≠ '"' := by simpa using mark
    have noBackslash : c ≠ '\\' := by simpa using backslash
    simp [literalBody, noMark, noBackslash]

theorem literalBody_flatMap (cs rest : List Char) :
    literalBody '"' (cs.flatMap Term.escapeChar ++ '"' :: rest) =
      some (cs, (cs.flatMap Term.escapeChar).length + 1) := by
  induction cs with
  | nil => simp [literalBody]
  | cons c cs ih =>
    rw [List.flatMap_cons, List.append_assoc, literalBody_escapeChar, ih, Option.map_some,
      List.length_append]
    simp only [Option.some.injEq, Prod.mk.injEq, true_and]
    omega

theorem lexes_str (s : String) (rest : List Char) :
    Lexes (Term.literalChars s.toList) [.str s] rest := by
  refine .ofLexeme (by decide) fun pos => ?_
  rw [lexeme, if_neg (by decide), if_neg (by decide), if_pos (by decide), List.append_assoc,
    List.singleton_append, literalBody_flatMap]
  simp

/-! ### Signs -/

theorem lexes_op (o : BinaryOp) (rest : List Char) :
    Lexes o.symbol.toList [.op o] (' ' :: rest) := by
  cases o
  all_goals exact .ofLexeme (by decide) fun pos => rfl

/-- Brackets, dots and commas are tokens in front of any text. -/
theorem lexes_mark {c : Char} {kind : TokenKind} (rest : List Char)
    (mark : (c, kind) ∈ [('(', TokenKind.lparen), (')', .rparen), ('[', .lbracket),
      (']', .rbracket), ('.', .dot), (',', .comma)]) : Lexes [c] [kind] rest := by
  simp only [List.mem_cons, Prod.mk.injEq, List.not_mem_nil, or_false] at mark
  rcases mark with ⟨rfl, rfl⟩ | ⟨rfl, rfl⟩ | ⟨rfl, rfl⟩ | ⟨rfl, rfl⟩ | ⟨rfl, rfl⟩ | ⟨rfl, rfl⟩
  all_goals exact .ofLexeme (by decide) fun pos => rfl

theorem lexes_minus (rest : List Char) : Lexes ['-'] [.op .sub] rest :=
  .ofLexeme (by decide) fun pos => rfl

theorem lexes_bang {rest : List Char} (stops : StopsAt (· == '=') rest) :
    Lexes ['!'] [.bang] rest := by
  refine .ofLexeme (by decide) fun pos => ?_
  cases rest with
  | nil => rfl
  | cons c rest =>
    have apart : c ≠ '=' := by simpa using stops
    rw [lexeme, if_neg (by decide), if_neg (by decide), if_neg (by decide)]
    simp [symbol?, apart]

/-- No name starts with an equals sign. -/
theorem stopsAt_name {name : String} (named : isName name = true) (rest : List Char) :
    StopsAt (· == '=') (name.toList ++ rest) := by
  have word := isWord_of_isName named
  cases chars : name.toList with
  | nil =>
    rw [chars] at word
    cases word
  | cons c cs =>
    rw [chars] at word
    have start := (Bool.and_eq_true_iff.1 word).1
    refine (Text.stopsAt_cons ..).2 (beq_eq_false_iff_ne.2 ?_)
    rintro rfl
    exact absurd start (by decide)

/-- No number starts with an equals sign. -/
theorem stopsAt_intChars (n : Int) (rest : List Char) :
    StopsAt (· == '=') (Number.intChars n ++ rest) := by
  obtain ⟨c, cs, chars, first⟩ := Number.intChars_eq_cons n
  rw [chars]
  refine (Text.stopsAt_cons ..).2 (beq_eq_false_iff_ne.2 ?_)
  rintro rfl
  exact absurd first (by decide)

/-! ### Tokens that can be shown again -/

/-- The token is one that a text can hold: a number that is read is bounded and not negative, and
an identifier is a name. -/
def TokenKind.isProper : TokenKind → Bool
  | .int n => 0 ≤ n && n ≤ Number.greatest
  | .ident name => isName name
  | _ => true

theorem isProper_wordKind {cs : List Char} (word : isWord cs = true) :
    (wordKind (String.ofList cs)).isProper = true := by
  unfold wordKind
  split
  · rfl
  split
  · rfl
  · rename_i notTrue notFalse
    simp [TokenKind.isProper, isName, word, notTrue, notFalse]

theorem isProper_of_symbol? {c : Char} {cs : List Char} {found : Lexeme}
    (symbol : symbol? c cs = some found) : found.kind.isProper = true := by
  unfold symbol? at symbol
  split at symbol
  all_goals cases symbol
  all_goals rfl

theorem isProper_of_lexeme {pos : Nat} {c : Char} {cs : List Char} {found : Lexeme}
    (lexed : lexeme pos c cs = .ok found) : found.kind.isProper = true := by
  unfold lexeme at lexed
  split at lexed
  · dsimp only at lexed
    split at lexed
    · rename_i n fitted
      obtain rfl := Except.ok.inj lexed
      unfold Number.fit? at fitted
      split at fitted
      · rename_i bounded
        obtain rfl := Option.some.inj fitted
        simpa [TokenKind.isProper] using bounded.2
      · cases fitted
    · cases lexed
  split at lexed
  · rename_i start
    obtain rfl := Except.ok.inj lexed
    exact isProper_wordKind (Bool.and_eq_true_iff.2 ⟨start, List.all_takeWhile⟩)
  split at lexed
  · split at lexed
    · obtain rfl := Except.ok.inj lexed
      rfl
    · cases lexed
  · split at lexed
    · rename_i symbol
      obtain rfl := Except.ok.inj lexed
      exact isProper_of_symbol? symbol
    · cases lexed

/-- Every token of a text could be shown again. -/
theorem isProper_of_tokensFrom {pos : Nat} {cs : List Char} {ts : List Token}
    (lexed : tokensFrom pos cs = .ok ts) : ∀ token ∈ ts, token.kind.isProper = true := by
  fun_induction tokensFrom pos cs generalizing ts with
  | case1 =>
    obtain rfl := Except.ok.inj lexed
    intro token member
    cases member
  | case2 pos c cs blank ih => exact ih lexed
  | case3 pos c cs visible ih =>
    rw [bind_eq_ok] at lexed
    obtain ⟨found, first, lexed⟩ := lexed
    rw [bind_eq_ok] at lexed
    obtain ⟨rest, later, lexed⟩ := lexed
    obtain rfl := Except.ok.inj lexed
    intro token member
    rcases List.mem_cons.1 member with rfl | member
    · exact isProper_of_lexeme first
    · exact ih found later token member

end Guard

end GuardedNet
