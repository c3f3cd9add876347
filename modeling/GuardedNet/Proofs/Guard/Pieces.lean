import Mathlib.Data.String.Basic
import GuardedNet.Proofs.Guard.Lexing

/-!
# Tokens by themselves

A text is cut at the offsets of its tokens into pieces, and each piece is read by itself as its
own token. What a token is depends on the characters it takes up and on the one after them, so it
stays the same if the text behind it is cut off (`lexeme_of_isPrefix`). Main statement: tokens are
read piece by piece, up to the end or up to the offset of an error (`tokenize_piecewise`).
-/

namespace GuardedNet

/-- A run of a class at the front stays the same if the text after it is cut off. -/
theorem Text.takeWhile_take_append {isPart : Char → Bool} {cs rest : List Char}
    (front : rest <+: cs.drop (cs.takeWhile isPart).length) :
    (cs.take (cs.takeWhile isPart).length ++ rest).takeWhile isPart = cs.takeWhile isPart := by
  have run : cs.take (cs.takeWhile isPart).length = cs.takeWhile isPart :=
    (List.prefix_iff_eq_take.1 (List.takeWhile_prefix isPart)).symm
  have after : cs.drop (cs.takeWhile isPart).length = cs.dropWhile isPart := by
    nth_rewrite 2 [← List.takeWhile_append_dropWhile (p := isPart) (l := cs)]
    exact List.drop_left
  rw [run]
  refine takeWhile_append_of_stopsAt (List.all_eq_true.1 List.all_takeWhile) ?_
  intro c first
  obtain ⟨back, whole⟩ := after ▸ front
  have head : (cs.dropWhile isPart).head? = some c := by
    rw [← whole, List.head?_append, first, Option.some_or]
  have stops := List.head?_dropWhile_not isPart cs
  rw [head] at stops
  simpa using stops

namespace Guard

/-! ### Offsets of errors -/

/-- The offset that an error names. -/
def ParseError.offset? : ParseError → Option Nat
  | .unexpectedChar _ pos | .unterminatedString pos | .invalidNumber _ pos
  | .unexpectedToken _ pos _ | .notCallable pos => some pos
  | .unexpectedEnd _ | .depthExceeded => none

/-- The same error at another offset. -/
def ParseError.movedTo (pos : Nat) : ParseError → ParseError
  | .unexpectedChar c _ => .unexpectedChar c pos
  | .unterminatedString _ => .unterminatedString pos
  | .invalidNumber text _ => .invalidNumber text pos
  | .unexpectedToken found _ expected => .unexpectedToken found pos expected
  | .notCallable _ => .notCallable pos
  | .unexpectedEnd expected => .unexpectedEnd expected
  | .depthExceeded => .depthExceeded

/-- What stands at the front of a text does not depend on where that is. -/
theorem lexeme_movedTo (pos other : Nat) (c : Char) (cs : List Char) :
    lexeme other c cs = (lexeme pos c cs).mapError (ParseError.movedTo other) := by
  unfold lexeme
  split
  · dsimp only
    split <;> rfl
  split
  · rfl
  split
  · split <;> rfl
  · split <;> rfl

theorem offset?_of_lexeme {pos : Nat} {c : Char} {cs : List Char} {cause : ParseError}
    (failed : lexeme pos c cs = .error cause) : cause.offset? = some pos := by
  unfold lexeme at failed
  split at failed
  · dsimp only at failed
    split at failed
    · cases failed
    · cases failed
      rfl
  split at failed
  · cases failed
  split at failed
  · split at failed
    · cases failed
    · cases failed
      rfl
  · split at failed
    · cases failed
    · cases failed
      rfl

/-! ### Text cut off behind a token -/

theorem literalBody_cons {mark c : Char} (noEscape : c ≠ '\\') (cs : List Char) :
    literalBody mark (c :: cs) =
      if c == mark then some ([], 1)
      else (literalBody mark cs).map fun (body, extent) => (c :: body, extent + 1) := by
  simp [literalBody, noEscape]

/-- A text literal ends with its closing mark, whatever comes after. -/
theorem literalBody_take {mark : Char} (noEscape : mark ≠ '\\') {cs body : List Char}
    {extent : Nat} (read : literalBody mark cs = some (body, extent)) (rest : List Char) :
    literalBody mark (cs.take extent ++ rest) = some (body, extent) := by
  fun_induction literalBody mark cs generalizing body extent with
  | case1 => cases read
  | case2 c cs ih =>
    obtain ⟨⟨inner, width⟩, later, same⟩ := Option.map_eq_some_iff.1 read
    cases same
    rw [List.take_succ_cons, List.take_succ_cons, List.cons_append, List.cons_append, literalBody,
      ih later]
    rfl
  | case3 c cs _ closing =>
    cases read
    obtain rfl := beq_iff_eq.1 closing
    rw [List.take_succ_cons, List.cons_append, literalBody_cons noEscape, if_pos closing]
  | case4 => cases read
  | case5 c cs _ inside plain ih =>
    obtain ⟨⟨inner, width⟩, later, same⟩ := Option.map_eq_some_iff.1 read
    cases same
    rw [List.take_succ_cons, List.cons_append, literalBody_cons (by simpa using plain),
      if_neg inside, ih later]
    rfl

theorem symbol?_of_isPrefix {c : Char} {cs rest : List Char} {found : Lexeme}
    (read : symbol? c cs = some found) (front : rest <+: cs.drop found.extent) :
    symbol? c (cs.take found.extent ++ rest) = some found := by
  unfold symbol? at read
  split at read
  case h_7 | h_8 | h_9 =>
    -- the short form of a sign that an equals sign would make longer
    rename_i short
    cases read
    obtain ⟨back, rfl⟩ := front
    cases rest with
    | nil => rfl
    | cons d rest =>
      have apart : d ≠ '=' := by
        rintro rfl
        exact short _ rfl
      simp [symbol?, apart]
  all_goals cases read
  all_goals rfl

/-- A token stays the same if the text after it is cut off. -/
theorem lexeme_of_isPrefix {pos : Nat} {c : Char} {cs rest : List Char} {found : Lexeme}
    (read : lexeme pos c cs = .ok found) (front : rest <+: cs.drop found.extent) :
    lexeme pos c (cs.take found.extent ++ rest) = .ok found := by
  unfold lexeme at read ⊢
  split at read
  · rename_i digit
    rw [if_pos digit]
    dsimp only at read ⊢
    split at read
    · rename_i n fitted
      cases read
      have same := Text.takeWhile_take_append front
      rw [List.length_cons, Nat.add_sub_cancel, same, fitted]
      rfl
    · cases read
  split at read
  · rename_i noDigit start
    rw [if_neg noDigit, if_pos start]
    cases read
    rw [Text.takeWhile_take_append front]
  split at read
  · rename_i noDigit noStart quote
    rw [if_neg noDigit, if_neg noStart, if_pos quote]
    split at read
    · rename_i body extent inside
      cases read
      have noEscape : c ≠ '\\' := by
        rintro rfl
        exact absurd quote (by decide)
      rw [literalBody_take noEscape inside]
    · cases read
  · rename_i noDigit noStart noQuote
    rw [if_neg noDigit, if_neg noStart, if_neg noQuote]
    split at read
    · rename_i sign
      cases read
      rw [symbol?_of_isPrefix sign front]
    · cases read

/-! ### Pieces -/

theorem byteLength_eq (cs : List Char) : byteLength cs = String.utf8Len cs := by
  induction cs with
  | nil => rfl
  | cons c cs ih =>
    rw [String.utf8Len_cons, ← ih, Nat.add_comm]
    rfl

theorem byteLength_append (cs ds : List Char) :
    byteLength (cs ++ ds) = byteLength cs + byteLength ds := by
  rw [byteLength_eq, byteLength_eq, byteLength_eq, String.utf8Len_append]

theorem byteLength_pos {cs : List Char} (visible : cs ≠ []) : 0 < byteLength cs := by
  rw [byteLength_eq, Nat.pos_iff_ne_zero]
  exact fun none => visible (String.utf8Len_eq_zero.1 none)

theorem tokensFrom_of_blank {cs : List Char} (blank : ∀ c ∈ cs, Text.isBlank c = true) (pos : Nat) :
    tokensFrom pos cs = .ok [] := by
  induction cs generalizing pos with
  | nil => rw [tokensFrom]
  | cons c cs ih =>
    rw [tokensFrom, if_pos (blank c (List.mem_cons_self ..))]
    exact ih (fun d member => blank d (List.mem_cons_of_mem _ member)) _

theorem take_append_of_isPrefix {cs rest : List Char} {n : Nat} (front : rest <+: cs.drop n) :
    (cs.take n ++ rest).take n = cs.take n ∧ (cs.take n ++ rest).drop n = rest := by
  rcases Nat.le_total n cs.length with inside | outside
  · have width : (cs.take n).length = n := List.length_take_of_le inside
    exact ⟨List.take_left' width, List.drop_left' width⟩
  · rw [List.drop_of_length_le outside, List.prefix_nil] at front
    rw [front, List.append_nil, List.take_of_length_le outside]
    exact ⟨List.take_of_length_le outside, List.drop_of_length_le outside⟩

/-- After a token the text that follows is read, also if that is cut off somewhere. -/
theorem tokensFrom_lexeme {pos : Nat} {c : Char} {cs rest : List Char} {found : Lexeme}
    (visible : ¬Text.isBlank c = true) (read : lexeme pos c cs = .ok found)
    (front : rest <+: cs.drop found.extent) (other : Nat) :
    tokensFrom other (c :: cs.take found.extent ++ rest) =
      (⟨found.kind, other⟩ :: ·) <$>
        tokensFrom (other + byteLength (c :: cs.take found.extent)) rest := by
  have again : lexeme other c (cs.take found.extent ++ rest) = .ok found := by
    rw [lexeme_movedTo pos, lexeme_of_isPrefix read front]
    rfl
  obtain ⟨taken, dropped⟩ := take_append_of_isPrefix front
  rw [List.cons_append, tokensFrom, if_neg visible, again]
  change (tokensFrom (other + (c.utf8Size + byteLength
    ((cs.take found.extent ++ rest).take found.extent)))
    ((cs.take found.extent ++ rest).drop found.extent) >>= _) = _
  rw [taken, dropped]
  rfl

theorem ne_nil_of_tokensFrom {pos : Nat} {cs : List Char} {token : Token} {tokens : List Token}
    (read : tokensFrom pos cs = .ok (token :: tokens)) : cs ≠ [] := by
  rintro rfl
  rw [tokensFrom] at read
  cases read

/-- The offset of a token, or that of the end if there are not as many tokens. -/
def tokenStart (stop : Nat) (tokens : List Token) (i : Nat) : Nat :=
  (tokens[i]?.map Token.pos).getD stop

/-- The text is cut into pieces, one after the other from an offset on, that are each read by
themselves as one token. -/
inductive Pieces : Nat → List Char → List Token → Prop where
  | done (pos : Nat) : Pieces pos [] []
  | next {pos : Nat} {piece rest : List Char} {kind : TokenKind} {tokens : List Token}
      (single : tokensFrom 0 piece = .ok [⟨kind, 0⟩])
      (later : Pieces (pos + byteLength piece) rest tokens) :
      Pieces pos (piece ++ rest) (⟨kind, pos⟩ :: tokens)

/-- A text that can be read is made of blanks and of pieces. -/
theorem pieces_of_tokensFrom {pos : Nat} {cs : List Char} {tokens : List Token}
    (read : tokensFrom pos cs = .ok tokens) :
    ∃ lead rest, cs = lead ++ rest ∧ (∀ c ∈ lead, Text.isBlank c = true) ∧
      Pieces (pos + byteLength lead) rest tokens := by
  fun_induction tokensFrom pos cs generalizing tokens with
  | case1 pos =>
    cases read
    exact ⟨[], [], rfl, List.forall_mem_nil _, .done _⟩
  | case2 pos c cs blank ih =>
    obtain ⟨lead, rest, rfl, blanks, pieces⟩ := ih read
    refine ⟨c :: lead, rest, rfl, List.forall_mem_cons.2 ⟨blank, blanks⟩, ?_⟩
    rwa [Nat.add_assoc] at pieces
  | case3 pos c cs visible ih =>
    obtain ⟨found, first, read⟩ := bind_eq_ok.1 read
    obtain ⟨others, later, read⟩ := bind_eq_ok.1 read
    cases read
    obtain ⟨lead, rest, split, blanks, pieces⟩ := ih found later
    -- the blanks behind a token belong to its piece
    have single : tokensFrom 0 (c :: cs.take found.extent ++ lead) = .ok [⟨found.kind, 0⟩] := by
      rw [tokensFrom_lexeme visible first ⟨rest, split.symm⟩, tokensFrom_of_blank blanks]
      rfl
    have whole : c :: cs = (c :: cs.take found.extent ++ lead) ++ rest := by
      rw [List.append_assoc, ← split, List.cons_append, List.take_append_drop]
    refine ⟨[], c :: cs, rfl, List.forall_mem_nil _, ?_⟩
    rw [whole]
    refine .next single ?_
    rw [byteLength_append, ← Nat.add_assoc]
    exact pieces

/-- A text that cannot be read is made of one that can and of one that fails at its front. -/
theorem failure_of_tokensFrom {pos : Nat} {cs : List Char} {cause : ParseError}
    (failed : tokensFrom pos cs = .error cause) :
    ∃ front back, cs = front ++ back ∧ back ≠ [] ∧
      cause.offset? = some (pos + byteLength front) ∧
      (∀ other, ∃ tokens, tokensFrom other front = .ok tokens) ∧
      ∀ other, tokensFrom other back = .error (cause.movedTo other) := by
  fun_induction tokensFrom pos cs with
  | case1 => cases failed
  | case2 pos c cs blank ih =>
    obtain ⟨front, back, rfl, nonempty, offset, reads, fails⟩ := ih failed
    refine ⟨c :: front, back, rfl, nonempty, ?_, fun other => ?_, fails⟩
    · rwa [Nat.add_assoc] at offset
    · rw [tokensFrom, if_pos blank]
      exact reads _
  | case3 pos c cs visible ih =>
    rcases bind_eq_error.1 failed with failed | ⟨found, first, failed⟩
    · refine ⟨[], c :: cs, rfl, List.cons_ne_nil _ _, offset?_of_lexeme failed,
        fun other => ⟨[], by rw [tokensFrom]⟩, fun other => ?_⟩
      rw [tokensFrom, if_neg visible, lexeme_movedTo pos, failed]
      rfl
    · have later : tokensFrom (pos + (c.utf8Size + byteLength (cs.take found.extent)))
          (cs.drop found.extent) = .error cause := by
        rcases bind_eq_error.1 failed with later | ⟨tokens, -, impossible⟩
        · exact later
        · cases impossible
      obtain ⟨front, back, split, nonempty, offset, reads, fails⟩ := ih found later
      refine ⟨c :: cs.take found.extent ++ front, back, ?_, nonempty, ?_, fun other => ?_, fails⟩
      · rw [List.append_assoc, ← split, List.cons_append, List.take_append_drop]
      · rw [byteLength_append, ← Nat.add_assoc]
        exact offset
      · obtain ⟨tokens, read⟩ := reads (other + byteLength (c :: cs.take found.extent))
        exact ⟨_, by rw [tokensFrom_lexeme visible first ⟨back, split.symm⟩, read]; rfl⟩

namespace Pieces

variable {pos : Nat} {cs : List Char} {tokens : List Token} (pieces : Pieces pos cs tokens)
include pieces

theorem le_pos : ∀ token ∈ tokens, pos ≤ token.pos := by
  induction pieces with
  | done => exact List.forall_mem_nil _
  | next _ _ ih =>
    refine List.forall_mem_cons.2 ⟨Nat.le_refl _, fun token member => ?_⟩
    exact Nat.le_trans (Nat.le_add_right _ _) (ih token member)

theorem pairwise : (tokens.map Token.pos).Pairwise (· < ·) := by
  induction pieces with
  | done => exact .nil
  | @next pos piece rest kind tokens single later ih =>
    refine List.pairwise_cons.2 ⟨?_, ih⟩
    have nonempty := ne_nil_of_tokensFrom single
    intro offset member
    obtain ⟨token, among, rfl⟩ := List.mem_map.1 member
    calc
      pos < pos + byteLength piece := Nat.lt_add_of_pos_right (byteLength_pos nonempty)
      _ ≤ token.pos := later.le_pos token among

theorem tokenStart_zero : tokenStart (pos + byteLength cs) tokens 0 = pos := by
  cases pieces with
  | done => rfl
  | next => rfl

/-- Each token is that of a piece, which goes up to the next token or to the end. -/
theorem exists_piece {i : Nat} {token : Token} (here : tokens[i]? = some token) :
    ∃ before piece after, cs = before ++ piece ++ after ∧
      token.pos = pos + byteLength before ∧
      tokenStart (pos + byteLength cs) tokens (i + 1) = token.pos + byteLength piece ∧
      tokensFrom 0 piece = .ok [⟨token.kind, 0⟩] := by
  induction pieces generalizing i with
  | done => cases here
  | @next pos piece rest kind tokens single later ih =>
    rw [byteLength_append, ← Nat.add_assoc]
    cases i with
    | zero =>
      obtain rfl := Option.some.inj here
      exact ⟨[], piece, rest, rfl, rfl, later.tokenStart_zero, single⟩
    | succ i =>
      obtain ⟨before, inner, after, rfl, start, stop, alone⟩ := ih here
      refine ⟨piece ++ before, inner, after, ?_, ?_, stop, alone⟩
      · simp only [List.append_assoc]
      · rw [start, byteLength_append, Nat.add_assoc]

end Pieces

/-! ### Slices -/

/-- The text from one byte to another. -/
def slice (text : String) (start stop : Nat) : String :=
  String.Pos.Raw.extract text ⟨start⟩ ⟨stop⟩

/-- A character of the text starts at the offset. -/
def StartsAt (text : String) (offset : Nat) : Prop :=
  String.Pos.Raw.IsValid text ⟨offset⟩ ∧ offset < text.utf8ByteSize

section

variable {text : String}

theorem byteLength_toList (text : String) : byteLength text.toList = text.utf8ByteSize := by
  rw [byteLength_eq, String.utf8Len_toList]

theorem slice_eq {before piece after : List Char} (whole : text.toList = before ++ piece ++ after) :
    slice text (byteLength before) (byteLength before + byteLength piece) =
      String.ofList piece := by
  rw [slice, byteLength_eq, byteLength_eq, ← String.extract_of_valid before piece after, ← whole,
    String.ofList_toList]

theorem slice_front {front back : List Char} (whole : text.toList = front ++ back) :
    slice text 0 (byteLength front) = String.ofList front := by
  have cut : text.toList = [] ++ front ++ back := whole
  rw [← slice_eq cut]
  exact congrArg (slice text 0) (Nat.zero_add _).symm

theorem slice_back {front back : List Char} (whole : text.toList = front ++ back) :
    slice text (byteLength front) text.utf8ByteSize = String.ofList back := by
  have cut : text.toList = front ++ back ++ [] := whole.trans (List.append_nil _).symm
  rw [← slice_eq cut, ← byteLength_toList, whole, byteLength_append]

theorem startsAt_of_append {front back : List Char} (whole : text.toList = front ++ back)
    (nonempty : back ≠ []) : StartsAt text (byteLength front) := by
  constructor
  · refine String.Pos.Raw.isValid_iff_exists_append.2
      ⟨String.ofList front, String.ofList back, ?_, ?_⟩
    · rw [← String.ofList_append, ← whole, String.ofList_toList]
    · rw [String.rawEndPos_ofList, byteLength_eq]
  · rw [← byteLength_toList, whole, byteLength_append]
    exact Nat.lt_add_of_pos_right (byteLength_pos nonempty)

/-- From a token up to the next one or to the end the text is read by itself as that token. -/
theorem Pieces.tokenize_slice {lead rest : List Char} {tokens : List Token}
    (pieces : Pieces (byteLength lead) rest tokens) (whole : text.toList = lead ++ rest) {i : Nat}
    {token : Token} (here : tokens[i]? = some token) :
    StartsAt text token.pos ∧
      tokenize (slice text token.pos (tokenStart text.utf8ByteSize tokens (i + 1))) =
        .ok [⟨token.kind, 0⟩] := by
  obtain ⟨before, piece, after, rfl, start, stop, single⟩ := pieces.exists_piece here
  have cut : text.toList = (lead ++ before) ++ piece ++ after := by
    rw [whole]
    simp only [List.append_assoc]
  rw [← byteLength_append, ← whole, byteLength_toList] at stop
  rw [← byteLength_append] at start
  rw [stop, start]
  refine ⟨startsAt_of_append (cut.trans (List.append_assoc ..)) ?_, ?_⟩
  · exact List.append_ne_nil_of_left_ne_nil (ne_nil_of_tokensFrom single) _
  · rw [slice_eq cut, tokenize, String.toList_ofList, single]

end

/-- Tokens are read piece by piece. If a text can be read then its tokens start at characters of
it, one after the other, the text before the first one is blank, and from each token up to the
next one or to the end the text is read by itself as that token. If a text cannot be read then the
error names the start of a character, the text before that can be read, and the text from there on
fails by itself with the same error at its front. -/
theorem tokenize_piecewise (text : String) :
    (∀ tokens, tokenize text = .ok tokens →
      (tokens.map Token.pos).Pairwise (· < ·) ∧ (∀ token ∈ tokens, StartsAt text token.pos) ∧
      Text.isBlankText (slice text 0 (tokenStart text.utf8ByteSize tokens 0)) = true ∧
      (tokens = [] → Text.isBlankText text = true) ∧
      ∀ i token, tokens[i]? = some token →
        tokenize (slice text token.pos (tokenStart text.utf8ByteSize tokens (i + 1))) =
          .ok [⟨token.kind, 0⟩]) ∧
    ∀ cause, tokenize text = .error cause →
      ∃ offset, cause.offset? = some offset ∧ StartsAt text offset ∧
        (∃ tokens, tokenize (slice text 0 offset) = .ok tokens) ∧
        tokenize (slice text offset text.utf8ByteSize) = .error (cause.movedTo 0) := by
  constructor
  · intro tokens read
    obtain ⟨lead, rest, whole, blanks, pieces⟩ := pieces_of_tokensFrom read
    rw [Nat.zero_add] at pieces
    refine ⟨pieces.pairwise, fun token member => ?_, ?_, ?_, fun i token here =>
      (pieces.tokenize_slice whole here).2⟩
    · obtain ⟨i, here⟩ := List.mem_iff_getElem?.1 member
      exact (pieces.tokenize_slice whole here).1
    · have first := pieces.tokenStart_zero
      rw [← byteLength_append, ← whole, byteLength_toList] at first
      rw [first, slice_front whole, Text.isBlankText, String.toList_ofList]
      exact List.all_eq_true.2 blanks
    · rintro rfl
      cases pieces
      rw [Text.isBlankText, whole, List.append_nil]
      exact List.all_eq_true.2 blanks
  · intro cause failed
    obtain ⟨front, back, whole, nonempty, offset, reads, fails⟩ := failure_of_tokensFrom failed
    rw [Nat.zero_add] at offset
    refine ⟨byteLength front, offset, startsAt_of_append whole nonempty, ?_, ?_⟩
    · rw [slice_front whole, tokenize, String.toList_ofList]
      exact reads 0
    · rw [slice_back whole, tokenize, String.toList_ofList]
      exact fails 0

/-- A letter of two bytes directly before a sign, and before a blank and a character that no token
starts with. -/
theorem tokenize_piecewise_accent :
    tokenize "é<=" = .ok [⟨.ident "é", 0⟩, ⟨.op .le, 2⟩] ∧
      tokenize (slice "é<=" 0 2) = .ok [⟨.ident "é", 0⟩] ∧
      tokenize (slice "é<=" 2 4) = .ok [⟨.op .le, 0⟩] ∧
      tokenize "é ?" = .error (.unexpectedChar '?' 3) ∧
      (∃ tokens, tokenize (slice "é ?" 0 3) = .ok tokens) ∧
      tokenize (slice "é ?" 3 4) = .error (.unexpectedChar '?' 0) := by
  have letter : ¬Text.isBlank 'é' = true := by decide
  have start : isWordStart 'é' = true := by decide +kernel
  have word (cs : List Char) (stops : cs.takeWhile isWordPart = []) :
      lexeme 0 'é' cs = .ok ⟨.ident "é", 0⟩ := by
    rw [lexeme, if_neg (by decide), if_pos start, stops]
    rfl
  have read : tokenize "é<=" = .ok [⟨.ident "é", 0⟩, ⟨.op .le, 2⟩] := by
    change tokensFrom 0 ('é' :: ['<', '=']) = _
    rw [tokensFrom, if_neg letter, word _ (by decide)]
    change (tokensFrom 2 ['<', '='] >>= _) = _
    rw [tokensFrom, if_neg (by decide)]
    change (tokensFrom 4 [] >>= _) >>= _ = _
    rw [tokensFrom]
    rfl
  have failed : tokenize "é ?" = .error (.unexpectedChar '?' 3) := by
    change tokensFrom 0 ('é' :: [' ', '?']) = _
    rw [tokensFrom, if_neg letter, word _ (by decide)]
    change (tokensFrom 2 [' ', '?'] >>= _) = _
    rw [tokensFrom, if_pos (by decide), tokensFrom, if_neg (by decide)]
    rfl
  obtain ⟨-, -, -, -, alone⟩ := (tokenize_piecewise "é<=").1 _ read
  obtain ⟨offset, named, -, before, after⟩ := (tokenize_piecewise "é ?").2 _ failed
  obtain rfl := Option.some.inj named
  exact ⟨read, alone 0 _ rfl, alone 1 _ rfl, failed, before, after⟩

end Guard

end GuardedNet
