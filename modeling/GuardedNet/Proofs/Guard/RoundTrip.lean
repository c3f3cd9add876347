import GuardedNet.Proofs.Guard.Completeness
import GuardedNet.Proofs.Guard.Lexing

/-!
# Reading what is shown

The text that shows a term is read as the same term, unless an access has a sign in front of its
target: `(-a)[b]` is shown as `-a[b]`, which is the text of another term. Main statement:
`parse_render`.
-/

namespace GuardedNet.Guard

open Text (StopsAt)

namespace Term

/-! ### Shapes of terms -/

mutual

/-- Whether a term can come from a text: its names are names, and its numbers are bounded and not
negative. -/
def isProper : Term → Bool
  | .binary _ lhs rhs => lhs.isProper && rhs.isProper
  | .unary _ operand => operand.isProper
  | .ident name => isName name
  | .int n => 0 ≤ n && n ≤ Number.greatest
  | .str _ | .bool _ => true
  | .index target position => target.isProper && position.isProper
  | .field target name => target.isProper && isName name
  | .call name args => isName name && allProper args

/-- Whether all terms can come from a text. -/
def allProper : List Term → Bool
  | [] => true
  | t :: ts => t.isProper && allProper ts

end

/-- Whether a term has a sign in front. -/
def isSigned : Term → Bool
  | .unary _ _ => true
  | _ => false

mutual

/-- Whether some access in a term has a target with a sign in front. -/
def hasSignedTarget : Term → Bool
  | .binary _ lhs rhs => lhs.hasSignedTarget || rhs.hasSignedTarget
  | .unary _ operand => operand.hasSignedTarget
  | .index target position =>
    target.isSigned || target.hasSignedTarget || position.hasSignedTarget
  | .field target _ => target.isSigned || target.hasSignedTarget
  | .call _ args => anySignedTarget args
  | .ident _ | .int _ | .str _ | .bool _ => false

/-- Whether some access in one of the terms has a target with a sign in front. -/
def anySignedTarget : List Term → Bool
  | [] => false
  | t :: ts => t.hasSignedTarget || anySignedTarget ts

end

end Term

/-! ### The tokens of a shown term -/

/-- The token of a sign. -/
def UnaryOp.kind : UnaryOp → TokenKind
  | .not => .bang
  | .neg => .op .sub

namespace Term

mutual

/-- The kinds of the tokens in the text that shows a term. -/
def kinds : Term → List TokenKind
  | .binary op lhs rhs => .lparen :: (lhs.kinds ++ .op op :: (rhs.kinds ++ [.rparen]))
  | .unary op operand => op.kind :: operand.kinds
  | .ident name => [.ident name]
  | .int n => [.int n]
  | .str s => [.str s]
  | .bool b => [.bool b]
  | .index target position => target.kinds ++ .lbracket :: (position.kinds ++ [.rbracket])
  | .field target name => target.kinds ++ [.dot, .ident name]
  | .call name args => .ident name :: .lparen :: (argKinds args ++ [.rparen])

/-- The kinds of the tokens of arguments, with commas between them. -/
def argKinds : List Term → List TokenKind
  | [] => []
  | [arg] => arg.kinds
  | arg :: rest => arg.kinds ++ .comma :: argKinds rest

end

/-- No term is shown with an equals sign in front, which would join a `!` before it. -/
theorem stopsAt_chars : ∀ (t : Term) (rest : List Char), t.isProper = true →
    StopsAt (· == '=') (t.chars ++ rest)
  | .binary _ _ _, _, _ => by simp [chars]
  | .unary op _, _, _ => by cases op <;> simp [chars, UnaryOp.symbol]
  | .ident name, rest, proper => by
    rw [isProper] at proper
    rw [chars]
    exact stopsAt_name proper rest
  | .int n, rest, _ => by
    rw [chars]
    exact stopsAt_intChars n rest
  | .str s, _, _ => by simp [chars, literalChars]
  | .bool b, _, _ => by cases b <;> simp [chars]
  | .index target position, rest, proper => by
    rw [isProper, Bool.and_eq_true] at proper
    rw [chars, List.append_assoc]
    exact target.stopsAt_chars _ proper.1
  | .field target name, rest, proper => by
    rw [isProper, Bool.and_eq_true] at proper
    rw [chars, List.append_assoc]
    exact target.stopsAt_chars _ proper.1
  | .call name args, rest, proper => by
    rw [isProper, Bool.and_eq_true] at proper
    rw [chars, List.append_assoc]
    exact stopsAt_name proper.1 _

/-- A word ends before a blank, a bracket, a dot or a comma. -/
theorem stopsAt_delimiter {c : Char} (rest : List Char)
    (delimiter : c ∈ [' ', '(', ')', '[', ']', '.', ',']) : StopsAt isWordPart (c :: rest) := by
  rw [Text.stopsAt_cons]
  simp only [List.mem_cons, List.not_mem_nil, or_false] at delimiter
  rcases delimiter with rfl | rfl | rfl | rfl | rfl | rfl | rfl
  all_goals decide

mutual

/-- The text that shows a term has the tokens of the term. -/
theorem lexes_chars : ∀ (t : Term) (rest : List Char), t.isProper = true →
    StopsAt isWordPart rest → Lexes t.chars t.kinds rest
  | .binary op lhs rhs, rest, proper, _ => by
    rw [isProper, Bool.and_eq_true] at proper
    rw [chars, kinds]
    refine (lexes_mark _ (by decide)).cons ?_
    refine (lhs.lexes_chars _ proper.1 (stopsAt_delimiter _ (by decide))).append ?_
    refine (Lexes.blank _).cons ((lexes_op op _).append ((Lexes.blank _).cons ?_))
    refine (rhs.lexes_chars _ proper.2 (stopsAt_delimiter _ (by decide))).append ?_
    exact lexes_mark rest (by decide)
  | .unary op operand, rest, proper, stops => by
    rw [isProper] at proper
    have inner := operand.lexes_chars rest proper stops
    rw [chars, kinds]
    cases op with
    | not => exact (lexes_bang (operand.stopsAt_chars rest proper)).cons inner
    | neg => exact (lexes_minus _).cons inner
  | .ident name, rest, proper, stops => by
    rw [isProper] at proper
    rw [chars, kinds]
    exact lexes_name proper stops
  | .int n, rest, proper, stops => by
    simp only [isProper, Bool.and_eq_true, decide_eq_true_eq] at proper
    rw [chars, kinds]
    exact lexes_int proper.1 proper.2 stops
  | .str s, rest, _, _ => by
    rw [chars, kinds]
    exact lexes_str s rest
  | .bool b, rest, _, stops => by
    rw [kinds]
    exact lexes_bool b stops
  | .index target position, rest, proper, _ => by
    rw [isProper, Bool.and_eq_true] at proper
    rw [chars, kinds]
    refine (target.lexes_chars _ proper.1 (stopsAt_delimiter _ (by decide))).append ?_
    refine (lexes_mark _ (by decide)).cons ?_
    refine (position.lexes_chars _ proper.2 (stopsAt_delimiter _ (by decide))).append ?_
    exact lexes_mark rest (by decide)
  | .field target name, rest, proper, stops => by
    rw [isProper, Bool.and_eq_true] at proper
    rw [chars, kinds]
    refine (target.lexes_chars _ proper.1 (stopsAt_delimiter _ (by decide))).append ?_
    exact (lexes_mark _ (by decide)).cons (lexes_name proper.2 stops)
  | .call name args, rest, proper, _ => by
    rw [isProper, Bool.and_eq_true] at proper
    rw [chars, kinds]
    refine .append (lexes_name proper.1 (stopsAt_delimiter _ (by decide))) ?_
    refine (lexes_mark _ (by decide)).cons ?_
    refine (lexes_argChars args _ proper.2 (stopsAt_delimiter _ (by decide))).append ?_
    exact lexes_mark rest (by decide)

theorem lexes_argChars : ∀ (args : List Term) (rest : List Char), allProper args = true →
    StopsAt isWordPart rest → Lexes (argChars args) (argKinds args) rest
  | [], rest, _, _ => by
    rw [argChars, argKinds]
    exact .nil rest
  | [arg], rest, proper, stops => by
    rw [allProper, Bool.and_eq_true] at proper
    rw [argChars, argKinds]
    exact arg.lexes_chars rest proper.1 stops
  | arg :: next :: more, rest, proper, stops => by
    rw [allProper, Bool.and_eq_true] at proper
    rw [argChars, argKinds]
    · refine (arg.lexes_chars _ proper.1 (stopsAt_delimiter _ (by decide))).append ?_
      refine (lexes_mark _ (by decide)).cons ((Lexes.blank _).cons ?_)
      exact lexes_argChars (next :: more) rest proper.2 stops
    · simp
    · simp

end

/-- The text that shows a term is read as tokens of the kinds of the term. -/
theorem tokenize_render {t : Term} (proper : t.isProper = true) :
    ∃ ts, tokenize t.render = .ok ts ∧ ts.map Token.kind = t.kinds := by
  obtain ⟨ts, after, kinds, lexed⟩ := t.lexes_chars [] proper (Text.stopsAt_nil _) 0
  refine ⟨ts, ?_, kinds⟩
  rw [List.append_nil, tokensFrom] at lexed
  rw [tokenize, render, String.toList_ofList, lexed]
  simp [Functor.map, Except.map]

end Term

/-! ### Reading the tokens of a shown term -/

theorem exists_token_of_map_kind {ts : List Token} {kind : TokenKind} {kinds : List TokenKind}
    (same : ts.map Token.kind = kind :: kinds) :
    ∃ pos rest, ts = ⟨kind, pos⟩ :: rest ∧ rest.map Token.kind = kinds := by
  obtain ⟨⟨kind, pos⟩, rest, rfl, rfl, later⟩ := List.map_eq_cons_iff.1 same
  exact ⟨pos, rest, rfl, later⟩

theorem exists_last_of_map_kind {ts : List Token} {kind : TokenKind} {kinds : List TokenKind}
    (same : ts.map Token.kind = kinds ++ [kind]) :
    ∃ front pos, ts = front ++ [⟨kind, pos⟩] ∧ front.map Token.kind = kinds := by
  obtain ⟨front, back, rfl, first, last⟩ := List.map_eq_append_iff.1 same
  obtain ⟨pos, rest, rfl, none⟩ := exists_token_of_map_kind last
  obtain rfl := List.map_eq_nil_iff.1 none
  exact ⟨front, pos, rfl, first⟩

/-- The tokens are read as the term, and accesses may follow them unless the term has a sign in
front. Every level of a term takes two levels of reading at most, one for the operation and one
for the parentheses around it. -/
def ReadsBack (t : Term) (ts : List Token) : Prop :=
  Complete (2 * t.height - 1) (.signed t) ts ∧
    (t.isSigned = false → Complete (2 * t.height - 1) (.access t) ts)

theorem ReadsBack.ofAccess {t : Term} {ts : List Token}
    (complete : Complete (2 * t.height - 1) (.access t) ts) : ReadsBack t ts :=
  ⟨complete.unsigned, fun _ => complete⟩

theorem ReadsBack.chain {t : Term} {ts : List Token} {level : Nat} (reads : ReadsBack t ts)
    (low : level ≤ 6) : Complete (2 * t.height - 1) (.chain level t) ts :=
  reads.1.operand.loosen low

/-- A term of a single token. -/
theorem ReadsBack.ofToken {t : Term} {ts : List Token} {kind : TokenKind}
    (same : ts.map Token.kind = [kind])
    (reads : ∀ bound room pos rest,
      readPrimary (bound + 1) room (⟨kind, pos⟩ :: rest) = .ok (t, rest)) : ReadsBack t ts := by
  obtain ⟨pos, rest, rfl, none⟩ := exists_token_of_map_kind same
  obtain rfl := List.map_eq_nil_iff.1 none
  have atom : Complete (2 * t.height - 1) (.atom t) [⟨kind, pos⟩] :=
    .literal fun bound room => reads bound room pos
  exact .ofAccess (atom.plain (Nat.succ_pos _))

namespace Term

mutual

/-- The tokens of a term without a sign in front of a target are read as the term. -/
theorem readsBack : ∀ (t : Term) {ts : List Token}, t.hasSignedTarget = false →
    ts.map Token.kind = t.kinds → ReadsBack t ts
  | .binary op lhs rhs, ts, plain, same => by
    rw [hasSignedTarget, Bool.or_eq_false_iff] at plain
    rw [kinds] at same
    obtain ⟨opening, inner, rfl, inside⟩ := exists_token_of_map_kind same
    obtain ⟨ls, later, rfl, sameLeft, sameLater⟩ := List.map_eq_append_iff.1 inside
    obtain ⟨pos, after, rfl, sameAfter⟩ := exists_token_of_map_kind sameLater
    obtain ⟨rs, closing, rfl, sameRight⟩ := exists_last_of_map_kind sameAfter
    have first := (lhs.readsBack plain.1 sameLeft).chain (Nat.le_succ_of_le op.precedence_le)
    have second := (rhs.readsBack plain.2 sameRight).chain (Nat.succ_le_succ op.precedence_le)
    have height : (Term.binary op lhs rhs).height = max lhs.height rhs.height + 1 := by
      rw [Term.height]
    have positive := lhs.height_pos
    have chain : Complete (2 * (Term.binary op lhs rhs).height - 2)
        (.chain op.precedence (.binary op lhs rhs)) (ls ++ ⟨.op op, pos⟩ :: rs) :=
      first.binary second (by omega) (by omega) (by omega)
    have atom : Complete (2 * (Term.binary op lhs rhs).height - 1) (.atom (.binary op lhs rhs))
        (⟨.lparen, opening⟩ :: ((ls ++ ⟨.op op, pos⟩ :: rs) ++ [⟨.rparen, closing⟩])) :=
      (chain.loosen (show 1 ≤ op.precedence by cases op <;> decide)).parens (by omega)
    rw [List.append_assoc, List.cons_append] at atom
    exact .ofAccess (atom.plain (Nat.succ_pos _))
  | .unary op operand, ts, plain, same => by
    rw [hasSignedTarget] at plain
    rw [kinds] at same
    obtain ⟨pos, rest, rfl, sameRest⟩ := exists_token_of_map_kind same
    have inner := (operand.readsBack plain sameRest).1
    have positive := operand.height_pos
    have height : (Term.unary op operand).height = operand.height + 1 := by
      rw [Term.height]
    refine ⟨?_, fun unsigned => by cases unsigned⟩
    cases op with
    | not => exact inner.not (by omega)
    | neg => exact inner.neg (by omega)
  | .ident name, ts, _, same => by
    rw [kinds] at same
    exact .ofToken same fun _ _ _ _ => by rw [readPrimary]
  | .int n, ts, _, same => by
    rw [kinds] at same
    exact .ofToken same fun _ _ _ _ => by rw [readPrimary]
  | .str s, ts, _, same => by
    rw [kinds] at same
    exact .ofToken same fun _ _ _ _ => by rw [readPrimary]
  | .bool b, ts, _, same => by
    rw [kinds] at same
    exact .ofToken same fun _ _ _ _ => by rw [readPrimary]
  | .index target position, ts, plain, same => by
    simp only [hasSignedTarget, Bool.or_eq_false_iff] at plain
    rw [kinds] at same
    obtain ⟨front, later, rfl, sameFront, sameLater⟩ := List.map_eq_append_iff.1 same
    obtain ⟨opening, inner, rfl, inside⟩ := exists_token_of_map_kind sameLater
    obtain ⟨middle, closing, rfl, sameMiddle⟩ := exists_last_of_map_kind inside
    have first := (target.readsBack plain.1.2 sameFront).2 plain.1.1
    have second := (position.readsBack plain.2 sameMiddle).chain (show 1 ≤ 6 by decide)
    have height : (Term.index target position).height = max target.height position.height + 1 := by
      rw [Term.height]
    have positive := target.height_pos
    exact .ofAccess (first.index second (by omega) (by omega) (by omega))
  | .field target name, ts, plain, same => by
    simp only [hasSignedTarget, Bool.or_eq_false_iff] at plain
    rw [kinds] at same
    obtain ⟨front, later, rfl, sameFront, sameLater⟩ := List.map_eq_append_iff.1 same
    obtain ⟨dot, last, rfl, sameLast⟩ := exists_token_of_map_kind sameLater
    obtain ⟨pos, rest, rfl, none⟩ := exists_token_of_map_kind sameLast
    obtain rfl := List.map_eq_nil_iff.1 none
    have first := (target.readsBack plain.2 sameFront).2 plain.1
    have height : (Term.field target name).height = target.height + 1 := by
      rw [Term.height]
    exact .ofAccess (first.field (by omega) (by omega))
  | .call name args, ts, plain, same => by
    rw [hasSignedTarget] at plain
    rw [kinds] at same
    obtain ⟨pos, later, rfl, sameLater⟩ := exists_token_of_map_kind same
    obtain ⟨opening, inner, rfl, inside⟩ := exists_token_of_map_kind sameLater
    obtain ⟨middle, closing, rfl, sameMiddle⟩ := exists_last_of_map_kind inside
    have callee : Complete 0 (.access (.ident name)) [⟨.ident name, pos⟩] :=
      Complete.plain (.literal fun _ _ _ => by rw [readPrimary]) (Nat.succ_pos _)
    have arguments := (readsBackAll args plain sameMiddle).1
    have height : (Term.call name args).height = heightAll args + 1 := by
      rw [Term.height]
    exact .ofAccess (callee.call arguments (Nat.zero_le _) (by omega) (by omega))

theorem readsBackAll : ∀ (args : List Term) {ts : List Token}, anySignedTarget args = false →
    ts.map Token.kind = argKinds args →
    Complete (2 * heightAll args) (.arguments args) ts ∧
      (args ≠ [] → Complete (2 * heightAll args) (.list args) ts)
  | [], ts, _, same => by
    rw [argKinds, List.map_eq_nil_iff] at same
    subst same
    exact ⟨.empty, fun nonempty => absurd rfl nonempty⟩
  | [arg], ts, plain, same => by
    rw [anySignedTarget, Bool.or_eq_false_iff] at plain
    rw [argKinds] at same
    have only := (arg.readsBack plain.1 same).chain (show 1 ≤ 6 by decide)
    have height : arg.height ≤ heightAll [arg] := by
      rw [heightAll]
      exact Nat.le_max_left _ _
    have list : Complete (2 * heightAll [arg]) (.list [arg]) ts := only.last (by omega)
    exact ⟨list.given, fun _ => list⟩
  | arg :: next :: more, ts, plain, same => by
    rw [anySignedTarget, Bool.or_eq_false_iff] at plain
    simp only [argKinds] at same
    obtain ⟨front, later, rfl, sameFront, sameLater⟩ := List.map_eq_append_iff.1 same
    obtain ⟨pos, rest, rfl, sameRest⟩ := exists_token_of_map_kind sameLater
    have first := (arg.readsBack plain.1 sameFront).chain (show 1 ≤ 6 by decide)
    have others := (readsBackAll (next :: more) plain.2 sameRest).2 (List.cons_ne_nil _ _)
    have height : heightAll (arg :: next :: more) = max arg.height (heightAll (next :: more)) := by
      rw [heightAll]
    have list : Complete (2 * heightAll (arg :: next :: more)) (.list (arg :: next :: more))
        (front ++ ⟨.comma, pos⟩ :: rest) := first.more others (by omega) (by omega)
    exact ⟨list.given, fun _ => list⟩

end

/-- The text of a term without a sign in front of a target is read as the term, given two levels
of room for each of its own. -/
theorem readExpression_render {t : Term} (proper : t.isProper = true)
    (plain : t.hasSignedTarget = false) :
    ∃ ts, tokenize t.render = .ok ts ∧ ∀ room, 2 * t.height ≤ room →
      readExpression (6 * ts.length + 12) room ts = .ok (t, []) := by
  obtain ⟨ts, lexed, same⟩ := tokenize_render proper
  refine ⟨ts, lexed, fun room deep => ?_⟩
  have positive := t.height_pos
  have whole := (t.readsBack plain same).chain (show 1 ≤ 6 by decide)
  have read := whole.expression (show _ < room by omega) closes_nil
    (show 6 * ts.length + 4 ≤ 6 * ts.length + 12 by omega)
  rwa [List.append_nil] at read

end Term

theorem parse_eq_of_tokenize {text : String} {ts : List Token} (lexed : tokenize text = .ok ts) :
    parse text = parseTokens ts := by
  rw [parse, lexed]
  rfl

/-- Without a sign in front of a target only the depth can stand in the way. -/
theorem parse_render_of_plain {t : Term} (proper : t.isProper = true)
    (plain : t.hasSignedTarget = false) :
    parse t.render = .ok t ∨ parse t.render = .error .depthExceeded := by
  obtain ⟨ts, lexed, reads⟩ := Term.readExpression_render proper plain
  rw [parse_eq_of_tokenize lexed]
  have wide := reads _ (Nat.le_max_left (2 * t.height) maxDepth)
  rcases (steady _).expression ts (Nat.le_max_right (2 * t.height) maxDepth) with out | same
  · right
    rw [parseTokens, out]
    rfl
  · left
    rw [parseTokens_eq_ok_iff, same, wide]

theorem parse_render_of_height_le {t : Term} (proper : t.isProper = true)
    (plain : t.hasSignedTarget = false) (low : t.height ≤ 64) : parse t.render = .ok t := by
  obtain ⟨ts, lexed, reads⟩ := Term.readExpression_render proper plain
  rw [parse_eq_of_tokenize lexed, parseTokens_eq_ok_iff]
  exact reads maxDepth (by rw [maxDepth]; omega)

/-! ### Accesses under signs -/

namespace Term

/-- The access, made under the signs in front of its target. -/
def underSigns (access : Term → Term) : Term → Term
  | .unary op operand => .unary op (operand.underSigns access)
  | t => access t

mutual

/-- The term that the text of a term stands for: signs come after accesses. -/
def settled : Term → Term
  | .binary op lhs rhs => .binary op lhs.settled rhs.settled
  | .unary op operand => .unary op operand.settled
  | .index target position => target.settled.underSigns (.index · position.settled)
  | .field target name => target.settled.underSigns (.field · name)
  | .call name args => .call name (settledAll args)
  | .ident name => .ident name
  | .int n => .int n
  | .str s => .str s
  | .bool b => .bool b

/-- The terms that the texts of terms stand for. -/
def settledAll : List Term → List Term
  | [] => []
  | t :: ts => t.settled :: settledAll ts

end

theorem chars_underSigns {access : Term → Term} {suffix : List Char}
    (shown : ∀ t, (access t).chars = t.chars ++ suffix) (t : Term) :
    (t.underSigns access).chars = t.chars ++ suffix := by
  fun_induction underSigns with
  | case1 op operand ih => rw [chars, chars, ih, List.append_assoc]
  | case2 t => exact shown t

theorem isProper_underSigns {access : Term → Term} {proper : Bool}
    (kept : ∀ t, (access t).isProper = (t.isProper && proper)) (t : Term) :
    (t.underSigns access).isProper = (t.isProper && proper) := by
  fun_induction underSigns with
  | case1 op operand ih => rw [isProper, isProper, ih]
  | case2 t => exact kept t

mutual

/-- A term and the term that its text stands for are shown alike. -/
theorem chars_settled : ∀ t : Term, t.settled.chars = t.chars
  | .binary op lhs rhs => by
    rw [settled, chars, chars, lhs.chars_settled, rhs.chars_settled]
  | .unary op operand => by rw [settled, chars, chars, operand.chars_settled]
  | .index target position => by
    rw [settled, chars, ← position.chars_settled, ← target.chars_settled]
    exact chars_underSigns (fun t => by rw [chars]) _
  | .field target name => by
    rw [settled, chars, ← target.chars_settled]
    exact chars_underSigns (fun t => by rw [chars]) _
  | .call name args => by rw [settled, chars, chars, argChars_settledAll]
  | .ident _ => by rw [settled]
  | .int _ => by rw [settled]
  | .str _ => by rw [settled]
  | .bool _ => by rw [settled]

theorem argChars_settledAll : ∀ args : List Term, argChars (settledAll args) = argChars args
  | [] => by rw [settledAll]
  | [arg] => by rw [settledAll, settledAll, argChars, argChars, arg.chars_settled]
  | arg :: next :: more => by
    have later := argChars_settledAll (next :: more)
    rw [settledAll] at later
    rw [settledAll, settledAll]
    simp only [argChars, arg.chars_settled, later]

end

mutual

theorem isProper_settled : ∀ t : Term, t.settled.isProper = t.isProper
  | .binary op lhs rhs => by
    rw [settled, isProper, isProper, lhs.isProper_settled, rhs.isProper_settled]
  | .unary op operand => by rw [settled, isProper, isProper, operand.isProper_settled]
  | .index target position => by
    rw [settled, isProper, ← target.isProper_settled, ← position.isProper_settled]
    exact isProper_underSigns (fun t => by rw [isProper]) _
  | .field target name => by
    rw [settled, isProper, ← target.isProper_settled]
    exact isProper_underSigns (fun t => by rw [isProper]) _
  | .call name args => by rw [settled, isProper, isProper, allProper_settledAll]
  | .ident _ => by rw [settled]
  | .int _ => by rw [settled]
  | .str _ => by rw [settled]
  | .bool _ => by rw [settled]

theorem allProper_settledAll : ∀ args : List Term, allProper (settledAll args) = allProper args
  | [] => by rw [settledAll]
  | arg :: rest => by
    rw [settledAll, allProper, allProper, arg.isProper_settled, allProper_settledAll rest]

end

theorem hasSignedTarget_underSigns {access : Term → Term}
    (plain : ∀ t : Term, t.isSigned = false → t.hasSignedTarget = false →
      (access t).hasSignedTarget = false) (t : Term) (inner : t.hasSignedTarget = false) :
    (t.underSigns access).hasSignedTarget = false := by
  fun_induction underSigns with
  | case1 op operand ih =>
    rw [hasSignedTarget] at inner ⊢
    exact ih inner
  | case2 t unsigned =>
    refine plain t ?_ inner
    cases t with
    | unary op operand => exact absurd rfl (unsigned op operand)
    | _ => rfl

mutual

/-- Settling leaves no sign in front of a target. -/
theorem hasSignedTarget_settled : ∀ t : Term, t.settled.hasSignedTarget = false
  | .binary op lhs rhs => by
    rw [settled, hasSignedTarget, lhs.hasSignedTarget_settled, rhs.hasSignedTarget_settled]
    rfl
  | .unary op operand => by
    rw [settled, hasSignedTarget, operand.hasSignedTarget_settled]
  | .index target position => by
    rw [settled]
    refine hasSignedTarget_underSigns (fun t unsigned inner => ?_) _ target.hasSignedTarget_settled
    rw [hasSignedTarget, unsigned, inner, position.hasSignedTarget_settled]
    rfl
  | .field target name => by
    rw [settled]
    refine hasSignedTarget_underSigns (fun t unsigned inner => ?_) _ target.hasSignedTarget_settled
    rw [hasSignedTarget, unsigned, inner]
    rfl
  | .call name args => by rw [settled, hasSignedTarget, anySignedTarget_settledAll]
  | .ident _ => by rw [settled, hasSignedTarget]
  | .int _ => by rw [settled, hasSignedTarget]
  | .str _ => by rw [settled, hasSignedTarget]
  | .bool _ => by rw [settled, hasSignedTarget]

theorem anySignedTarget_settledAll : ∀ args : List Term,
    anySignedTarget (settledAll args) = false
  | [] => by rw [settledAll, anySignedTarget]
  | arg :: rest => by
    rw [settledAll, anySignedTarget, arg.hasSignedTarget_settled, anySignedTarget_settledAll rest]
    rfl

end

theorem render_settled (t : Term) : t.settled.render = t.render := by
  rw [render, render, chars_settled]

end Term

/-- A term that is read back from its own text has no sign in front of a target: the text is also
that of the settled term, which is what is read. -/
theorem hasSignedTarget_of_parse_render {t : Term} (proper : t.isProper = true)
    (read : parse t.render = .ok t) : t.hasSignedTarget = false := by
  have settledRead := parse_render_of_plain (t.isProper_settled.trans proper)
    t.hasSignedTarget_settled
  rw [t.render_settled, read] at settledRead
  rcases settledRead with same | out
  · rw [Except.ok.inj same]
    exact t.hasSignedTarget_settled
  · cases out

/-! ### The terms that are read -/

/-- Whether the terms of the phrase can come from a text. -/
def Phrase.isProper : Phrase → Bool
  | .chain _ t | .signed t | .access t | .atom t => t.isProper
  | .arguments args | .list args => Term.allProper args

theorem Derives.isProper {phrase : Phrase} {ts : List Token} (derived : Derives phrase ts)
    (tokens : ∀ token ∈ ts, token.kind.isProper = true) : phrase.isProper = true := by
  induction derived with
  | loosen _ ih | operand _ ih | unsigned _ ih | plain _ ih | given _ ih | last _ ih =>
    simpa [Phrase.isProper, Term.allProper] using ih tokens
  | empty => rfl
  | _ =>
    simp only [List.forall_mem_append, List.forall_mem_cons] at tokens
    simp_all [Phrase.isProper, Term.isProper, Term.allProper, TokenKind.isProper]

theorem isProper_of_parse {text : String} {t : Term} (read : parse text = .ok t) :
    t.isProper = true := by
  rw [parse, bind_eq_ok] at read
  obtain ⟨ts, lexed, read⟩ := read
  obtain ⟨used, rfl, derived⟩ := (sound _).expression (parseTokens_eq_ok_iff.1 read)
  refine derived.isProper fun token member => ?_
  exact isProper_of_tokensFrom lexed token (List.mem_append_left _ member)

/-- Showing and reading are inverse up to the depth, but for accesses to a target with a sign in
front. Every term that is read is proper, so that this covers whatever a text can hold. -/
theorem parse_render (t : Term) (proper : t.isProper = true) :
    (t.height ≤ 64 → (parse t.render = .ok t ↔ t.hasSignedTarget = false)) ∧
    (t.hasSignedTarget = false →
      parse t.render = .ok t ∨ parse t.render = .error .depthExceeded) ∧
    ∀ text u, parse text = .ok u → u.isProper = true := by
  refine ⟨fun low => ⟨hasSignedTarget_of_parse_render proper, fun plain => ?_⟩,
    parse_render_of_plain proper, fun text u => isProper_of_parse⟩
  exact parse_render_of_height_le proper plain low

/-- The text `-a[0].x` stands for the sign of an access. -/
theorem parse_render_signs :
    let access (t : Term) := Term.field (.index t (.int 0)) "x"
    let sign := Term.unary .neg
    parse (sign (access (.ident "a"))).render = .ok (sign (access (.ident "a"))) ∧
      parse (access (sign (.ident "a"))).render ≠ .ok (access (sign (.ident "a"))) := by
  intro access sign
  constructor
  · exact ((parse_render (sign (access (.ident "a"))) (by decide +kernel)).1 (by decide)).2
      (by decide)
  · intro read
    have plain := ((parse_render _ (by decide +kernel)).1 (by decide)).1 read
    cases plain

end GuardedNet.Guard
