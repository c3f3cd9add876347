import GuardedNet.Proofs.Guard.Grammar

/-!
# The readers accept the grammar

The other half of what ties the readers to the grammar: what is derived is read, given a bound
in proportion to the tokens and room for as many levels as there are tokens. With less room the
readers give the same answer or report the depth.
-/

namespace GuardedNet.Guard

/-! ### Less room -/

/-- The same outcome, unless the depth is exceeded. -/
def UpToDepth {α : Type} (outcome other : Except ParseError α) : Prop :=
  outcome = .error .depthExceeded ∨ outcome = other

namespace UpToDepth

variable {α β : Type}

theorem refl (outcome : Except ParseError α) : UpToDepth outcome outcome := Or.inr rfl

theorem bind {first other : Except ParseError α} {next next' : α → Except ParseError β}
    (start : UpToDepth first other) (goOn : ∀ a, UpToDepth (next a) (next' a)) :
    UpToDepth (first >>= next) (other >>= next') := by
  rcases start with rfl | rfl
  · exact Or.inl rfl
  · cases first with
    | error cause => exact refl _
    | ok a => exact goOn a

theorem nested {room wide : Nat} (less : room ≤ wide) {read read' : Nat → Reading}
    (inner : ∀ {room wide}, room ≤ wide → UpToDepth (read room) (read' wide)) :
    UpToDepth (nested room read) (nested wide read') := by
  cases room with
  | zero => exact Or.inl rfl
  | succ room =>
    cases wide with
    | zero => cases less
    | succ wide => exact inner (Nat.le_of_succ_le_succ less)

theorem fitting {room wide : Nat} (less : room ≤ wide) (t : Term) :
    UpToDepth (fitting room t) (fitting wide t) := by
  unfold Guard.fitting
  split
  · rename_i low
    rw [if_pos (Nat.le_trans low less)]
    exact refl _
  · exact Or.inl rfl

end UpToDepth

/-- With less room the readers give the same answer or report the depth. -/
structure Steady (bound : Nat) : Prop where
  expression : ∀ ts {room wide}, room ≤ wide →
    UpToDepth (readExpression bound room ts) (readExpression bound wide ts)
  binary : ∀ level ts {room wide}, room ≤ wide →
    UpToDepth (readBinary bound room level ts) (readBinary bound wide level ts)
  chain : ∀ level lhs ts {room wide}, room ≤ wide →
    UpToDepth (readChain bound room level lhs ts) (readChain bound wide level lhs ts)
  unary : ∀ ts {room wide}, room ≤ wide →
    UpToDepth (readUnary bound room ts) (readUnary bound wide ts)
  access : ∀ t ts {room wide}, room ≤ wide →
    UpToDepth (readPostfix bound room t ts) (readPostfix bound wide t ts)
  arguments : ∀ ts {room wide}, room ≤ wide →
    UpToDepth (readArguments bound room ts) (readArguments bound wide ts)
  list : ∀ ts {room wide}, room ≤ wide →
    UpToDepth (readArgumentList bound room ts) (readArgumentList bound wide ts)
  primary : ∀ ts {room wide}, room ≤ wide →
    UpToDepth (readPrimary bound room ts) (readPrimary bound wide ts)

namespace Steady

variable {bound : Nat} (steady : Steady bound)
include steady

theorem readExpression_succ (ts : List Token) {room wide : Nat} (less : room ≤ wide) :
    UpToDepth (readExpression (bound + 1) room ts) (readExpression (bound + 1) wide ts) := by
  rw [readExpression, readExpression]
  exact .nested less (steady.binary 1 ts)

theorem readBinary_succ (level : Nat) (ts : List Token) {room wide : Nat} (less : room ≤ wide) :
    UpToDepth (readBinary (bound + 1) room level ts) (readBinary (bound + 1) wide level ts) := by
  rw [readBinary, readBinary]
  exact .bind (steady.unary ts less) fun reading => steady.chain level _ _ less

theorem readChain_succ (level : Nat) (lhs : Term) (ts : List Token) {room wide : Nat}
    (less : room ≤ wide) :
    UpToDepth (readChain (bound + 1) room level lhs ts)
      (readChain (bound + 1) wide level lhs ts) := by
  unfold readChain
  split
  · split
    · exact .refl _
    · refine .bind (.nested less (steady.binary _ _)) fun reading => ?_
      exact .bind (.fitting less _) fun whole => steady.chain _ _ _ less
  · exact .refl _

theorem readUnary_succ (ts : List Token) {room wide : Nat} (less : room ≤ wide) :
    UpToDepth (readUnary (bound + 1) room ts) (readUnary (bound + 1) wide ts) := by
  unfold readUnary
  split
  · exact .bind (.nested less (steady.unary _)) fun reading => .refl _
  · exact .bind (.nested less (steady.unary _)) fun reading => .refl _
  · exact .bind (steady.primary _ less) fun reading => steady.access _ _ less

theorem readPostfix_succ (t : Term) (ts : List Token) {room wide : Nat} (less : room ≤ wide) :
    UpToDepth (readPostfix (bound + 1) room t ts) (readPostfix (bound + 1) wide t ts) := by
  have goOn : ∀ whole rest, UpToDepth
      (fitting room whole >>= fun whole => readPostfix bound room whole rest)
      (fitting wide whole >>= fun whole => readPostfix bound wide whole rest) := fun whole rest =>
    .bind (.fitting less whole) fun whole => steady.access whole rest less
  unfold readPostfix
  split
  · refine .bind (steady.expression _ less) fun reading => ?_
    exact .bind (.refl _) fun rest => goOn _ _
  · exact goOn _ _
  · exact .refl _
  · exact .refl _
  · split
    · exact .bind (steady.arguments _ less) fun reading => goOn _ _
    · exact .refl _
  · exact .refl _

theorem readArguments_succ (ts : List Token) {room wide : Nat} (less : room ≤ wide) :
    UpToDepth (readArguments (bound + 1) room ts) (readArguments (bound + 1) wide ts) := by
  unfold readArguments
  split
  · exact .refl _
  · exact steady.list ts less

theorem readArgumentList_succ (ts : List Token) {room wide : Nat} (less : room ≤ wide) :
    UpToDepth (readArgumentList (bound + 1) room ts) (readArgumentList (bound + 1) wide ts) := by
  unfold readArgumentList
  refine .bind (steady.expression _ less) fun ⟨arg, rest⟩ => ?_
  dsimp only
  split
  · exact .bind (steady.list _ less) fun reading => .refl _
  · exact .refl _
  · exact .refl _
  · exact .refl _

theorem readPrimary_succ (ts : List Token) {room wide : Nat} (less : room ≤ wide) :
    UpToDepth (readPrimary (bound + 1) room ts) (readPrimary (bound + 1) wide ts) := by
  unfold readPrimary
  split
  case h_6 => exact .bind (steady.expression _ less) fun reading => .refl _
  all_goals exact .refl _

end Steady

theorem steady (bound : Nat) : Steady bound := by
  induction bound with
  | zero =>
    constructor
    all_goals intros
    all_goals simp [UpToDepth, readExpression, readBinary, readChain, readUnary, readPostfix,
      readArguments, readArgumentList, readPrimary]
  | succ bound ih =>
    exact {
      expression := ih.readExpression_succ
      binary := ih.readBinary_succ
      chain := ih.readChain_succ
      unary := ih.readUnary_succ
      access := ih.readPostfix_succ
      arguments := ih.readArguments_succ
      list := ih.readArgumentList_succ
      primary := ih.readPrimary_succ }

/-! ### Heights -/

/-- The greatest height of a term of the phrase. -/
def Phrase.height : Phrase → Nat
  | .chain _ t | .signed t | .access t | .atom t => t.height
  | .arguments args | .list args => Term.heightAll args

/-- A term is no higher than the number of its tokens. -/
theorem Derives.height_le {phrase : Phrase} {ts : List Token} (derived : Derives phrase ts) :
    phrase.height ≤ ts.length := by
  induction derived <;>
    simp only [Phrase.height, Term.height, Term.heightAll, List.length_append, List.length_cons,
      List.length_nil] at * <;>
    omega

/-! ### One step of each reader -/

/-- The tokens do not go on with an access or a call. -/
def NoAccess (ts : List Token) : Prop :=
  ∀ token rest, ts = token :: rest →
    token.kind ≠ .lbracket ∧ token.kind ≠ .dot ∧ token.kind ≠ .lparen

theorem NextBelow.mono {level tight : Nat} {ts : List Token} (less : level ≤ tight)
    (next : NextBelow level ts) : NextBelow tight ts := fun o pos rest same =>
  Nat.lt_of_lt_of_le (next o pos rest same) less

theorem fitting_of_height_le {room : Nat} {t : Term} (low : t.height ≤ room) :
    fitting room t = .ok t := if_pos low

theorem readChain_stop {bound room level : Nat} {t : Term} {ts : List Token}
    (next : NextBelow level ts) : readChain (bound + 1) room level t ts = .ok (t, ts) := by
  unfold readChain
  split
  · rw [if_pos (next _ _ _ rfl)]
  · rfl

theorem readChain_op {bound room level : Nat} {lhs rhs : Term} {o : BinaryOp} {pos : Nat}
    {ts rest : List Token} (binds : level ≤ o.precedence)
    (second : readBinary bound room (o.precedence + 1) ts = .ok (rhs, rest))
    (low : (Term.binary o lhs rhs).height ≤ room + 1) :
    readChain (bound + 1) (room + 1) level lhs (⟨.op o, pos⟩ :: ts) =
      readChain bound (room + 1) level (.binary o lhs rhs) rest := by
  rw [readChain, if_neg (Nat.not_lt.2 binds), nested, second]
  change (fitting (room + 1) _ >>= _) = _
  rw [fitting_of_height_le low]
  rfl

theorem readPostfix_stop {bound room : Nat} {t : Term} {ts : List Token} (none : NoAccess ts) :
    readPostfix (bound + 1) room t ts = .ok (t, ts) := by
  unfold readPostfix
  split
  · exact absurd rfl (none _ _ rfl).1
  · exact absurd rfl (none _ _ rfl).2.1
  · exact absurd rfl (none _ _ rfl).2.1
  · exact absurd rfl (none _ _ rfl).2.1
  · exact absurd rfl (none _ _ rfl).2.2
  · rfl

theorem readPostfix_index {bound room : Nat} {t position : Term} {left right : Nat}
    {ts rest : List Token}
    (inner : readExpression bound room ts = .ok (position, ⟨.rbracket, right⟩ :: rest))
    (low : (Term.index t position).height ≤ room) :
    readPostfix (bound + 1) room t (⟨.lbracket, left⟩ :: ts) =
      readPostfix bound room (.index t position) rest := by
  rw [readPostfix, inner]
  change (fitting room _ >>= _) = _
  rw [fitting_of_height_le low]
  rfl

theorem readPostfix_field {bound room : Nat} {t : Term} {name : String} {dot pos : Nat}
    {rest : List Token} (low : (Term.field t name).height ≤ room) :
    readPostfix (bound + 1) room t (⟨.dot, dot⟩ :: ⟨.ident name, pos⟩ :: rest) =
      readPostfix bound room (.field t name) rest := by
  rw [readPostfix, fitting_of_height_le low]
  rfl

theorem readPostfix_call {bound room : Nat} {name : String} {args : List Term} {left : Nat}
    {ts rest : List Token} (inner : readArguments bound room ts = .ok (args, rest))
    (low : (Term.call name args).height ≤ room) :
    readPostfix (bound + 1) room (.ident name) (⟨.lparen, left⟩ :: ts) =
      readPostfix bound room (.call name args) rest := by
  rw [readPostfix, inner]
  change (fitting room _ >>= _) = _
  rw [fitting_of_height_le low]
  rfl

/-- What starts with an atom has no sign in front. -/
theorem readUnary_of_readPrimary {bound room : Nat} {ts rest : List Token} {t : Term}
    (first : readPrimary bound room ts = .ok (t, rest)) :
    readUnary (bound + 1) room ts = readPostfix bound room t rest := by
  unfold readUnary
  split
  · cases bound <;> simp [readPrimary] at first
  · cases bound <;> simp [readPrimary] at first
  · rw [first]
    rfl

theorem readArguments_of_readArgumentList {bound room : Nat} {ts : List Token}
    {reading : List Term × List Token} (given : readArgumentList bound room ts = .ok reading) :
    readArguments (bound + 1) room ts = .ok reading := by
  unfold readArguments
  split
  · -- no term starts with a closing parenthesis: its reader is five calls down
    exfalso
    rcases bound with _ | _ | _ | _ | _ | bound <;> cases room <;>
      simp [readArgumentList, readExpression, nested, readBinary, readUnary, readPrimary, bind,
        Except.bind] at given
  · exact given

theorem readArgumentList_last {bound room pos : Nat} {arg : Term} {ts rest : List Token}
    (first : readExpression bound room ts = .ok (arg, ⟨.rparen, pos⟩ :: rest)) :
    readArgumentList (bound + 1) room ts = .ok ([arg], rest) := by
  rw [readArgumentList, first]
  rfl

theorem readArgumentList_more {bound room pos : Nat} {arg : Term} {args : List Term}
    {ts middle rest : List Token}
    (first : readExpression bound room ts = .ok (arg, ⟨.comma, pos⟩ :: middle))
    (later : readArgumentList bound room middle = .ok (args, rest)) :
    readArgumentList (bound + 1) room ts = .ok (arg :: args, rest) := by
  rw [readArgumentList, first]
  change (readArgumentList bound room middle >>= _) = _
  rw [later]
  rfl

theorem readPrimary_parens {bound room left right : Nat} {t : Term} {ts rest : List Token}
    (inner : readExpression bound room ts = .ok (t, ⟨.rparen, right⟩ :: rest)) :
    readPrimary (bound + 1) room (⟨.lparen, left⟩ :: ts) = .ok (t, rest) := by
  rw [readPrimary, inner]
  rfl

/-! ### Completeness -/

/-- The tokens of the phrase are read as soon as there is room for `need` levels, whatever follows
them that does not belong to the phrase. Readers that go on after the phrase, to more operators or
accesses, are described by where they end up (`outcome`) once there is `enough` of a bound after
the phrase. -/
def Complete (need : Nat) : Phrase → List Token → Prop
  | .chain tight t, ts => ∀ (room level enough : Nat) (rest : List Token) (outcome : Reading),
      level ≤ tight → need ≤ room → NoAccess rest → NextBelow (tight + 1) rest →
      (∀ bound, enough ≤ bound → readChain bound room level t rest = outcome) →
      ∀ bound, enough + 6 * ts.length + 2 ≤ bound →
        readBinary bound room level (ts ++ rest) = outcome
  | .signed t, ts => ∀ (room : Nat) (rest : List Token), need ≤ room → NoAccess rest →
      ∀ bound, 6 * ts.length + 1 ≤ bound → readUnary bound room (ts ++ rest) = .ok (t, rest)
  | .access t, ts => ∀ (room enough : Nat) (rest : List Token) (outcome : Reading),
      need ≤ room →
      (∀ bound, enough ≤ bound → readPostfix bound room t rest = outcome) →
      ∀ bound, enough + 6 * ts.length ≤ bound → readUnary bound room (ts ++ rest) = outcome
  | .atom t, ts => ∀ (room : Nat) (rest : List Token), need ≤ room →
      ∀ bound, 6 * ts.length ≤ bound + 1 → readPrimary bound room (ts ++ rest) = .ok (t, rest)
  | .arguments args, ts => ∀ (room pos : Nat) (rest : List Token), need < room →
      ∀ bound, 6 * ts.length + 6 ≤ bound →
        readArguments bound room (ts ++ ⟨.rparen, pos⟩ :: rest) = .ok (args, rest)
  | .list args, ts => ∀ (room pos : Nat) (rest : List Token), need < room →
      ∀ bound, 6 * ts.length + 5 ≤ bound →
        readArgumentList bound room (ts ++ ⟨.rparen, pos⟩ :: rest) = .ok (args, rest)

/-- The kinds of token that can follow a whole term. -/
def Closes (ts : List Token) : Prop := NoAccess ts ∧ NextBelow 1 ts

theorem Complete.expression {need : Nat} {t : Term} {ts : List Token}
    (complete : Complete need (.chain 1 t) ts) {room bound : Nat} {rest : List Token}
    (deep : need < room) (closes : Closes rest) (big : 6 * ts.length + 4 ≤ bound) :
    readExpression bound room (ts ++ rest) = .ok (t, rest) := by
  obtain ⟨bound, rfl⟩ := Nat.exists_eq_add_one.2 (show 0 < bound by omega)
  obtain ⟨room, rfl⟩ := Nat.exists_eq_add_one.2 (show 0 < room by omega)
  rw [readExpression, nested]
  refine complete room 1 1 rest _ (Nat.le_refl 1) (by omega) closes.1
    (closes.2.mono (by decide)) (fun bound positive => ?_) bound (by omega)
  obtain ⟨bound, rfl⟩ := Nat.exists_eq_add_one.2 (show 0 < bound by omega)
  exact readChain_stop closes.2

theorem closes_cons {token : Token} {rest : List Token}
    (kind : token.kind = .rbracket ∨ token.kind = .rparen ∨ token.kind = .comma) :
    Closes (token :: rest) := by
  constructor
  · rintro _ _ ⟨⟩
    rcases kind with same | same | same <;> simp [same]
  · rintro o pos _ ⟨⟩
    simp at kind

theorem closes_nil : Closes [] := by
  constructor
  · rintro _ _ ⟨⟩
  · rintro _ _ _ ⟨⟩

namespace Complete

variable {need left right : Nat}

theorem loosen {level tight : Nat} {t : Term} {ts : List Token} (less : level ≤ tight)
    (complete : Complete need (.chain tight t) ts) : Complete need (.chain level t) ts := by
  intro room low enough rest outcome binds deep noAccess next
  exact complete room low enough rest outcome (Nat.le_trans binds less) deep noAccess
    (next.mono (Nat.succ_le_succ less))

theorem binary {o : BinaryOp} {lhs rhs : Term} {ls rs : List Token} {pos : Nat}
    (first : Complete left (.chain o.precedence lhs) ls)
    (second : Complete right (.chain (o.precedence + 1) rhs) rs)
    (deepLeft : left ≤ need) (deepRight : right < need)
    (low : (Term.binary o lhs rhs).height ≤ need) :
    Complete need (.chain o.precedence (.binary o lhs rhs)) (ls ++ ⟨.op o, pos⟩ :: rs) := by
  intro room level enough rest outcome binds deep noAccess next goOn bound big
  rw [List.length_append, List.length_cons] at big
  rw [List.append_assoc, List.cons_append]
  have opNext : NextBelow (o.precedence + 1) (⟨.op o, pos⟩ :: (rs ++ rest)) := by
    rintro _ _ _ ⟨⟩
    exact Nat.lt_succ_self _
  have opNoAccess : NoAccess (⟨.op o, pos⟩ :: (rs ++ rest)) := by
    rintro _ _ ⟨⟩
    simp
  refine first room level (enough + 6 * rs.length + 4) _ outcome binds (by omega) opNoAccess opNext
    (fun bound big => ?_) bound (by omega)
  obtain ⟨bound, rfl⟩ := Nat.exists_eq_add_one.2 (show 0 < bound by omega)
  obtain ⟨room, rfl⟩ := Nat.exists_eq_add_one.2 (show 0 < room by omega)
  -- the right part ends before an operator of its own level or looser
  have operand : readBinary bound room (o.precedence + 1) (rs ++ rest) = .ok (rhs, rest) := by
    refine second room _ 1 rest _ (Nat.le_refl _) (by omega) noAccess
      (next.mono (Nat.le_succ _)) (fun bound big => ?_) bound (by omega)
    obtain ⟨bound, rfl⟩ := Nat.exists_eq_add_one.2 (show 0 < bound by omega)
    exact readChain_stop next
  rw [readChain_op binds operand (Nat.le_trans low deep)]
  exact goOn bound (by omega)

theorem operand {t : Term} {ts : List Token} (complete : Complete need (.signed t) ts) :
    Complete need (.chain 6 t) ts := by
  intro room level enough rest outcome low deep noAccess next goOn bound big
  obtain ⟨bound, rfl⟩ := Nat.exists_eq_add_one.2 (show 0 < bound by omega)
  rw [readBinary, complete room rest deep noAccess bound (by omega)]
  exact goOn bound (by omega)

theorem sign {token : Token} {op : UnaryOp} {t : Term} {ts : List Token}
    (reads : ∀ {bound room ts rest}, readUnary bound room ts = .ok (t, rest) →
      readUnary (bound + 1) (room + 1) (token :: ts) = .ok (.unary op t, rest))
    (complete : Complete right (.signed t) ts) (deepOperand : right < need) :
    Complete need (.signed (.unary op t)) (token :: ts) := by
  intro room rest deep noAccess bound big
  rw [List.length_cons] at big
  obtain ⟨bound, rfl⟩ := Nat.exists_eq_add_one.2 (show 0 < bound by omega)
  obtain ⟨room, rfl⟩ := Nat.exists_eq_add_one.2 (show 0 < room by omega)
  exact reads (complete room rest (by omega) noAccess bound (by omega))

theorem not {t : Term} {ts : List Token} {pos : Nat} (complete : Complete right (.signed t) ts)
    (deepOperand : right < need) :
    Complete need (.signed (.unary .not t)) (⟨.bang, pos⟩ :: ts) :=
  complete.sign (fun inner => by rw [readUnary, nested, inner]; rfl) deepOperand

theorem neg {t : Term} {ts : List Token} {pos : Nat} (complete : Complete right (.signed t) ts)
    (deepOperand : right < need) :
    Complete need (.signed (.unary .neg t)) (⟨.op .sub, pos⟩ :: ts) :=
  complete.sign (fun inner => by rw [readUnary, nested, inner]; rfl) deepOperand

theorem unsigned {t : Term} {ts : List Token} (complete : Complete need (.access t) ts) :
    Complete need (.signed t) ts := by
  intro room rest deep noAccess bound big
  refine complete room 1 rest _ deep (fun bound positive => ?_) bound (by omega)
  obtain ⟨bound, rfl⟩ := Nat.exists_eq_add_one.2 (show 0 < bound by omega)
  exact readPostfix_stop noAccess

theorem index {t position : Term} {ts inner : List Token} {opening closing : Nat}
    (target : Complete left (.access t) ts) (inside : Complete right (.chain 1 position) inner)
    (deepTarget : left ≤ need) (deepInside : right < need)
    (low : (Term.index t position).height ≤ need) :
    Complete need (.access (.index t position))
      (ts ++ ⟨.lbracket, opening⟩ :: (inner ++ [⟨.rbracket, closing⟩])) := by
  intro room enough rest outcome deep goOn bound big
  simp only [List.length_append, List.length_cons, List.length_nil] at big
  simp only [List.append_assoc, List.cons_append, List.nil_append]
  refine target room (enough + 6 * inner.length + 5) _ outcome (by omega) (fun bound big => ?_)
    bound (by omega)
  obtain ⟨bound, rfl⟩ := Nat.exists_eq_add_one.2 (show 0 < bound by omega)
  rw [readPostfix_index (inside.expression (by omega) (closes_cons (.inl rfl)) (by omega))
    (Nat.le_trans low deep)]
  exact goOn bound (by omega)

theorem field {t : Term} {name : String} {ts : List Token} {dot pos : Nat}
    (target : Complete left (.access t) ts) (deepTarget : left ≤ need)
    (low : (Term.field t name).height ≤ need) :
    Complete need (.access (.field t name)) (ts ++ [⟨.dot, dot⟩, ⟨.ident name, pos⟩]) := by
  intro room enough rest outcome deep goOn bound big
  simp only [List.length_append, List.length_cons, List.length_nil] at big
  simp only [List.append_assoc, List.cons_append, List.nil_append]
  refine target room (enough + 1) _ outcome (by omega) (fun bound big => ?_) bound (by omega)
  obtain ⟨bound, rfl⟩ := Nat.exists_eq_add_one.2 (show 0 < bound by omega)
  rw [readPostfix_field (Nat.le_trans low deep)]
  exact goOn bound (by omega)

theorem call {name : String} {args : List Term} {ts inner : List Token} {opening closing : Nat}
    (target : Complete left (.access (.ident name)) ts)
    (inside : Complete right (.arguments args) inner) (deepTarget : left ≤ need)
    (deepInside : right < need) (low : (Term.call name args).height ≤ need) :
    Complete need (.access (.call name args))
      (ts ++ ⟨.lparen, opening⟩ :: (inner ++ [⟨.rparen, closing⟩])) := by
  intro room enough rest outcome deep goOn bound big
  simp only [List.length_append, List.length_cons, List.length_nil] at big
  simp only [List.append_assoc, List.cons_append, List.nil_append]
  refine target room (enough + 6 * inner.length + 7) _ outcome (by omega) (fun bound big => ?_)
    bound (by omega)
  obtain ⟨bound, rfl⟩ := Nat.exists_eq_add_one.2 (show 0 < bound by omega)
  rw [readPostfix_call (inside room closing rest (by omega) bound (by omega))
    (Nat.le_trans low deep)]
  exact goOn bound (by omega)

theorem plain {t : Term} {ts : List Token} (complete : Complete need (.atom t) ts)
    (nonempty : 0 < ts.length) : Complete need (.access t) ts := by
  intro room enough rest outcome deep goOn bound big
  obtain ⟨bound, rfl⟩ := Nat.exists_eq_add_one.2 (show 0 < bound by omega)
  rw [readUnary_of_readPrimary (complete room rest deep bound (by omega))]
  exact goOn bound (by omega)

theorem literal {t : Term} {token : Token}
    (reads : ∀ bound room rest, readPrimary (bound + 1) room (token :: rest) = .ok (t, rest)) :
    Complete need (.atom t) [token] := by
  intro room rest _ bound big
  rw [List.length_singleton] at big
  obtain ⟨bound, rfl⟩ := Nat.exists_eq_add_one.2 (show 0 < bound by omega)
  exact reads bound room rest

theorem parens {t : Term} {ts : List Token} {opening closing : Nat}
    (inside : Complete right (.chain 1 t) ts) (deepInside : right < need) :
    Complete need (.atom t) (⟨.lparen, opening⟩ :: (ts ++ [⟨.rparen, closing⟩])) := by
  intro room rest deep bound big
  simp only [List.length_append, List.length_cons, List.length_nil] at big
  simp only [List.append_assoc, List.cons_append, List.nil_append]
  obtain ⟨bound, rfl⟩ := Nat.exists_eq_add_one.2 (show 0 < bound by omega)
  exact readPrimary_parens
    (inside.expression (by omega) (closes_cons (.inr (.inl rfl))) (by omega))

theorem empty : Complete need (.arguments []) [] := by
  intro room pos rest _ bound big
  obtain ⟨bound, rfl⟩ := Nat.exists_eq_add_one.2 (show 0 < bound by omega)
  rw [List.nil_append, readArguments]

theorem given {args : List Term} {ts : List Token} (complete : Complete need (.list args) ts) :
    Complete need (.arguments args) ts := by
  intro room pos rest deep bound big
  obtain ⟨bound, rfl⟩ := Nat.exists_eq_add_one.2 (show 0 < bound by omega)
  exact readArguments_of_readArgumentList (complete room pos rest deep bound (by omega))

theorem last {arg : Term} {ts : List Token} (complete : Complete left (.chain 1 arg) ts)
    (deepLast : left ≤ need) : Complete need (.list [arg]) ts := by
  intro room pos rest deep bound big
  obtain ⟨bound, rfl⟩ := Nat.exists_eq_add_one.2 (show 0 < bound by omega)
  exact readArgumentList_last
    (complete.expression (by omega) (closes_cons (.inr (.inl rfl))) (by omega))

theorem more {arg : Term} {args : List Term} {ts others : List Token} {pos : Nat}
    (first : Complete left (.chain 1 arg) ts) (later : Complete right (.list args) others)
    (deepFirst : left ≤ need) (deepLater : right ≤ need) :
    Complete need (.list (arg :: args)) (ts ++ ⟨.comma, pos⟩ :: others) := by
  intro room close rest deep bound big
  rw [List.length_append, List.length_cons] at big
  rw [List.append_assoc, List.cons_append]
  obtain ⟨bound, rfl⟩ := Nat.exists_eq_add_one.2 (show 0 < bound by omega)
  exact readArgumentList_more
    (first.expression (by omega) (closes_cons (.inr (.inr rfl))) (by omega))
    (later room close rest (by omega) bound (by omega))

end Complete

theorem Term.height_pos (t : Term) : 0 < t.height := by
  cases t <;> simp [height]

/-- What is derived is read, given room for as many levels as there are tokens. -/
theorem Derives.complete {phrase : Phrase} {ts : List Token} (derived : Derives phrase ts) :
    Complete ts.length phrase ts := by
  induction derived with
  | loosen _ ih => exact ih.loosen (Nat.le_succ _)
  | binary same first second ihFirst ihSecond =>
    subst same
    refine ihFirst.binary ihSecond ?_ ?_ (Derives.binary rfl first second).height_le
    all_goals simp only [List.length_append, List.length_cons]; omega
  | operand _ ih => exact ih.operand
  | not _ ih => exact ih.not (Nat.lt_succ_self _)
  | neg _ ih => exact ih.neg (Nat.lt_succ_self _)
  | unsigned _ ih => exact ih.unsigned
  | index target inside ihTarget ihInside =>
    refine ihTarget.index ihInside ?_ ?_ (target.index inside).height_le
    all_goals simp only [List.length_append, List.length_cons]; omega
  | field target ih =>
    refine ih.field ?_ target.field.height_le
    simp only [List.length_append, List.length_cons]
    omega
  | call target inside ihTarget ihInside =>
    refine ihTarget.call ihInside ?_ ?_ (target.call inside).height_le
    all_goals simp only [List.length_append, List.length_cons]; omega
  | plain atom ih => exact ih.plain (Nat.lt_of_lt_of_le (Term.height_pos _) atom.height_le)
  | int n pos => exact .literal fun _ _ _ => by rw [readPrimary]
  | str s pos => exact .literal fun _ _ _ => by rw [readPrimary]
  | bool b pos => exact .literal fun _ _ _ => by rw [readPrimary]
  | ident name pos => exact .literal fun _ _ _ => by rw [readPrimary]
  | parens _ ih =>
    refine ih.parens ?_
    simp only [List.length_append, List.length_cons]
    omega
  | empty => exact .empty
  | given _ ih => exact ih.given
  | last _ ih => exact ih.last (Nat.le_refl _)
  | more _ _ ihFirst ihLater =>
    refine ihFirst.more ihLater ?_ ?_
    all_goals simp only [List.length_append, List.length_cons]; omega

/-- A derived list of tokens is read whole, with room for one level more than it has tokens. -/
theorem Derives.readExpression {t : Term} {ts : List Token} (derived : Derives (.chain 1 t) ts)
    {room : Nat} (deep : ts.length < room) :
    readExpression (6 * ts.length + 12) room ts = .ok (t, []) := by
  simpa using derived.complete.expression deep closes_nil (Nat.add_le_add_left (by decide) _)

theorem parseTokens_eq_ok_iff {ts : List Token} {t : Term} :
    parseTokens ts = .ok t ↔ readExpression (6 * ts.length + 12) maxDepth ts = .ok (t, []) := by
  rw [parseTokens, bind_eq_ok]
  constructor
  · rintro ⟨⟨whole, rest⟩, read, done⟩
    dsimp only at done
    split at done
    · cases done
      exact read
    · cases done
  · intro read
    exact ⟨(t, []), read, rfl⟩

/-- Reading accepts exactly the grammar. A list of tokens that is read as a term is derived with
that term. A list that is derived with a term is read as that term, unless the depth is exceeded;
with room for more levels than there are tokens it always is, so that neither the bound on calls
nor anything but the room stands in the way. No list is derived with two terms. -/
theorem parseTokens_exact (ts : List Token) (t : Term) :
    (parseTokens ts = .ok t → Derives (.chain 1 t) ts) ∧
    (Derives (.chain 1 t) ts →
      (parseTokens ts = .ok t ∨ parseTokens ts = .error .depthExceeded) ∧
      (∀ room, ts.length < room → readExpression (6 * ts.length + 12) room ts = .ok (t, [])) ∧
      ∀ other, Derives (.chain 1 other) ts → other = t) := by
  refine ⟨fun read => ?_, fun derived => ⟨?_, fun room => derived.readExpression, ?_⟩⟩
  · obtain ⟨used, same, derived⟩ := (sound _).expression (parseTokens_eq_ok_iff.1 read)
    rw [List.append_nil] at same
    exact same ▸ derived
  · -- the room that is there against one that is wide enough
    have wide := derived.readExpression
      (Nat.lt_of_lt_of_le (Nat.lt_succ_self _) (Nat.le_max_left _ maxDepth))
    rcases (steady _).expression ts (Nat.le_max_right ts.length.succ maxDepth) with out | same
    · right
      rw [parseTokens, out]
      rfl
    · left
      rw [parseTokens_eq_ok_iff, same, wide]
  · intro other derivedOther
    have first := derived.readExpression (Nat.lt_succ_self _)
    rw [derivedOther.readExpression (Nat.lt_succ_self _)] at first
    cases first
    rfl

/-- The term `a - -f(x, 1)[0].y * (b) - c` groups to the left, products first. -/
theorem parseTokens_exact_chain :
    let ts : List Token := List.zipWith Token.mk
      [.ident "a", .op .sub, .op .sub, .ident "f", .lparen, .ident "x", .comma, .int 1, .rparen,
        .lbracket, .int 0, .rbracket, .dot, .ident "y", .op .mul, .lparen, .ident "b", .rparen,
        .op .sub, .ident "c"] (List.range 20)
    let operand := Term.field (.index (.call "f" [.ident "x", .int 1]) (.int 0)) "y"
    let t := Term.binary .sub
      (.binary .sub (.ident "a") (.binary .mul (.unary .neg operand) (.ident "b"))) (.ident "c")
    parseTokens ts = .ok t ∧ Derives (.chain 1 t) ts := by
  intro ts operand t
  have read : parseTokens ts = .ok t := by cbv
  exact ⟨read, (parseTokens_exact ts t).1 read⟩

end GuardedNet.Guard
