import GuardedNet.Guard.Parse
import GuardedNet.Proofs.Outcome

/-!
# The grammar of guards

The phrases of the guard language as derivations over tokens, and the first half of what ties
the readers to them: what a reader accepts is derived (`Sound`).
-/

namespace GuardedNet.Guard

/-- What a run of tokens can stand for: operands joined by operators that bind at least as
tightly as a level, an operand with signs in front, an atom with accesses and calls after it,
an atom, what stands between the parentheses of a call, or terms with commas between them. -/
inductive Phrase where
  | chain (level : Nat) (t : Term)
  | signed (t : Term)
  | access (t : Term)
  | atom (t : Term)
  | arguments (args : List Term)
  | list (args : List Term)

/-- The grammar, in which the position of a token plays no part. Operators have the levels one
to five; at level six a chain is a single operand. -/
inductive Derives : Phrase → List Token → Prop where
  | loosen {level : Nat} {t : Term} {ts : List Token} :
      Derives (.chain (level + 1) t) ts → Derives (.chain level t) ts
  | binary {level : Nat} {o : BinaryOp} {lhs rhs : Term} {ls rs : List Token} {pos : Nat} :
      o.precedence = level → Derives (.chain level lhs) ls → Derives (.chain (level + 1) rhs) rs →
      Derives (.chain level (.binary o lhs rhs)) (ls ++ ⟨.op o, pos⟩ :: rs)
  | operand {t : Term} {ts : List Token} : Derives (.signed t) ts → Derives (.chain 6 t) ts
  | not {t : Term} {ts : List Token} {pos : Nat} :
      Derives (.signed t) ts → Derives (.signed (.unary .not t)) (⟨.bang, pos⟩ :: ts)
  | neg {t : Term} {ts : List Token} {pos : Nat} :
      Derives (.signed t) ts → Derives (.signed (.unary .neg t)) (⟨.op .sub, pos⟩ :: ts)
  | unsigned {t : Term} {ts : List Token} : Derives (.access t) ts → Derives (.signed t) ts
  | index {target position : Term} {ts inner : List Token} {left right : Nat} :
      Derives (.access target) ts → Derives (.chain 1 position) inner →
      Derives (.access (.index target position))
        (ts ++ ⟨.lbracket, left⟩ :: (inner ++ [⟨.rbracket, right⟩]))
  | field {target : Term} {name : String} {ts : List Token} {dot pos : Nat} :
      Derives (.access target) ts →
      Derives (.access (.field target name)) (ts ++ [⟨.dot, dot⟩, ⟨.ident name, pos⟩])
  | call {name : String} {args : List Term} {ts inner : List Token} {left right : Nat} :
      Derives (.access (.ident name)) ts → Derives (.arguments args) inner →
      Derives (.access (.call name args))
        (ts ++ ⟨.lparen, left⟩ :: (inner ++ [⟨.rparen, right⟩]))
  | plain {t : Term} {ts : List Token} : Derives (.atom t) ts → Derives (.access t) ts
  | int (n : Int) (pos : Nat) : Derives (.atom (.int n)) [⟨.int n, pos⟩]
  | str (s : String) (pos : Nat) : Derives (.atom (.str s)) [⟨.str s, pos⟩]
  | bool (b : Bool) (pos : Nat) : Derives (.atom (.bool b)) [⟨.bool b, pos⟩]
  | ident (name : String) (pos : Nat) : Derives (.atom (.ident name)) [⟨.ident name, pos⟩]
  | parens {t : Term} {ts : List Token} {left right : Nat} :
      Derives (.chain 1 t) ts →
      Derives (.atom t) (⟨.lparen, left⟩ :: (ts ++ [⟨.rparen, right⟩]))
  | empty : Derives (.arguments []) []
  | given {args : List Term} {ts : List Token} :
      Derives (.list args) ts → Derives (.arguments args) ts
  | last {arg : Term} {ts : List Token} : Derives (.chain 1 arg) ts → Derives (.list [arg]) ts
  | more {arg : Term} {args : List Term} {ts rest : List Token} {pos : Nat} :
      Derives (.chain 1 arg) ts → Derives (.list args) rest →
      Derives (.list (arg :: args)) (ts ++ ⟨.comma, pos⟩ :: rest)

/-- A chain of tight operators is one of looser operators. -/
theorem Derives.loosenTo {level tight : Nat} {t : Term} {ts : List Token} (less : level ≤ tight)
    (derived : Derives (.chain tight t) ts) : Derives (.chain level t) ts := by
  induction less with
  | refl => exact derived
  | step _ ih => exact ih derived.loosen

theorem BinaryOp.precedence_le (o : BinaryOp) : o.precedence ≤ 5 := by
  cases o <;> decide

/-! ### What the helpers of the readers accept -/

theorem nested_eq_ok {room : Nat} {read : Nat → Reading} {reading : Term × List Token}
    (done : nested room read = .ok reading) : ∃ smaller, read smaller = .ok reading := by
  cases room with
  | zero => cases done
  | succ smaller => exact ⟨smaller, done⟩

theorem fitting_eq_ok {room : Nat} {t whole : Term} (done : fitting room t = .ok whole) :
    whole = t := by
  unfold fitting at done
  split at done
  · exact (Except.ok.inj done).symm
  · cases done

theorem expect_eq_ok {kind : TokenKind} {expected : Expected} {ts rest : List Token}
    (done : expect kind expected ts = .ok rest) : ∃ pos, ts = ⟨kind, pos⟩ :: rest := by
  cases ts with
  | nil => cases done
  | cons token ts =>
    rw [expect] at done
    split at done
    · rename_i same
      obtain rfl := Except.ok.inj done
      exact ⟨token.pos, by rw [← same]⟩
    · cases done

/-! ### Soundness -/

/-- The tokens start with those of a phrase, and the rest follows. -/
def Starts (phrase : Phrase) (ts rest : List Token) : Prop :=
  ∃ used, ts = used ++ rest ∧ Derives phrase used

/-- An operator that comes next binds less tightly than the level. -/
def NextBelow (level : Nat) (ts : List Token) : Prop :=
  ∀ o pos rest, ts = ⟨.op o, pos⟩ :: rest → o.precedence < level

/-- What the readers accept is derived. A chain is read after a left part `done` whose own level
is at least that of the operator that comes next. -/
structure Sound (bound : Nat) : Prop where
  expression : ∀ {room ts t rest}, readExpression bound room ts = .ok (t, rest) →
    Starts (.chain 1 t) ts rest
  binary : ∀ {room level ts t rest}, level ≤ 6 →
    readBinary bound room level ts = .ok (t, rest) →
    Starts (.chain level t) ts rest ∧ NextBelow level rest
  chain : ∀ {room level tight lhs done ts t rest}, level ≤ tight →
    Derives (.chain tight lhs) done → NextBelow (tight + 1) ts →
    readChain bound room level lhs ts = .ok (t, rest) →
    (∃ used, ts = used ++ rest ∧ Derives (.chain level t) (done ++ used)) ∧ NextBelow level rest
  unary : ∀ {room ts t rest}, readUnary bound room ts = .ok (t, rest) →
    Starts (.signed t) ts rest
  access : ∀ {room target done ts t rest}, Derives (.access target) done →
    readPostfix bound room target ts = .ok (t, rest) →
    ∃ used, ts = used ++ rest ∧ Derives (.access t) (done ++ used)
  arguments : ∀ {room ts args rest}, readArguments bound room ts = .ok (args, rest) →
    ∃ pos, Starts (.arguments args) ts (⟨.rparen, pos⟩ :: rest)
  list : ∀ {room ts args rest}, readArgumentList bound room ts = .ok (args, rest) →
    ∃ pos, Starts (.list args) ts (⟨.rparen, pos⟩ :: rest)
  primary : ∀ {room ts t rest}, readPrimary bound room ts = .ok (t, rest) →
    Starts (.atom t) ts rest

namespace Sound

variable {bound : Nat} (sound : Sound bound)
include sound

theorem readExpression_succ {room : Nat} {ts : List Token} {t : Term} {rest : List Token}
    (done : readExpression (bound + 1) room ts = .ok (t, rest)) : Starts (.chain 1 t) ts rest := by
  rw [readExpression] at done
  obtain ⟨smaller, done⟩ := nested_eq_ok done
  exact (sound.binary (by decide) done).1

theorem readBinary_succ {room level : Nat} {ts : List Token} {t : Term} {rest : List Token}
    (low : level ≤ 6) (done : readBinary (bound + 1) room level ts = .ok (t, rest)) :
    Starts (.chain level t) ts rest ∧ NextBelow level rest := by
  rw [readBinary, bind_eq_ok] at done
  obtain ⟨⟨lhs, middle⟩, first, done⟩ := done
  obtain ⟨front, rfl, derived⟩ := sound.unary first
  have next : NextBelow 7 middle := fun o _ _ _ => by
    have := o.precedence_le
    omega
  obtain ⟨⟨back, rfl, whole⟩, below⟩ := sound.chain low derived.operand next done
  exact ⟨⟨front ++ back, (List.append_assoc ..).symm, whole⟩, below⟩

theorem readChain_succ {room level tight : Nat} {lhs : Term} {before ts : List Token} {t : Term}
    {rest : List Token} (low : level ≤ tight) (derived : Derives (.chain tight lhs) before)
    (next : NextBelow (tight + 1) ts)
    (done : readChain (bound + 1) room level lhs ts = .ok (t, rest)) :
    (∃ used, ts = used ++ rest ∧ Derives (.chain level t) (before ++ used)) ∧
      NextBelow level rest := by
  have stops : NextBelow level ts → (lhs, ts) = (t, rest) →
      (∃ used, ts = used ++ rest ∧ Derives (.chain level t) (before ++ used)) ∧
        NextBelow level rest := by
    rintro below ⟨⟩
    exact ⟨⟨[], rfl, by simpa using derived.loosenTo low⟩, below⟩
  unfold readChain at done
  split at done
  · rename_i o pos after
    split at done
    · rename_i loose
      refine stops ?_ (Except.ok.inj done)
      rintro _ _ _ ⟨⟩
      exact loose
    · rename_i bindsHere
      rw [bind_eq_ok] at done
      obtain ⟨⟨rhs, middle⟩, second, done⟩ := done
      obtain ⟨smaller, second⟩ := nested_eq_ok second
      rw [bind_eq_ok] at done
      obtain ⟨whole, fits, done⟩ := done
      obtain rfl := fitting_eq_ok fits
      have here : o.precedence ≤ tight := Nat.le_of_lt_succ (next o pos after rfl)
      obtain ⟨⟨right, rfl, derivedRight⟩, below⟩ :=
        sound.binary (Nat.succ_le_succ o.precedence_le) second
      obtain ⟨⟨back, rfl, result⟩, belowRest⟩ := sound.chain (Nat.le_of_not_lt bindsHere)
        (.binary rfl (derived.loosenTo here) derivedRight) below done
      exact ⟨⟨⟨.op o, pos⟩ :: (right ++ back), by simp, by simpa using result⟩, belowRest⟩
  · rename_i noOperator
    refine stops ?_ (Except.ok.inj done)
    intro o pos after same
    exact absurd same (noOperator o pos after)

theorem readUnary_succ {room : Nat} {ts : List Token} {t : Term} {rest : List Token}
    (done : readUnary (bound + 1) room ts = .ok (t, rest)) : Starts (.signed t) ts rest := by
  unfold readUnary at done
  split at done
  · rw [bind_eq_ok] at done
    obtain ⟨⟨operand, middle⟩, inner, done⟩ := done
    obtain ⟨smaller, inner⟩ := nested_eq_ok inner
    obtain ⟨used, rfl, derived⟩ := sound.unary inner
    cases done
    exact ⟨_, rfl, derived.not⟩
  · rw [bind_eq_ok] at done
    obtain ⟨⟨operand, middle⟩, inner, done⟩ := done
    obtain ⟨smaller, inner⟩ := nested_eq_ok inner
    obtain ⟨used, rfl, derived⟩ := sound.unary inner
    cases done
    exact ⟨_, rfl, derived.neg⟩
  · rw [bind_eq_ok] at done
    obtain ⟨⟨target, middle⟩, first, done⟩ := done
    obtain ⟨front, rfl, atom⟩ := sound.primary first
    obtain ⟨back, rfl, whole⟩ := sound.access atom.plain done
    exact ⟨front ++ back, (List.append_assoc ..).symm, whole.unsigned⟩

/-- What is read after one more access is read after the target. -/
theorem readPostfix_step {room : Nat} {target whole : Term} {before used ts : List Token}
    {t : Term} {rest : List Token} (fits : fitting room target = .ok whole)
    (derived : Derives (.access target) (before ++ used))
    (done : readPostfix bound room whole ts = .ok (t, rest)) :
    ∃ more, used ++ ts = more ++ rest ∧ Derives (.access t) (before ++ more) := by
  obtain rfl := fitting_eq_ok fits
  obtain ⟨back, rfl, result⟩ := sound.access derived done
  exact ⟨used ++ back, (List.append_assoc ..).symm, by rwa [← List.append_assoc]⟩

theorem readPostfix_succ {room : Nat} {target : Term} {before ts : List Token} {t : Term}
    {rest : List Token} (derived : Derives (.access target) before)
    (done : readPostfix (bound + 1) room target ts = .ok (t, rest)) :
    ∃ used, ts = used ++ rest ∧ Derives (.access t) (before ++ used) := by
  unfold readPostfix at done
  split at done
  · rw [bind_eq_ok] at done
    obtain ⟨⟨position, middle⟩, inner, done⟩ := done
    rw [bind_eq_ok] at done
    obtain ⟨after, closed, done⟩ := done
    rw [bind_eq_ok] at done
    obtain ⟨whole, fits, done⟩ := done
    obtain ⟨inside, rfl, derivedInside⟩ := sound.expression inner
    obtain ⟨right, rfl⟩ := expect_eq_ok closed
    simpa using sound.readPostfix_step fits (derived.index derivedInside) done
  · rw [bind_eq_ok] at done
    obtain ⟨whole, fits, done⟩ := done
    simpa using sound.readPostfix_step fits derived.field done
  · cases done
  · cases done
  · split at done
    · rw [bind_eq_ok] at done
      obtain ⟨⟨args, after⟩, inner, done⟩ := done
      rw [bind_eq_ok] at done
      obtain ⟨whole, fits, done⟩ := done
      obtain ⟨right, inside, rfl, derivedInside⟩ := sound.arguments inner
      simpa using sound.readPostfix_step fits (derived.call derivedInside) done
    · cases done
  · cases done
    exact ⟨[], rfl, by rwa [List.append_nil]⟩

theorem readArguments_succ {room : Nat} {ts : List Token} {args : List Term} {rest : List Token}
    (done : readArguments (bound + 1) room ts = .ok (args, rest)) :
    ∃ pos, Starts (.arguments args) ts (⟨.rparen, pos⟩ :: rest) := by
  unfold readArguments at done
  split at done
  · cases done
    exact ⟨_, [], rfl, .empty⟩
  · obtain ⟨pos, used, rfl, derived⟩ := sound.list done
    exact ⟨pos, used, rfl, derived.given⟩

theorem readArgumentList_succ {room : Nat} {ts : List Token} {args : List Term}
    {rest : List Token} (done : readArgumentList (bound + 1) room ts = .ok (args, rest)) :
    ∃ pos, Starts (.list args) ts (⟨.rparen, pos⟩ :: rest) := by
  rw [readArgumentList, bind_eq_ok] at done
  obtain ⟨⟨arg, middle⟩, first, done⟩ := done
  obtain ⟨front, rfl, derived⟩ := sound.expression first
  dsimp only at done
  split at done
  · rename_i comma after
    rw [bind_eq_ok] at done
    obtain ⟨⟨others, last⟩, later, done⟩ := done
    obtain ⟨pos, back, rfl, derivedLater⟩ := sound.list later
    cases done
    exact ⟨pos, front ++ ⟨.comma, comma⟩ :: back, by simp, .more derived derivedLater⟩
  · rename_i pos after
    cases done
    exact ⟨pos, front, rfl, derived.last⟩
  · cases done
  · cases done

theorem readPrimary_succ {room : Nat} {ts : List Token} {t : Term} {rest : List Token}
    (done : readPrimary (bound + 1) room ts = .ok (t, rest)) : Starts (.atom t) ts rest := by
  unfold readPrimary at done
  split at done
  · cases done
  · cases done
    exact ⟨_, rfl, .int ..⟩
  · cases done
    exact ⟨_, rfl, .str ..⟩
  · cases done
    exact ⟨_, rfl, .bool ..⟩
  · cases done
    exact ⟨_, rfl, .ident ..⟩
  · rename_i left after
    rw [bind_eq_ok] at done
    obtain ⟨⟨inner, middle⟩, first, done⟩ := done
    rw [bind_eq_ok] at done
    obtain ⟨last, closed, done⟩ := done
    obtain ⟨inside, rfl, derived⟩ := sound.expression first
    obtain ⟨right, rfl⟩ := expect_eq_ok closed
    cases done
    exact ⟨⟨.lparen, left⟩ :: (inside ++ [⟨.rparen, right⟩]), by simp, .parens derived⟩
  · cases done

end Sound

/-- Whatever the bound, what the readers accept is derived. -/
theorem sound (bound : Nat) : Sound bound := by
  induction bound with
  | zero =>
    constructor
    all_goals intros
    all_goals rename_i done
    all_goals simp [readExpression, readBinary, readChain, readUnary, readPostfix, readArguments,
      readArgumentList, readPrimary] at done
  | succ bound ih =>
    exact {
      expression := ih.readExpression_succ
      binary := ih.readBinary_succ
      chain := ih.readChain_succ
      unary := ih.readUnary_succ
      access := ih.readPostfix_succ
      arguments := ih.readArguments_succ
      list := ih.readArgumentList_succ
      primary := ih.readPrimary_succ }

end GuardedNet.Guard
