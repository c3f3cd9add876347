import GuardedNet.Proofs.Guard.Evaluation

/-!
# Integers and texts that hold them

A text that holds an integer counts as that integer wherever integers are wanted. Main statement:
an elementary term does not tell bindings apart that differ only in whether an integer is bound or
a text that holds it (`Term.eval_interchangeable`).
-/

namespace GuardedNet

/-- The values are one truth value, or stand for one integer. -/
def Value.Interchangeable (value other : Value) : Prop :=
  (∃ b, value = .bool b ∧ other = .bool b) ∨
    ∃ n, value.asInt? = some n ∧ other.asInt? = some n

namespace Value.Interchangeable

theorem bool (b : Bool) : Interchangeable (.bool b) (.bool b) := Or.inl ⟨b, rfl, rfl⟩

theorem int (n : Int) : Interchangeable (.int n) (.int n) := Or.inr ⟨n, rfl, rfl⟩

variable {value other : Value} (alike : value.Interchangeable other)
include alike

theorem asInt?_eq : value.asInt? = other.asInt? := by
  rcases alike with ⟨b, rfl, rfl⟩ | ⟨n, view, view'⟩
  · rfl
  · rw [view, view']

theorem asBool?_eq : value.asBool? = other.asBool? := by
  rcases alike with ⟨b, rfl, rfl⟩ | ⟨n, view, view'⟩
  · rfl
  · cases value <;> cases other <;> simp_all [asInt?, asBool?]

end Value.Interchangeable

namespace Guard

/-! ### Two evaluations -/

/-- Errors that differ at most in the detail of a type mismatch. -/
inductive EvalError.SameButDetail : EvalError → EvalError → Prop
  | refl (cause : EvalError) : SameButDetail cause cause
  | mismatch (op detail detail' : String) :
      SameButDetail (.typeMismatch op detail) (.typeMismatch op detail')

/-- Two evaluations both yield results, which are related, or both fail with one error, up to the
detail of a type mismatch. -/
def Together {α : Type} (related : α → α → Prop) : Except EvalError α → Except EvalError α → Prop
  | .ok a, .ok b => related a b
  | .error cause, .error cause' => cause.SameButDetail cause'
  | _, _ => False

theorem Together.cases {α : Type} {related : α → α → Prop} {first first' : Except EvalError α}
    (together : Together related first first') :
    (∃ a b, first = .ok a ∧ first' = .ok b ∧ related a b) ∨
      ∃ cause cause', first = .error cause ∧ first' = .error cause' ∧
        cause.SameButDetail cause' := by
  cases first with
  | error cause =>
    cases first' with
    | error cause' => exact Or.inr ⟨cause, cause', rfl, rfl, together⟩
    | ok b => exact together.elim
  | ok a =>
    cases first' with
    | error cause' => exact together.elim
    | ok b => exact Or.inl ⟨a, b, rfl, rfl, together⟩

theorem Together.bind {α β : Type} {related : α → α → Prop} {relatedNext : β → β → Prop}
    {first first' : Except EvalError α} {next next' : α → Except EvalError β}
    (start : Together related first first')
    (goOn : ∀ a b, related a b → Together relatedNext (next a) (next' b)) :
    Together relatedNext (first >>= next) (first' >>= next') := by
  rcases start.cases with ⟨a, b, rfl, rfl, alike⟩ | ⟨cause, cause', rfl, rfl, same⟩
  · exact goOn a b alike
  · exact same

/-! ### Truth values beside integers -/

section Mixed

variable {value : Value} {n : Int} (view : value.asInt? = some n) (b : Bool)
include view

theorem valuesEqual_bool_left : valuesEqual (.bool b) value =
    .error (.typeMismatch "==" ("cannot compare bool with " ++ value.kind)) := by
  cases value with
  | int | str => rfl
  | _ => cases view

theorem valuesEqual_bool_right : valuesEqual value (.bool b) =
    .error (.typeMismatch "==" ("cannot compare " ++ value.kind ++ " with bool")) := by
  unfold valuesEqual
  rw [view]
  cases value with
  | int | str => rfl
  | _ => cases view

theorem compareValues_bool_right (op : BinaryOp) : compareValues op value (.bool b) =
    .error (.typeMismatch op.symbol ("cannot order " ++ value.kind ++ " and bool")) := by
  unfold compareValues
  rw [view]
  cases value with
  | int | str => rfl
  | _ => cases view

theorem addValues_bool_right : addValues value (.bool b) = .error (.typeMismatch "+"
    ("expected integers, found " ++ value.kind ++ " and " ++ "bool")) := by
  have refused : intOperands .add value (.bool b) = .error (.typeMismatch "+"
      ("expected integers, found " ++ value.kind ++ " and " ++ "bool")) := by
    unfold intOperands
    rw [view]
    rfl
  cases value with
  | int | str => exact congrArg (· >>= _) refused
  | _ => cases view

end Mixed

/-! ### Operators -/

section Operators

variable {left left' right right' : Value} (alikeLeft : left.Interchangeable left')
  (alikeRight : right.Interchangeable right')

theorem together_bounded (op : String) (n : Int) :
    Together Value.Interchangeable (bounded op n) (bounded op n) := by
  unfold bounded
  split
  · exact .int _
  · exact .refl _

include alikeLeft

theorem together_requireBool (op : String) :
    Together (· = ·) (requireBool op left) (requireBool op left') := by
  unfold requireBool
  rw [alikeLeft.asBool?_eq]
  split
  · rfl
  · exact .mismatch ..

theorem UnaryOp.together_apply (op : UnaryOp) :
    Together Value.Interchangeable (op.apply left) (op.apply left') := by
  cases op with
  | not => exact (together_requireBool alikeLeft "!").bind fun b _ same => same ▸ .bool _
  | neg =>
    unfold apply
    rw [alikeLeft.asInt?_eq]
    dsimp only
    split
    · exact .mismatch ..
    · exact together_bounded ..

include alikeRight

theorem together_intOperands (op : BinaryOp) :
    Together (· = ·) (intOperands op left right) (intOperands op left' right') := by
  unfold intOperands
  rw [alikeLeft.asInt?_eq, alikeRight.asInt?_eq]
  split
  · rfl
  · exact .mismatch ..

theorem together_boolOperands (op : BinaryOp) :
    Together (· = ·) (boolOperands op left right) (boolOperands op left' right') := by
  unfold boolOperands
  rw [alikeLeft.asBool?_eq, alikeRight.asBool?_eq]
  split
  · rfl
  · exact .mismatch ..

theorem together_valuesEqual :
    Together (· = ·) (valuesEqual left right) (valuesEqual left' right') := by
  rcases alikeLeft with ⟨b, rfl, rfl⟩ | ⟨l, viewLeft, viewLeft'⟩
  · rcases alikeRight with ⟨c, rfl, rfl⟩ | ⟨r, viewRight, viewRight'⟩
    · rfl
    · rw [valuesEqual_bool_left viewRight, valuesEqual_bool_left viewRight']
      exact .mismatch ..
  · rcases alikeRight with ⟨c, rfl, rfl⟩ | ⟨r, viewRight, viewRight'⟩
    · rw [valuesEqual_bool_right viewLeft, valuesEqual_bool_right viewLeft']
      exact .mismatch ..
    · unfold valuesEqual
      rw [viewLeft, viewRight, viewLeft', viewRight']
      rfl

theorem together_compareValues (op : BinaryOp) :
    Together (· = ·) (compareValues op left right) (compareValues op left' right') := by
  rcases alikeLeft with ⟨b, rfl, rfl⟩ | ⟨l, viewLeft, viewLeft'⟩
  · exact .mismatch ..
  · rcases alikeRight with ⟨c, rfl, rfl⟩ | ⟨r, viewRight, viewRight'⟩
    · rw [compareValues_bool_right viewLeft, compareValues_bool_right viewLeft']
      exact .mismatch ..
    · unfold compareValues
      rw [viewLeft, viewRight, viewLeft', viewRight']
      rfl

theorem together_addValues :
    Together Value.Interchangeable (addValues left right) (addValues left' right') := by
  rcases alikeLeft with ⟨b, rfl, rfl⟩ | ⟨l, viewLeft, viewLeft'⟩
  · exact .mismatch ..
  · rcases alikeRight with ⟨c, rfl, rfl⟩ | ⟨r, viewRight, viewRight'⟩
    · rw [addValues_bool_right viewLeft, addValues_bool_right viewLeft']
      exact .mismatch ..
    · rw [addValues_eq_bounded viewLeft viewRight, addValues_eq_bounded viewLeft' viewRight']
      exact together_bounded ..

theorem together_divideValues (op : BinaryOp) :
    Together Value.Interchangeable (divideValues op left right) (divideValues op left' right') := by
  refine (together_intOperands alikeLeft alikeRight op).bind ?_
  rintro ⟨l, r⟩ _ rfl
  dsimp only
  split
  · exact .refl _
  split
  · exact .refl _
  split
  · exact .int _
  · exact .int _

theorem BinaryOp.together_apply (op : BinaryOp) :
    Together Value.Interchangeable (op.apply left right) (op.apply left' right') := by
  -- A comparison yields a truth value, made of results that are equal.
  have comparison (op : BinaryOp) (test : Ordering → Bool) :
      Together Value.Interchangeable
        (compareValues op left right >>= fun order => .ok (.bool (test order)))
        (compareValues op left' right' >>= fun order => .ok (.bool (test order))) :=
    (together_compareValues alikeLeft alikeRight op).bind fun _ _ same => same ▸ .bool _
  cases op with
  | eq | ne =>
    exact (together_valuesEqual alikeLeft alikeRight).bind fun _ _ same => same ▸ .bool _
  | lt => exact comparison .lt (· == .lt)
  | le => exact comparison .le (· != .gt)
  | gt => exact comparison .gt (· == .gt)
  | ge => exact comparison .ge (· != .lt)
  | add => exact together_addValues alikeLeft alikeRight
  | sub | mul =>
    exact (together_intOperands alikeLeft alikeRight _).bind fun _ _ same =>
      same ▸ together_bounded ..
  | div | rem => exact together_divideValues alikeLeft alikeRight _
  | and | or =>
    exact (together_boolOperands alikeLeft alikeRight _).bind fun _ _ same => same ▸ .bool _

end Operators

/-! ### Terms -/

namespace Term

/-- The term is made of identifiers, integers, truth values and operators. -/
def isElementary : Term → Bool
  | .binary _ lhs rhs => lhs.isElementary && rhs.isElementary
  | .unary _ operand => operand.isElementary
  | .ident _ | .int _ | .bool _ => true
  | _ => false

section TwoScopes

variable {scope scope' : Scope} (names : ∀ name, Option.Rel Value.Interchangeable
  (Dictionary.get? name scope.bindings) (Dictionary.get? name scope'.bindings))

theorem together_truthWithin (sign : String) {room : Nat} {t : Term}
    (alike : Together Value.Interchangeable
      (t.evalWithin scope room) (t.evalWithin scope' room)) :
    Together (· = ·) (t.truthWithin sign scope room) (t.truthWithin sign scope' room) :=
  alike.bind fun _ _ alike => together_requireBool alike sign

include names

theorem together_ident (room : Nat) (name : String) :
    Together Value.Interchangeable ((Term.ident name).evalWithin scope (room + 1))
      ((Term.ident name).evalWithin scope' (room + 1)) := by
  rw [evalWithin, evalWithin]
  have bound := names name
  generalize Dictionary.get? name scope.bindings = here at bound ⊢
  generalize Dictionary.get? name scope'.bindings = there at bound ⊢
  cases bound with
  | some alike => exact alike
  | none => exact .refl _

/-- The two evaluations of an elementary term go together, at any room. -/
theorem together_evalWithin :
    ∀ (room : Nat) (t : Term), t.isElementary = true →
      Together Value.Interchangeable (t.evalWithin scope room) (t.evalWithin scope' room)
  | 0, t, _ => by
    rw [evalWithin, evalWithin]
    exact .refl _
  | room + 1, .binary op lhs rhs, elementary => by
    rw [isElementary, Bool.and_eq_true] at elementary
    have left := together_evalWithin room lhs elementary.1
    have right := together_evalWithin room rhs elementary.2
    cases op
    case and =>
      rw [evalWithin_and, evalWithin_and]
      refine (together_truthWithin "&&" left).bind fun l _ same => ?_
      subst same
      cases l with
      | false => exact .bool false
      | true =>
        exact (together_truthWithin "&&" right).bind fun _ _ same => same ▸ .bool _
    case or =>
      rw [evalWithin_or, evalWithin_or]
      refine (together_truthWithin "||" left).bind fun l _ same => ?_
      subst same
      cases l with
      | true => exact .bool true
      | false =>
        exact (together_truthWithin "||" right).bind fun _ _ same => same ▸ .bool _
    all_goals
      rw [evalWithin_binary (by decide) (by decide), evalWithin_binary (by decide) (by decide)]
      exact left.bind fun _ _ alikeLeft => right.bind fun _ _ alikeRight =>
        BinaryOp.together_apply alikeLeft alikeRight _
  | room + 1, .unary op operand, elementary => by
    rw [isElementary] at elementary
    rw [evalWithin, evalWithin]
    exact (together_evalWithin room operand elementary).bind fun _ _ alike =>
      UnaryOp.together_apply alike op
  | room + 1, .ident name, _ => together_ident names room name
  | room + 1, .int n, _ => by
    rw [evalWithin, evalWithin]
    exact .int n
  | room + 1, .bool b, _ => by
    rw [evalWithin, evalWithin]
    exact .bool b

end TwoScopes

/-- An elementary term does not tell bindings apart that differ only in whether an integer is
bound or a text that holds it: it has the same value in both, or values with the same integer view,
or fails in both with the same error, up to the detail of a type mismatch. -/
theorem eval_interchangeable {scope scope' : Scope} (names : ∀ name,
      Option.Rel Value.Interchangeable (Dictionary.get? name scope.bindings)
        (Dictionary.get? name scope'.bindings))
    {t : Term} (elementary : t.isElementary = true) :
    (∃ value value', t.eval scope = .ok value ∧ t.eval scope' = .ok value' ∧
        (value = value' ∨ ∃ n, value.asInt? = some n ∧ value'.asInt? = some n)) ∨
      ∃ cause cause', t.eval scope = .error cause ∧ t.eval scope' = .error cause' ∧
        cause.SameButDetail cause' := by
  have together : Together Value.Interchangeable (t.eval scope) (t.eval scope') :=
    together_evalWithin names maxDepth t elementary
  rcases together.cases with ⟨value, value', here, there, alike⟩ | fails
  · refine Or.inl ⟨value, value', here, there, ?_⟩
    rcases alike with ⟨b, rfl, rfl⟩ | views
    · exact Or.inl rfl
    · exact Or.inr views
  · exact Or.inr fails

/-- A text with blanks in place of an integer on one side, a text with a sign on the other: the
guard holds on both. -/
theorem eval_interchangeable_blanks :
    let scope : Scope :=
      ⟨[("amount", .str " 40 "), ("limit", .int 50), ("active", .bool true)], []⟩
    let scope' : Scope :=
      ⟨[("amount", .int 40), ("limit", .str "+50"), ("active", .bool true)], []⟩
    let t : Term := .binary .and (.ident "active")
      (.binary .le (.binary .add (.ident "amount") (.int 2)) (.ident "limit"))
    t.eval scope = .ok (.bool true) ∧ t.eval scope' = .ok (.bool true) := by
  intro scope scope' t
  have names : ∀ name, Option.Rel Value.Interchangeable
      (Dictionary.get? name scope.bindings) (Dictionary.get? name scope'.bindings) := by
    intro name
    simp only [scope, scope', Dictionary.get?_cons, Dictionary.get?_nil]
    split
    · exact .some (Or.inr ⟨40, rfl, rfl⟩)
    split
    · exact .some (Or.inr ⟨50, rfl, rfl⟩)
    split
    · exact .some (.bool true)
    · exact .none
  have here : t.eval scope = .ok (.bool true) := rfl
  refine ⟨here, ?_⟩
  rcases eval_interchangeable names (t := t) rfl with
    ⟨value, value', valued, there, same | ⟨n, view, -⟩⟩ | ⟨cause, cause', fails, -, -⟩
  · cases here.symm.trans valued
    rw [there, ← same]
  · cases here.symm.trans valued
    cases view
  · cases here.symm.trans fails

end Term

end Guard

end GuardedNet
