import GuardedNet.Guard.Clause
import GuardedNet.Proofs.Dictionary
import GuardedNet.Proofs.Guard.Evaluation
import GuardedNet.Proofs.Guard.RoundTrip
import GuardedNet.Run.Execution

/-!
# What the value of a term depends on

A term reads the bindings at its identifiers and nowhere else: bindings that agree there give it
one value or one error (`Term.evalWithin_eq_of_agree`). Main statement: a guard that does not
mention the caller is decided alike whoever calls (`Term.eval_regardless_of_caller`).
-/

namespace GuardedNet

namespace Guard.Term

/-! ### Identifiers -/

mutual

/-- The identifiers of a term from left to right, those that an aggregate takes as a text
included. -/
def identifiers : Term → List String
  | .binary _ lhs rhs => lhs.identifiers ++ rhs.identifiers
  | .unary _ operand => operand.identifiers
  | .ident name => [name]
  | .index target position => target.identifiers ++ position.identifiers
  | .field target _ => target.identifiers
  | .call _ args => identifiersOfAll args
  | .int _ | .str _ | .bool _ => []

/-- The identifiers of terms from left to right. -/
def identifiersOfAll : List Term → List String
  | [] => []
  | t :: ts => t.identifiers ++ identifiersOfAll ts

end

mutual

/-- A term mentions the caller if that is one of its identifiers. -/
theorem mentionsCaller_iff : ∀ t : Term, t.mentionsCaller = true ↔ "caller" ∈ t.identifiers
  | .binary _ lhs rhs => by
    rw [mentionsCaller, identifiers, Bool.or_eq_true, List.mem_append, lhs.mentionsCaller_iff,
      rhs.mentionsCaller_iff]
  | .unary _ operand => by rw [mentionsCaller, identifiers, operand.mentionsCaller_iff]
  | .ident name => by
    rw [mentionsCaller, identifiers, beq_iff_eq, List.mem_singleton]
    exact eq_comm
  | .index target position => by
    rw [mentionsCaller, identifiers, Bool.or_eq_true, List.mem_append, target.mentionsCaller_iff,
      position.mentionsCaller_iff]
  | .field target _ => by rw [mentionsCaller, identifiers, target.mentionsCaller_iff]
  | .call _ args => by rw [mentionsCaller, identifiers, anyMentionsCaller_iff args]
  | .int _ | .str _ | .bool _ => by simp [mentionsCaller, identifiers]

theorem anyMentionsCaller_iff :
    ∀ ts : List Term, anyMentionsCaller ts = true ↔ "caller" ∈ identifiersOfAll ts
  | [] => by simp [anyMentionsCaller, identifiersOfAll]
  | t :: ts => by
    rw [anyMentionsCaller, identifiersOfAll, Bool.or_eq_true, List.mem_append,
      t.mentionsCaller_iff, anyMentionsCaller_iff ts]

end

/-! ### Agreement -/

/-- The bindings hold the same at each of the names. -/
def Agree (names : List String) (bindings others : Dictionary Value) : Prop :=
  ∀ name ∈ names, Dictionary.get? name bindings = Dictionary.get? name others

section

variable {bindings others : Dictionary Value}

theorem agree_append {names more : List String} :
    Agree (names ++ more) bindings others ↔
      Agree names bindings others ∧ Agree more bindings others :=
  List.forall_mem_append

variable (functions : FunctionTable)

mutual

/-- Bindings that agree on the identifiers of a term give it one value or one error. -/
theorem evalWithin_eq_of_agree : ∀ (room : Nat) (t : Term),
    Agree t.identifiers bindings others →
      t.evalWithin ⟨bindings, functions⟩ room = t.evalWithin ⟨others, functions⟩ room
  | 0, t, _ => by rw [evalWithin, evalWithin]
  | room + 1, .binary op lhs rhs, agree => by
    rw [identifiers, agree_append] at agree
    have left := evalWithin_eq_of_agree room lhs agree.1
    have right := evalWithin_eq_of_agree room rhs agree.2
    cases op
    case and | or => rw [evalWithin, evalWithin, left, right]
    all_goals
      rw [evalWithin_binary (by decide) (by decide), evalWithin_binary (by decide) (by decide),
        left, right]
  | room + 1, .unary op operand, agree => by
    rw [identifiers] at agree
    rw [evalWithin, evalWithin, evalWithin_eq_of_agree room operand agree]
  | room + 1, .ident name, agree => by
    rw [identifiers] at agree
    rw [evalWithin, evalWithin, agree name (List.mem_singleton_self name)]
  | room + 1, .int n, _ => by rw [evalWithin, evalWithin]
  | room + 1, .str s, _ => by rw [evalWithin, evalWithin]
  | room + 1, .bool b, _ => by rw [evalWithin, evalWithin]
  | room + 1, .index target position, agree => by
    rw [identifiers, agree_append] at agree
    rw [evalWithin, evalWithin, evalWithin_eq_of_agree room target agree.1,
      evalWithin_eq_of_agree room position agree.2]
  | room + 1, .field target name, agree => by
    rw [identifiers] at agree
    rw [evalWithin, evalWithin, evalWithin_eq_of_agree room target agree]
  | room + 1, .call name args, agree => by
    rw [identifiers] at agree
    rw [evalWithin, evalWithin, evalAll_eq_of_agree room args agree]
    dsimp only
    split
    · rfl
    · -- an aggregate evaluates its argument only if that is neither a name nor a text
      split
      · rfl
      · rfl
      · rename_i arg _ _
        rw [identifiersOfAll, agree_append] at agree
        rw [evalWithin_eq_of_agree room arg agree.1]
      · rfl
    · rfl

theorem evalAll_eq_of_agree : ∀ (room : Nat) (ts : List Term),
    Agree (identifiersOfAll ts) bindings others →
      evalAll ⟨bindings, functions⟩ room ts = evalAll ⟨others, functions⟩ room ts
  | room, [], _ => by rw [evalAll, evalAll]
  | room, t :: ts, agree => by
    rw [identifiersOfAll, agree_append] at agree
    rw [evalAll, evalAll, evalWithin_eq_of_agree room t agree.1,
      evalAll_eq_of_agree room ts agree.2]

end

end

/-! ### The caller -/

/-- The bindings agree on every name other than that of the caller, which either of them may bind
to anything or to nothing. -/
def AgreeButCaller (bindings others : Dictionary Value) : Prop :=
  ∀ name, name ≠ "caller" → Dictionary.get? name bindings = Dictionary.get? name others

namespace AgreeButCaller

variable {bindings others : Dictionary Value} (agree : AgreeButCaller bindings others)
include agree

theorem append (values : Dictionary Value) :
    AgreeButCaller (bindings ++ values) (others ++ values) := by
  intro name apart
  rw [Dictionary.get?_append, Dictionary.get?_append, agree name apart]

variable {t : Term} (silent : t.mentionsCaller = false) (functions : FunctionTable)
include silent

theorem eval_eq : t.eval ⟨bindings, functions⟩ = t.eval ⟨others, functions⟩ := by
  refine evalWithin_eq_of_agree functions maxDepth t fun name member => agree name ?_
  rintro rfl
  rw [t.mentionsCaller_iff.2 member] at silent
  cases silent

theorem evalBool_eq : t.evalBool ⟨bindings, functions⟩ = t.evalBool ⟨others, functions⟩ := by
  rw [evalBool, evalBool, agree.eval_eq silent]

end AgreeButCaller

/-- A term that does not mention the caller has one value, or fails with one error, under bindings
that differ in the caller at most. So a guard that does not mention the caller lets a transition
pass, or holds it up with one error, whoever calls. -/
theorem eval_regardless_of_caller {t : Term} (silent : t.mentionsCaller = false)
    (functions : FunctionTable) {bindings others : Dictionary Value}
    (agree : AgreeButCaller bindings others) :
    t.eval ⟨bindings, functions⟩ = t.eval ⟨others, functions⟩ ∧
    t.evalBool ⟨bindings, functions⟩ = t.evalBool ⟨others, functions⟩ ∧
    ∀ (e : Execution) (index : Nat) (transition : Transition),
      e.net.transitions[index]? = some transition → transition.guardTerm = .ok (some t) →
        e.checkGuard index bindings functions = e.checkGuard index others functions := by
  refine ⟨agree.eval_eq silent functions, agree.evalBool_eq silent functions, ?_⟩
  intro e index transition here guarded
  -- the contents of the places stand behind the bindings, the same on both sides
  have truth := fun values => (agree.append values).evalBool_eq silent
  rw [Execution.checkGuard, Execution.checkGuard, here]
  simp only [guarded, Net.scope, truth]

/-- The owner has a balance. -/
def solvent : Term := .binary .gt (.index (.ident "balances") (.ident "owner")) (.int 0)

/-- A payment that the balance of the owner allows. -/
def payment : Transition where
  id := "pay"
  guard := some solvent.render
  rate := 1.0

/-- Accounts with one balance. -/
def teller : Document where
  name := "teller"
  version := "1"
  places := [⟨"balances", .data, .map [("bob", .int 3)], true, none⟩]
  transitions := [payment]
  arcs := []
  invariants := []

/-- The balance of the owner decides with a caller and without one. -/
theorem eval_regardless_of_caller_teller :
    let called : Dictionary Value := [("caller", .str "alice"), ("owner", .str "bob")]
    let uncalled : Dictionary Value := [("owner", .str "bob")]
    solvent.mentionsCaller = false ∧ AgreeButCaller called uncalled ∧
      ∃ net, Net.ofDocument teller = .ok net ∧
        (Execution.start net false).checkGuard 0 called [] = .ok () ∧
        (Execution.start net false).checkGuard 0 uncalled [] = .ok () := by
  intro called uncalled
  have silent : solvent.mentionsCaller = false := by decide
  have agree : AgreeButCaller called uncalled := by
    intro name apart
    rw [Dictionary.get?_cons, if_neg apart.symm]
  have guarded : payment.guardTerm = .ok (some solvent) := by
    have parsed : parse solvent.render = .ok solvent :=
      parse_render_of_height_le (by decide +kernel) (by decide) (by decide)
    change (Condition.read solvent.render >>= fun condition => .ok condition.term) = _
    rw [Condition.read, if_neg (by decide), parsed]
    rfl
  obtain ⟨net, valid, here, holds⟩ : ∃ net, Net.ofDocument teller = .ok net ∧
      net.transitions[0]? = some payment ∧
      solvent.evalBool (net.scope (Marking.initial net) uncalled []) = .ok true :=
    ⟨_, rfl, rfl, rfl⟩
  have passes : (Execution.start net false).checkGuard 0 uncalled [] = .ok () := by
    rw [Execution.checkGuard, show (Execution.start net false).net.transitions[0]? = _ from here]
    simp only [guarded, Execution.start, holds]
  have same := (eval_regardless_of_caller silent [] agree).2.2 (.start net false) 0 payment here
    guarded
  exact ⟨silent, agree, net, valid, same.trans passes, passes⟩

end Guard.Term

end GuardedNet
