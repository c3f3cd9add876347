import GuardedNet.Guard.Clause
import GuardedNet.Proofs.Guard.Evaluation

/-!
# What clauses say of a guard

A guard is split at its conjunctions into clauses, which can be evaluated one by one. The stack
that splits it yields the clauses of its left side and then those of its right side
(`Term.conjuncts_eq_clauses`). Main statement: the guard is true if all clauses are, and else has
the outcome of the first clause that is not true; the clauses are no conjunctions and stand in the
order of the guard (`Term.evalBool_conjuncts`).
-/

namespace GuardedNet.Guard

/-- The two sides of an operator. -/
inductive Side where
  | left | right

/-- The left side stands before the right side. -/
def Side.Before (side other : Side) : Prop := side = .left ∧ other = .right

namespace Term

/-- Whether a term is a conjunction. -/
def isConjunction : Term → Bool
  | .binary .and _ _ => true
  | _ => false

theorem isConjunction_eq_false {t : Term}
    (other : ∀ lhs rhs, t = .binary .and lhs rhs → False) : t.isConjunction = false := by
  unfold isConjunction
  split
  · exact absurd rfl (other _ _)
  · rfl

/-! ### The clauses of a term -/

/-- The clauses of a term, those of the left side of a conjunction before those of the right. -/
def clauses : Term → List Term
  | .binary .and lhs rhs => lhs.clauses ++ rhs.clauses
  | t => [t]

/-- A stack is emptied into the clauses found before and then those of its terms. -/
theorem splitPending_eq (found pending : List Term) :
    splitPending found pending = found.reverse ++ pending.flatMap clauses := by
  fun_induction splitPending found pending with
  | case1 found => simp
  | case2 found lhs rhs pending ih => simp [ih, clauses]
  | case3 found t pending other ih =>
    have single : t.clauses = [t] := by
      rw [clauses]
      exact other
    simp [ih, single]

theorem conjuncts_eq_clauses (t : Term) : t.conjuncts = t.clauses := by
  simp [conjuncts, splitPending_eq]

/-! ### Where clauses stand -/

/-- What a way through conjunctions leads to. -/
def along? : Term → List Side → Option Term
  | t, [] => some t
  | .binary .and lhs _, .left :: way => lhs.along? way
  | .binary .and _ rhs, .right :: way => rhs.along? way
  | _, _ :: _ => none

/-- The ways to the clauses of a term, those on the left side of a conjunction first. -/
def clauseWays : Term → List (List Side)
  | .binary .and lhs rhs => lhs.clauseWays.map (.left :: ·) ++ rhs.clauseWays.map (.right :: ·)
  | _ => [[]]

@[simp] theorem along?_nil (t : Term) : t.along? [] = some t := by rw [along?]

theorem along?_cons_eq_none {t : Term} (other : ∀ lhs rhs, t = .binary .and lhs rhs → False)
    (side : Side) (way : List Side) : t.along? (side :: way) = none := by
  rw [along?]
  · exact fun lhs rhs same _ => other lhs rhs same
  · exact fun lhs rhs same _ => other lhs rhs same

theorem isConjunction_of_mem_clauses {t clause : Term} (member : clause ∈ t.clauses) :
    clause.isConjunction = false := by
  fun_induction clauses t with
  | case1 lhs rhs left right =>
    rcases List.mem_append.1 member with member | member
    · exact left member
    · exact right member
  | case2 t other =>
    obtain rfl := List.mem_singleton.1 member
    exact isConjunction_eq_false other

theorem pairwise_clauseWays (t : Term) : t.clauseWays.Pairwise (List.Lex Side.Before) := by
  fun_induction clauseWays t with
  | case1 lhs rhs left right =>
    refine List.pairwise_append.2 ⟨?_, ?_, ?_⟩
    · exact List.pairwise_map.2 (left.imp List.Lex.cons)
    · exact List.pairwise_map.2 (right.imp List.Lex.cons)
    · intro way onLeft way' onRight
      obtain ⟨way, -, rfl⟩ := List.mem_map.1 onLeft
      obtain ⟨way', -, rfl⟩ := List.mem_map.1 onRight
      exact List.Lex.rel ⟨rfl, rfl⟩
  | case2 t other => exact List.pairwise_singleton _ _

theorem map_along?_clauseWays (t : Term) : t.clauseWays.map t.along? = t.clauses.map some := by
  fun_induction clauseWays t with
  | case1 lhs rhs left right =>
    rw [clauses, List.map_append, List.map_append, ← left, ← right, List.map_map, List.map_map]
    rfl
  | case2 t other =>
    rw [clauses]
    · simp
    · exact other

theorem mem_clauseWays_iff {t : Term} {way : List Side} :
    way ∈ t.clauseWays ↔ ∃ clause, t.along? way = some clause ∧ clause.isConjunction = false := by
  fun_induction clauseWays t generalizing way with
  | case1 lhs rhs left right =>
    cases way with
    | nil => simp [isConjunction]
    | cons side way =>
      cases side with
      | left => simp [along?, left]
      | right => simp [along?, right]
  | case2 t other =>
    cases way with
    | nil => simp [isConjunction_eq_false other]
    | cons side way => simp [along?_cons_eq_none other]

/-! ### Clauses one after the other -/

/-- The truth of clauses, asked for from first to last until one is not true. -/
def truthOfAll (sign : String) (scope : Scope) : List Term → Except EvalError Bool
  | [] => .ok true
  | clause :: rest => do
    if ← clause.truthWithin sign scope maxDepth then truthOfAll sign scope rest
    else return false

theorem truthOfAll_append (sign : String) (scope : Scope) (clauses rest : List Term) :
    truthOfAll sign scope (clauses ++ rest) = do
      if ← truthOfAll sign scope clauses then truthOfAll sign scope rest else return false := by
  induction clauses with
  | nil => rfl
  | cons clause clauses ih =>
    rw [List.cons_append, truthOfAll, truthOfAll, ih]
    cases clause.truthWithin sign scope maxDepth with
    | error cause => rfl
    | ok holds => cases holds <;> rfl

theorem truthOfAll_singleton (sign : String) (scope : Scope) (clause : Term) :
    truthOfAll sign scope [clause] = clause.truthWithin sign scope maxDepth := by
  rw [truthOfAll, truthOfAll]
  cases clause.truthWithin sign scope maxDepth with
  | error cause => rfl
  | ok holds => cases holds <;> rfl

/-- A conjunction has the truth of its sides, whatever asks for it. -/
theorem truthWithin_and (sign : String) (scope : Scope) (room : Nat) (lhs rhs : Term) :
    (Term.binary .and lhs rhs).truthWithin sign scope (room + 1) = do
      if ← lhs.truthWithin "&&" scope room then rhs.truthWithin "&&" scope room
      else return false := by
  rw [truthWithin, evalWithin_and]
  cases lhs.truthWithin "&&" scope room with
  | error cause => rfl
  | ok holds =>
    cases holds with
    | false => rfl
    | true => cases rhs.truthWithin "&&" scope room <;> rfl

/-- A side of a conjunction has the truth of its clauses. -/
theorem truthWithin_eq_truthOfAll {scope : Scope} {t : Term} {room : Nat} (low : t.height ≤ room)
    (admitted : room ≤ maxDepth) :
    t.truthWithin "&&" scope room = truthOfAll "&&" scope t.clauses := by
  fun_induction clauses t generalizing room with
  | case1 lhs rhs left right =>
    rw [height] at low
    obtain ⟨room, rfl⟩ := Nat.exists_eq_add_one.2 (show 0 < room by omega)
    rw [truthWithin_and, truthOfAll_append, left (by omega) (by omega),
      right (by omega) (by omega)]
  | case2 t other =>
    rw [truthOfAll_singleton, truthWithin, truthWithin, evalWithin_of_le low admitted]

/-- The sign under which a guard asks for its clauses. -/
def clauseSign (t : Term) : String := if t.isConjunction then "&&" else "condition"

/-- A guard has the truth of its clauses. -/
theorem evalBool_eq_truthOfAll {scope : Scope} {t : Term} (low : t.height ≤ maxDepth) :
    t.evalBool scope = truthOfAll t.clauseSign scope t.clauses := by
  change t.truthWithin "condition" scope maxDepth = _
  unfold clauseSign isConjunction
  split
  · rw [if_pos rfl, ← truthWithin_eq_truthOfAll low (Nat.le_refl _), maxDepth, truthWithin_and,
      truthWithin_and]
  · rename_i other
    rw [clauses, truthOfAll_singleton]
    · rfl
    · exact fun lhs rhs same => other lhs rhs same

/-! ### The first clause that is not true -/

/-- The clause is the first that is not true. -/
def FirstUntrue (scope : Scope) (clauses : List Term) (clause : Term) : Prop :=
  FirstFailing (fun other => other.evalBool scope = .ok true) clauses clause

theorem truthWithin_eq_ok_iff (sign : String) {scope : Scope} {t : Term} {b : Bool} :
    t.truthWithin sign scope maxDepth = .ok b ↔ t.evalBool scope = .ok b := by
  change (t.eval scope >>= requireBool sign) = .ok b ↔
    (t.eval scope >>= requireBool "condition") = .ok b
  cases t.eval scope with
  | error cause => rfl
  | ok value => cases value <;> simp [bind, Except.bind, requireBool, Value.asBool?]

/-- Clauses are all true exactly if each one is. -/
theorem truthOfAll_eq_true_iff {sign : String} {scope : Scope} {clauses : List Term} :
    truthOfAll sign scope clauses = .ok true ↔
      ∀ clause ∈ clauses, clause.evalBool scope = .ok true := by
  induction clauses with
  | nil => simp [truthOfAll]
  | cons clause rest ih =>
    rw [truthOfAll, List.forall_mem_cons, ← truthWithin_eq_ok_iff sign, ← ih]
    cases clause.truthWithin sign scope maxDepth with
    | error cause => simp [bind, Except.bind]
    | ok holds => cases holds <;> simp [bind, Except.bind, pure, Except.pure]

/-- Any other outcome of clauses is that of the first one that is not true. -/
theorem truthOfAll_eq_iff {sign : String} {scope : Scope} {clauses : List Term}
    {outcome : Except EvalError Bool} (untrue : outcome ≠ .ok true) :
    truthOfAll sign scope clauses = outcome ↔ ∃ clause, FirstUntrue scope clauses clause ∧
      clause.truthWithin sign scope maxDepth = outcome := by
  induction clauses with
  | nil => simp [truthOfAll, FirstUntrue, FirstFailing.not_nil, untrue.symm]
  | cons clause rest ih =>
    simp only [FirstUntrue] at ih
    simp only [FirstUntrue, FirstFailing.cons_iff, truthOfAll]
    by_cases here : clause.evalBool scope = .ok true
    · have holds := (truthWithin_eq_ok_iff sign).2 here
      simp [here, holds, bind, Except.bind, ih]
    · have fails : clause.truthWithin sign scope maxDepth ≠ .ok true := fun holds =>
        here ((truthWithin_eq_ok_iff sign).1 holds)
      cases own : clause.truthWithin sign scope maxDepth with
      | error cause => simp [here, own, bind, Except.bind]
      | ok holds =>
        cases holds with
        | true => exact absurd own fails
        | false => simp [here, own, bind, Except.bind, pure, Except.pure]

/-- The failure of a clause by itself and as the guard reports it. They are the same, except for a
clause with a value that is no truth value: then both are type mismatches with one detail and
differ in the operator. -/
inductive Reported (scope : Scope) (sign : String) (clause : Term) : EvalError → EvalError → Prop
  | same {cause : EvalError} : clause.eval scope = .error cause →
      Reported scope sign clause cause cause
  | mismatch {value : Value} : clause.eval scope = .ok value → value.asBool? = none →
      Reported scope sign clause
        (.typeMismatch "condition" ("expected bool, found " ++ value.kind))
        (.typeMismatch sign ("expected bool, found " ++ value.kind))

theorem requireBool_eq_error_iff {sign : String} {value : Value} {cause : EvalError} :
    requireBool sign value = .error cause ↔ value.asBool? = none ∧
      cause = .typeMismatch sign ("expected bool, found " ++ value.kind) := by
  unfold requireBool
  split
  · rename_i b isBool
    simp [isBool]
  · rename_i noBool
    simp [noBool, eq_comm]

/-- A clause fails under a sign as it does by itself, but for the operator of a mismatch. -/
theorem truthWithin_eq_error_iff {sign : String} {scope : Scope} {clause : Term}
    {cause : EvalError} :
    clause.truthWithin sign scope maxDepth = .error cause ↔
      ∃ own, clause.evalBool scope = .error own ∧ Reported scope sign clause own cause := by
  change (clause.eval scope >>= requireBool sign) = .error cause ↔
    ∃ own, (clause.eval scope >>= requireBool "condition") = .error own ∧ _
  simp only [bind_eq_error, requireBool_eq_error_iff]
  constructor
  · rintro (fails | ⟨value, valued, noBool, rfl⟩)
    · exact ⟨cause, Or.inl fails, .same fails⟩
    · exact ⟨_, Or.inr ⟨value, valued, noBool, rfl⟩, .mismatch valued noBool⟩
  · rintro ⟨own, -, fails | ⟨valued, noBool⟩⟩
    · exact Or.inl fails
    · exact Or.inr ⟨_, valued, noBool, rfl⟩

/-- Splitting a guard into clauses keeps its meaning. It is true exactly if every clause is; it is
false exactly if the first clause that is not true is false, and fails exactly if that clause does,
with the same error but for the operator of a mismatch. No clause is a conjunction, and they stand
in the order of the ways that lead to them, which are all ways through conjunctions to something
else. -/
theorem evalBool_conjuncts {t : Term} (low : t.height ≤ maxDepth) (scope : Scope) :
    (t.evalBool scope = .ok true ↔
      ∀ clause ∈ t.conjuncts, clause.evalBool scope = .ok true) ∧
    (t.evalBool scope = .ok false ↔
      ∃ clause, FirstUntrue scope t.conjuncts clause ∧ clause.evalBool scope = .ok false) ∧
    (∀ cause, t.evalBool scope = .error cause ↔
      ∃ clause, FirstUntrue scope t.conjuncts clause ∧
        ∃ own, clause.evalBool scope = .error own ∧
          Reported scope t.clauseSign clause own cause) ∧
    (∀ clause ∈ t.conjuncts, clause.isConjunction = false) ∧
    ∃ ways : List (List Side), ways.Pairwise (List.Lex Side.Before) ∧
      (∀ way, way ∈ ways ↔
        ∃ clause, t.along? way = some clause ∧ clause.isConjunction = false) ∧
      ways.map t.along? = t.conjuncts.map some := by
  rw [conjuncts_eq_clauses, evalBool_eq_truthOfAll low]
  refine ⟨truthOfAll_eq_true_iff, ?_, fun cause => ?_,
    fun clause => isConjunction_of_mem_clauses,
    ⟨t.clauseWays, t.pairwise_clauseWays, fun way => mem_clauseWays_iff,
      t.map_along?_clauseWays⟩⟩
  · rw [truthOfAll_eq_iff (by simp)]
    simp only [truthWithin_eq_ok_iff]
  · rw [truthOfAll_eq_iff (by simp)]
    simp only [truthWithin_eq_error_iff]

/-- The second of three clauses is a number: the guard fails like it, but under the sign of the
conjunction. -/
theorem evalBool_conjuncts_number :
    let t : Term := .binary .and (.ident "open") (.binary .and (.int 5) (.ident "missing"))
    let scope : Scope := ⟨[("open", .bool true)], []⟩
    t.height ≤ maxDepth ∧ t.conjuncts = [.ident "open", .int 5, .ident "missing"] ∧
      (Term.int 5).evalBool scope =
        .error (.typeMismatch "condition" "expected bool, found int") ∧
      t.evalBool scope = .error (.typeMismatch "&&" "expected bool, found int") := by
  intro t scope
  have low : t.height ≤ maxDepth := by decide
  have split : t.conjuncts = [.ident "open", .int 5, .ident "missing"] := t.conjuncts_eq_clauses
  have alone : (Term.int 5).evalBool scope =
      .error (.typeMismatch "condition" "expected bool, found int") := rfl
  refine ⟨low, split, alone, ((evalBool_conjuncts low scope).2.2.1 _).2 ⟨.int 5, ?_, _, alone, ?_⟩⟩
  · refine ⟨[.ident "open"], [.ident "missing"], split, fun earlier member => ?_, by simp [alone]⟩
    obtain rfl := List.mem_singleton.1 member
    rfl
  · have valued : (Term.int 5).eval scope = .ok (.int 5) := rfl
    exact .mismatch valued rfl

end Term

end GuardedNet.Guard
