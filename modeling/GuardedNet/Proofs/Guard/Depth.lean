import GuardedNet.Proofs.Guard.Evaluation
import GuardedNet.Proofs.Guard.RoundTrip

/-!
# Guards against depth

Reading and evaluating both refuse a term of more than `maxDepth` levels. Reading counts the
levels it is in and the heights of what it has read, evaluation the levels it goes down. Main
statement: evaluation never refuses what reading accepts, and reading accepts every depth that
fewer than `maxDepth` tokens can reach (`depth_guards_agree`).
-/

namespace GuardedNet.Guard

/-! ### The height of what is read -/

/-- What is read, if anything, measures at most the limit. -/
abbrev AtMost {α : Type} (size : α → Nat) (limit : Nat)
    (outcome : Except ParseError (α × List Token)) : Prop :=
  Ends (fun reading => size reading.1 ≤ limit) (fun _ => True) outcome

/-- A term between brackets is at most as high as the room. An operand can have one level more,
since a leaf is accepted where no room is left. -/
structure Low (bound : Nat) : Prop where
  expression : ∀ room ts, AtMost Term.height room (readExpression bound room ts)
  binary : ∀ room level ts, AtMost Term.height (room + 1) (readBinary bound room level ts)
  chain : ∀ room level lhs ts, lhs.height ≤ room + 1 →
    AtMost Term.height (room + 1) (readChain bound room level lhs ts)
  unary : ∀ room ts, AtMost Term.height (room + 1) (readUnary bound room ts)
  access : ∀ room t ts, t.height ≤ room + 1 →
    AtMost Term.height (room + 1) (readPostfix bound room t ts)
  arguments : ∀ room ts, AtMost Term.heightAll room (readArguments bound room ts)
  list : ∀ room ts, AtMost Term.heightAll room (readArgumentList bound room ts)
  primary : ∀ room ts, AtMost Term.height (room + 1) (readPrimary bound room ts)

theorem ends_fitting (room : Nat) (t : Term) :
    Ends (fun whole => whole = t ∧ t.height ≤ room) (fun _ => True) (fitting room t) := by
  unfold fitting
  split
  · rename_i low
    exact ⟨rfl, low⟩
  · trivial

namespace Low

variable {bound : Nat} (low : Low bound)
include low

theorem readExpression_succ (room : Nat) (ts : List Token) :
    AtMost Term.height room (readExpression (bound + 1) room ts) := by
  rw [readExpression]
  cases room with
  | zero => trivial
  | succ room => exact low.binary room 1 ts

theorem readBinary_succ (room level : Nat) (ts : List Token) :
    AtMost Term.height (room + 1) (readBinary (bound + 1) room level ts) := by
  rw [readBinary]
  exact (low.unary room ts).bind fun reading here => low.chain room level reading.1 reading.2 here

theorem readChain_succ (room level : Nat) (lhs : Term) (ts : List Token)
    (here : lhs.height ≤ room + 1) :
    AtMost Term.height (room + 1) (readChain (bound + 1) room level lhs ts) := by
  unfold readChain
  split
  · split
    · exact here
    · refine (Ends.any _).bind fun reading _ => (ends_fitting room _).bind ?_
      rintro _ ⟨rfl, fits⟩
      exact low.chain room level _ reading.2 (Nat.le_succ_of_le fits)
  · exact here

theorem readUnary_succ (room : Nat) (ts : List Token) :
    AtMost Term.height (room + 1) (readUnary (bound + 1) room ts) := by
  have signed : ∀ op rest, AtMost Term.height (room + 1)
      (nested room (fun room => readUnary bound room rest) >>= fun reading =>
        pure (.unary op reading.1, reading.2)) := by
    intro op rest
    cases room with
    | zero => trivial
    | succ room => exact (low.unary room rest).bind fun reading here => Nat.succ_le_succ here
  unfold readUnary
  split
  · exact signed .not _
  · exact signed .neg _
  · exact (low.primary room ts).bind fun reading here =>
      low.access room reading.1 reading.2 here

theorem readPostfix_succ (room : Nat) (t : Term) (ts : List Token) (here : t.height ≤ room + 1) :
    AtMost Term.height (room + 1) (readPostfix (bound + 1) room t ts) := by
  have goOn : ∀ whole rest, AtMost Term.height (room + 1)
      (fitting room whole >>= fun whole => readPostfix bound room whole rest) := by
    intro whole rest
    refine (ends_fitting room whole).bind ?_
    rintro _ ⟨rfl, fits⟩
    exact low.access room _ rest (Nat.le_succ_of_le fits)
  unfold readPostfix
  split
  · refine (Ends.any _).bind fun reading _ => ?_
    exact (Ends.any _).bind fun rest _ => goOn _ rest
  · exact goOn _ _
  · trivial
  · trivial
  · split
    · exact (Ends.any _).bind fun reading _ => goOn _ reading.2
    · trivial
  · exact here

theorem readArguments_succ (room : Nat) (ts : List Token) :
    AtMost Term.heightAll room (readArguments (bound + 1) room ts) := by
  unfold readArguments
  split
  · exact Nat.zero_le room
  · exact low.list room ts

theorem readArgumentList_succ (room : Nat) (ts : List Token) :
    AtMost Term.heightAll room (readArgumentList (bound + 1) room ts) := by
  unfold readArgumentList
  refine (low.expression room ts).bind fun ⟨arg, rest⟩ here => ?_
  dsimp only
  split
  · exact (low.list room _).bind fun reading later => Nat.max_le.2 ⟨here, later⟩
  · exact Nat.max_le.2 ⟨here, Nat.zero_le room⟩
  · trivial
  · trivial

theorem readPrimary_succ (room : Nat) (ts : List Token) :
    AtMost Term.height (room + 1) (readPrimary (bound + 1) room ts) := by
  unfold readPrimary
  split
  case h_6 =>
    refine (low.expression room _).bind fun reading here => ?_
    exact (Ends.any _).bind fun rest _ => Nat.le_succ_of_le here
  all_goals first | trivial | exact Nat.le_add_left 1 room

end Low

theorem low (bound : Nat) : Low bound := by
  induction bound with
  | zero =>
    constructor
    all_goals intros
    all_goals simp [Ends, readExpression, readBinary, readChain, readUnary, readPostfix,
      readArguments, readArgumentList, readPrimary]
  | succ bound ih =>
    exact {
      expression := ih.readExpression_succ
      binary := ih.readBinary_succ
      chain := ih.readChain_succ
      unary := ih.readUnary_succ
      access := ih.readPostfix_succ
      arguments := ih.readArguments_succ
      list := ih.readArgumentList_succ
      primary := ih.readPrimary_succ }

/-- A term that is read has at most as many levels as are admitted. -/
theorem height_le_of_parseTokens {ts : List Token} {t : Term} (read : parseTokens ts = .ok t) :
    t.height ≤ maxDepth := by
  have here := (low (6 * ts.length + 12)).expression maxDepth ts
  rw [parseTokens_eq_ok_iff.1 read] at here
  exact here

/-! ### Few tokens -/

/-- Reading does not report the depth, and what it reads measures, together with the number of
tokens left, at most the limit. -/
abbrev Thrifty {α : Type} (size : α → Nat) (limit : Nat)
    (outcome : Except ParseError (α × List Token)) : Prop :=
  Ends (fun reading => size reading.1 + reading.2.length ≤ limit) (· ≠ .depthExceeded) outcome

theorem Thrifty.bind {α β : Type} {size : α → Nat} {limit : Nat} {good : β → Prop}
    {first : Except ParseError (α × List Token)} {next : α × List Token → Except ParseError β}
    (start : Thrifty size limit first)
    (goOn : ∀ a rest, size a + rest.length ≤ limit →
      Ends good (· ≠ .depthExceeded) (next (a, rest))) :
    Ends good (· ≠ .depthExceeded) (first >>= next) :=
  Ends.bind start fun (a, rest) used => goOn a rest used

/-- Every level takes a token at least. So the readers do not run out of room as long as the
tokens, and the levels of what stands to the left, are no more than the room; and the bound
suffices if it allows six calls for each token. -/
structure Ample (bound : Nat) : Prop where
  expression : ∀ room ts, ts.length < room → 6 * ts.length + 4 ≤ bound →
    Thrifty Term.height ts.length (readExpression bound room ts)
  binary : ∀ room level ts, ts.length ≤ room → 6 * ts.length + 3 ≤ bound →
    Thrifty Term.height ts.length (readBinary bound room level ts)
  chain : ∀ room level lhs ts, lhs.height + ts.length ≤ room → 6 * ts.length + 1 ≤ bound →
    Thrifty Term.height (lhs.height + ts.length) (readChain bound room level lhs ts)
  unary : ∀ room ts, ts.length ≤ room → 6 * ts.length + 2 ≤ bound →
    Thrifty Term.height ts.length (readUnary bound room ts)
  access : ∀ room t ts, t.height + ts.length ≤ room → 6 * ts.length + 1 ≤ bound →
    Thrifty Term.height (t.height + ts.length) (readPostfix bound room t ts)
  arguments : ∀ room ts, ts.length < room → 6 * ts.length + 6 ≤ bound →
    Thrifty (Term.heightAll · + 1) ts.length (readArguments bound room ts)
  list : ∀ room ts, ts.length < room → 6 * ts.length + 5 ≤ bound →
    Thrifty (Term.heightAll · + 1) ts.length (readArgumentList bound room ts)
  primary : ∀ room ts, ts.length ≤ room → 6 * ts.length + 1 ≤ bound →
    Thrifty Term.height ts.length (readPrimary bound room ts)

/-- A token that must come next is one token less. -/
theorem ends_expect (kind : TokenKind) (expected : Expected) (ts : List Token) :
    Ends (fun rest => rest.length + 1 = ts.length) (· ≠ .depthExceeded)
      (expect kind expected ts) := by
  cases ts with
  | nil => exact fun same => by cases same
  | cons token ts =>
    rw [expect]
    split
    · exact rfl
    · exact fun same => by cases same

namespace Ample

variable {bound : Nat} (ample : Ample bound)
include ample

theorem readExpression_succ (room : Nat) (ts : List Token) (deep : ts.length < room)
    (big : 6 * ts.length + 4 ≤ bound + 1) :
    Thrifty Term.height ts.length (readExpression (bound + 1) room ts) := by
  obtain ⟨room, rfl⟩ := Nat.exists_eq_add_one.2 (show 0 < room by omega)
  rw [readExpression, nested]
  exact ample.binary room 1 ts (Nat.le_of_lt_succ deep) (Nat.le_of_succ_le_succ big)

theorem readBinary_succ (room level : Nat) (ts : List Token) (deep : ts.length ≤ room)
    (big : 6 * ts.length + 3 ≤ bound + 1) :
    Thrifty Term.height ts.length (readBinary (bound + 1) room level ts) := by
  rw [readBinary]
  refine (ample.unary room ts deep (by omega)).bind fun lhs rest used => ?_
  refine (ample.chain room level lhs rest (by omega) (by omega)).mono fun reading later => ?_
  omega

theorem readChain_succ (room level : Nat) (lhs : Term) (ts : List Token)
    (deep : lhs.height + ts.length ≤ room) (big : 6 * ts.length + 1 ≤ bound + 1) :
    Thrifty Term.height (lhs.height + ts.length) (readChain (bound + 1) room level lhs ts) := by
  unfold readChain
  split
  · rename_i o pos after
    rw [List.length_cons] at deep big ⊢
    split
    · exact Nat.le_refl _
    · obtain ⟨room, rfl⟩ := Nat.exists_eq_add_one.2 (show 0 < room by omega)
      rw [nested]
      refine (ample.binary room _ after (by omega) (by omega)).bind fun rhs rest used => ?_
      dsimp only
      have height : (Term.binary o lhs rhs).height = max lhs.height rhs.height + 1 := by
        rw [Term.height]
      rw [fitting_of_height_le (by omega)]
      refine (ample.chain _ level _ rest (by omega) (by omega)).mono fun reading later => ?_
      omega
  · exact Nat.le_refl _

theorem readUnary_succ (room : Nat) (ts : List Token) (deep : ts.length ≤ room)
    (big : 6 * ts.length + 2 ≤ bound + 1) :
    Thrifty Term.height ts.length (readUnary (bound + 1) room ts) := by
  have signed : ∀ op rest, rest.length + 1 = ts.length → Thrifty Term.height ts.length
      (nested room (fun room => readUnary bound room rest) >>= fun reading =>
        pure (.unary op reading.1, reading.2)) := by
    intro op rest fewer
    obtain ⟨room, rfl⟩ := Nat.exists_eq_add_one.2 (show 0 < room by omega)
    rw [nested]
    refine (ample.unary room rest (by omega) (by omega)).bind fun operand after used => ?_
    change (Term.unary op operand).height + after.length ≤ ts.length
    rw [Term.height]
    omega
  unfold readUnary
  split
  · exact signed .not _ rfl
  · exact signed .neg _ rfl
  · refine (ample.primary room ts deep (by omega)).bind fun t rest used => ?_
    refine (ample.access room t rest (by omega) (by omega)).mono fun reading later => ?_
    omega

theorem readPostfix_succ (room : Nat) (t : Term) (ts : List Token)
    (deep : t.height + ts.length ≤ room) (big : 6 * ts.length + 1 ≤ bound + 1) :
    Thrifty Term.height (t.height + ts.length) (readPostfix (bound + 1) room t ts) := by
  -- one access more takes two tokens at least
  have goOn : ∀ (whole : Term) (rest : List Token),
      whole.height + rest.length ≤ t.height + ts.length → rest.length + 2 ≤ ts.length →
      Thrifty Term.height (t.height + ts.length)
        (fitting room whole >>= fun whole => readPostfix bound room whole rest) := by
    intro whole rest used fewer
    rw [fitting_of_height_le (by omega)]
    exact (ample.access room whole rest (by omega) (by omega)).mono fun reading later =>
      Nat.le_trans later used
  unfold readPostfix
  split
  · rename_i left after
    rw [List.length_cons] at *
    refine (ample.expression room after (by omega) (by omega)).bind fun position rest used => ?_
    refine (ends_expect ..).bind fun last fewer => goOn _ last ?_ (by omega)
    rw [Term.height]
    omega
  · rename_i dot name pos after
    refine goOn _ after ?_ (Nat.le_refl _)
    rw [Term.height, List.length_cons, List.length_cons]
    omega
  · exact fun same => by cases same
  · exact fun same => by cases same
  · rename_i left after
    rw [List.length_cons] at *
    split
    · refine (ample.arguments room after (by omega) (by omega)).bind fun args rest used => ?_
      refine goOn _ rest ?_ (by omega)
      rw [Term.height]
      omega
    · exact fun same => by cases same
  · exact Nat.le_refl _

theorem readArguments_succ (room : Nat) (ts : List Token) (deep : ts.length < room)
    (big : 6 * ts.length + 6 ≤ bound + 1) :
    Thrifty (Term.heightAll · + 1) ts.length (readArguments (bound + 1) room ts) := by
  unfold readArguments
  split
  · rename_i pos rest
    change Term.heightAll [] + 1 + rest.length ≤ rest.length + 1
    rw [Term.heightAll]
    omega
  · exact ample.list room ts deep (by omega)

theorem readArgumentList_succ (room : Nat) (ts : List Token) (deep : ts.length < room)
    (big : 6 * ts.length + 5 ≤ bound + 1) :
    Thrifty (Term.heightAll · + 1) ts.length (readArgumentList (bound + 1) room ts) := by
  unfold readArgumentList
  refine (ample.expression room ts deep (by omega)).bind fun arg rest used => ?_
  dsimp only
  split
  · rename_i pos after
    rw [List.length_cons] at used
    refine (ample.list room after (by omega) (by omega)).bind fun args last later => ?_
    change Term.heightAll (arg :: args) + 1 + last.length ≤ ts.length
    rw [Term.heightAll]
    omega
  · rename_i pos after
    rw [List.length_cons] at used
    change Term.heightAll [arg] + 1 + after.length ≤ ts.length
    rw [Term.heightAll, Term.heightAll]
    omega
  · exact fun same => by cases same
  · exact fun same => by cases same

theorem readPrimary_succ (room : Nat) (ts : List Token) (deep : ts.length ≤ room)
    (big : 6 * ts.length + 1 ≤ bound + 1) :
    Thrifty Term.height ts.length (readPrimary (bound + 1) room ts) := by
  unfold readPrimary
  split
  case h_6 left after =>
    rw [List.length_cons] at *
    refine (ample.expression room after (by omega) (by omega)).bind fun inner rest used => ?_
    refine (ends_expect ..).bind fun last fewer => ?_
    change inner.height + last.length ≤ after.length + 1
    omega
  all_goals first | exact fun same => by cases same | exact Nat.le_of_eq (Nat.add_comm ..)

end Ample

theorem ample (bound : Nat) : Ample bound := by
  induction bound with
  | zero =>
    constructor
    all_goals intros
    all_goals omega
  | succ bound ih =>
    exact {
      expression := ih.readExpression_succ
      binary := ih.readBinary_succ
      chain := ih.readChain_succ
      unary := ih.readUnary_succ
      access := ih.readPostfix_succ
      arguments := ih.readArguments_succ
      list := ih.readArgumentList_succ
      primary := ih.readPrimary_succ }

/-- Fewer tokens than levels are admitted do not exceed the depth. -/
theorem parseTokens_ne_depthExceeded {ts : List Token} (few : ts.length < maxDepth) :
    parseTokens ts ≠ .error .depthExceeded := by
  have ends : Ends (fun _ => True) (· ≠ .depthExceeded) (parseTokens ts) := by
    refine ((ample _).expression maxDepth ts few (by omega)).bind fun t rest _ => ?_
    dsimp only
    split
    · trivial
    · exact fun same => by cases same
  intro out
  rw [out] at ends
  exact ends rfl

/-! ### Evaluation -/

/-- Evaluation does not report the depth. -/
abbrev Shallow {α : Type} (outcome : Except EvalError α) : Prop :=
  Ends (fun _ => True) (· ≠ .depthExceeded) outcome

/-- No call of the function reports the depth. -/
def Function.Shallow : Function → Prop
  | .native run => ∀ args, Guard.Shallow (run args)
  | .aggregate run => ∀ start, Guard.Shallow (run start)

/-- No function of the table reports the depth. -/
def FunctionTable.Shallow (table : FunctionTable) : Prop :=
  ∀ name f, Dictionary.get? name table = some f → f.Shallow

theorem shallow_requireBool (op : String) (value : Value) : Shallow (requireBool op value) := by
  unfold requireBool
  split
  · trivial
  · exact fun same => by cases same

theorem shallow_intOperands (op : BinaryOp) (left right : Value) :
    Shallow (intOperands op left right) := by
  unfold intOperands
  split
  · trivial
  · exact fun same => by cases same

theorem shallow_boolOperands (op : BinaryOp) (left right : Value) :
    Shallow (boolOperands op left right) := by
  unfold boolOperands
  split
  · trivial
  · exact fun same => by cases same

theorem shallow_bounded (op : String) (n : Int) : Shallow (bounded op n) := by
  unfold bounded
  split
  · trivial
  · exact fun same => by cases same

theorem shallow_valuesEqual (left right : Value) : Shallow (valuesEqual left right) := by
  unfold valuesEqual
  split
  · trivial
  · split
    all_goals first | trivial | exact fun same => by cases same

theorem shallow_compareValues (op : BinaryOp) (left right : Value) :
    Shallow (compareValues op left right) := by
  unfold compareValues
  split
  · trivial
  · split
    · trivial
    · exact fun same => by cases same

theorem shallow_addValues (left right : Value) : Shallow (addValues left right) := by
  unfold addValues
  split
  · split
    · exact shallow_bounded ..
    · trivial
  · exact (shallow_intOperands ..).bind fun _ _ => shallow_bounded ..

theorem shallow_divideValues (op : BinaryOp) (left right : Value) :
    Shallow (divideValues op left right) := by
  refine (shallow_intOperands ..).bind fun ⟨l, r⟩ _ => ?_
  dsimp only
  split
  · exact fun same => by cases same
  split
  · exact fun same => by cases same
  split
  · trivial
  · trivial

theorem BinaryOp.shallow_apply (op : BinaryOp) (left right : Value) :
    Shallow (op.apply left right) := by
  cases op with
  | add => exact shallow_addValues ..
  | sub | mul => exact (shallow_intOperands ..).bind fun _ _ => shallow_bounded ..
  | div | rem => exact shallow_divideValues ..
  | eq | ne => exact (shallow_valuesEqual ..).bind fun _ _ => trivial
  | lt | le | gt | ge => exact (shallow_compareValues ..).bind fun _ _ => trivial
  | and | or => exact (shallow_boolOperands ..).bind fun _ _ => trivial

theorem UnaryOp.shallow_apply (op : UnaryOp) (value : Value) : Shallow (op.apply value) := by
  cases op with
  | not => exact (shallow_requireBool ..).bind fun _ _ => trivial
  | neg =>
    unfold apply
    dsimp only
    split
    · exact fun same => by cases same
    · exact shallow_bounded ..

theorem shallow_indexValue (target position : Value) : Shallow (indexValue target position) := by
  unfold indexValue
  repeat' split
  all_goals first | trivial | exact fun same => by cases same

theorem shallow_fieldValue (target : Value) (name : String) : Shallow (fieldValue target name) := by
  unfold fieldValue
  split
  · trivial
  · exact fun same => by cases same

theorem shallow_startOf (name : String) (value : Value) : Shallow (startOf name value) := by
  unfold startOf
  split
  · trivial
  · exact fun same => by cases same

mutual

/-- A term with no more levels than there is room is evaluated without a report of the depth. -/
theorem Term.shallow_evalWithin {scope : Scope} (functions : scope.functions.Shallow) :
    ∀ (t : Term) {room : Nat}, t.height ≤ room → Shallow (t.evalWithin scope room)
  | t, 0, low => absurd t.height_pos (Nat.not_lt.2 low)
  | .binary op lhs rhs, room + 1, low => by
    rw [height] at low
    have left : Shallow (lhs.evalWithin scope room) := lhs.shallow_evalWithin functions (by omega)
    have right : Shallow (rhs.evalWithin scope room) := rhs.shallow_evalWithin functions (by omega)
    have decided : ∀ sign, Shallow (do
        let r ← rhs.evalWithin scope room
        return Value.bool (← requireBool sign r)) := fun sign =>
      right.bind fun r _ => (shallow_requireBool sign r).bind fun _ _ => trivial
    cases op
    case and =>
      rw [evalWithin]
      refine left.bind fun l _ => (shallow_requireBool "&&" l).bind fun holds _ => ?_
      cases holds
      · trivial
      · exact decided "&&"
    case or =>
      rw [evalWithin]
      refine left.bind fun l _ => (shallow_requireBool "||" l).bind fun holds _ => ?_
      cases holds
      · exact decided "||"
      · trivial
    all_goals
      rw [evalWithin_binary (by decide) (by decide)]
      exact left.bind fun l _ => right.bind fun r _ => BinaryOp.shallow_apply _ l r
  | .unary op operand, room + 1, low => by
    rw [height] at low
    rw [evalWithin]
    exact (operand.shallow_evalWithin functions (Nat.le_of_succ_le_succ low)).bind
      fun value _ => op.shallow_apply value
  | .ident name, room + 1, _ => by
    rw [evalWithin]
    split
    · trivial
    · exact fun same => by cases same
  | .int n, room + 1, _ => by
    rw [evalWithin]
    trivial
  | .str s, room + 1, _ => by
    rw [evalWithin]
    trivial
  | .bool b, room + 1, _ => by
    rw [evalWithin]
    trivial
  | .index target position, room + 1, low => by
    rw [height] at low
    rw [evalWithin]
    refine (target.shallow_evalWithin functions (by omega)).bind fun value _ => ?_
    exact (position.shallow_evalWithin functions (by omega)).bind
      fun key _ => shallow_indexValue value key
  | .field target name, room + 1, low => by
    rw [height] at low
    rw [evalWithin]
    exact (target.shallow_evalWithin functions (Nat.le_of_succ_le_succ low)).bind
      fun value _ => shallow_fieldValue value name
  | .call name args, room + 1, low => by
    rw [height] at low
    rw [evalWithin]
    split
    · exact fun same => by cases same
    · rename_i run found
      have runs : ∀ start, Shallow (run start) := functions name _ found
      split
      · exact runs _
      · exact runs _
      · rename_i arg _ _
        rw [heightAll, heightAll] at low
        refine (arg.shallow_evalWithin functions (by omega)).bind fun value _ => ?_
        exact (shallow_startOf name value).bind fun start _ => runs start
      · exact fun same => by cases same
    · rename_i run found
      have runs : ∀ values, Shallow (run values) := functions name _ found
      exact (shallow_evalAll functions args (Nat.le_of_succ_le_succ low)).bind
        fun values _ => runs values

theorem Term.shallow_evalAll {scope : Scope} (functions : scope.functions.Shallow) :
    ∀ (ts : List Term) {room : Nat}, heightAll ts ≤ room → Shallow (evalAll scope room ts)
  | [], _, _ => by
    rw [evalAll]
    trivial
  | t :: ts, room, low => by
    rw [heightAll] at low
    rw [evalAll]
    refine (t.shallow_evalWithin functions (by omega)).bind fun value _ => ?_
    exact (shallow_evalAll functions ts (by omega)).bind fun values _ => trivial

end

/-! ### The functions of every guard -/

theorem shallow_sumOfTotals (values : List Value) : Shallow (sumOfTotals values) := by
  unfold sumOfTotals
  split
  · trivial
  · exact fun same => by cases same

theorem shallow_totalOf (value : Value) : Shallow (totalOf value) := by
  unfold totalOf
  split
  · trivial
  · exact fun same => by cases same

theorem shallow_mapM_totalOf (values : List Value) : Shallow (values.mapM totalOf) := by
  induction values with
  | nil => trivial
  | cons value values ih =>
    rw [List.mapM_cons]
    exact (shallow_totalOf value).bind fun n _ => ih.bind fun ns _ => trivial

theorem shallow_expectArity (name : String) (args : List Value) (expected : Nat) :
    Shallow (expectArity name args expected) := by
  unfold expectArity
  split
  · trivial
  · exact fun same => by cases same

theorem shallow_address (args : List Value) : Shallow (address args) := by
  refine (shallow_expectArity ..).bind fun _ _ => ?_
  split
  · exact fun same => by cases same
  split
  · exact fun same => by cases same
  · trivial

/-- The functions that guards always have do not report the depth. -/
theorem shallow_functions (places : Dictionary Value) :
    FunctionTable.Shallow (aggregates places ++ builtins) := by
  intro name f found
  simp only [aggregates, builtins, List.cons_append, List.nil_append, Dictionary.get?_cons,
    Dictionary.get?_nil] at found
  split at found
  · obtain rfl := Option.some.inj found
    exact fun start => (shallow_sumOfTotals _).bind fun n _ => trivial
  split at found
  · obtain rfl := Option.some.inj found
    exact fun start => trivial
  split at found
  · obtain rfl := Option.some.inj found
    intro id
    dsimp only
    split
    · exact fun same => by cases same
    · exact (shallow_totalOf _).bind fun n _ => trivial
  split at found
  · obtain rfl := Option.some.inj found
    exact fun start => (shallow_mapM_totalOf _).bind fun ns _ => trivial
  split at found
  · obtain rfl := Option.some.inj found
    exact fun start => (shallow_mapM_totalOf _).bind fun ns _ => trivial
  split at found
  · obtain rfl := Option.some.inj found
    exact shallow_address
  · cases found

/-- The two guards against depth agree. A term that is read has at most `maxDepth` levels, and
evaluating a term of at most `maxDepth` levels, read or not, does not report the depth unless a
function that is called does. A text of fewer than `maxDepth` tokens is never refused for its
depth. -/
theorem depth_guards_agree (text : String) :
    (∀ t, parse text = .ok t → t.height ≤ maxDepth ∧
      ∀ scope : Scope, scope.functions.Shallow → t.eval scope ≠ .error .depthExceeded) ∧
    (∀ t : Term, t.height ≤ maxDepth →
      ∀ scope : Scope, scope.functions.Shallow → t.eval scope ≠ .error .depthExceeded) ∧
    (∀ ts, tokenize text = .ok ts → ts.length < maxDepth →
      parse text ≠ .error .depthExceeded) := by
  have evaluated : ∀ t : Term, t.height ≤ maxDepth →
      ∀ scope : Scope, scope.functions.Shallow → t.eval scope ≠ .error .depthExceeded := by
    intro t low scope functions out
    have shallow : Shallow (t.eval scope) := t.shallow_evalWithin functions low
    rw [out] at shallow
    exact shallow rfl
  refine ⟨fun t read => ?_, evaluated, fun ts lexed few => ?_⟩
  · obtain ⟨ts, -, read⟩ := bind_eq_ok.1 read
    have low := height_le_of_parseTokens read
    exact ⟨low, evaluated t low⟩
  · rw [parse, lexed]
    exact parseTokens_ne_depthExceeded few

/-- A text with a sign, parentheses and a call, in a scope with the functions of every guard. -/
theorem depth_guards_agree_call :
    let scope : Scope := ⟨[], aggregates [("ab", .int 5)] ++ builtins⟩
    let t := Term.unary .neg (.binary .sub (.call "sum" [.ident "a"]) (.int 2))
    parse t.render = .ok t ∧ t.height ≤ maxDepth ∧ t.eval scope ≠ .error .depthExceeded ∧
      parse t.render ≠ .error .depthExceeded := by
  intro scope t
  have proper : t.isProper = true := by decide +kernel
  have read : parse t.render = .ok t := parse_render_of_height_le proper (by decide) (by decide)
  obtain ⟨ts, lexed, kinds⟩ := Term.tokenize_render proper
  have nine : ts.length = 9 := by
    rw [← List.length_map Token.kind, kinds]
    decide
  obtain ⟨accepted, -, few⟩ := depth_guards_agree t.render
  obtain ⟨low, evaluated⟩ := accepted t read
  exact ⟨read, low, evaluated scope (shallow_functions _), few ts lexed (by rw [nine]; decide)⟩

end GuardedNet.Guard
