import GuardedNet.Proofs.Guard.Arithmetic
import GuardedNet.Proofs.Guard.RoundTrip
import GuardedNet.Proofs.Structure.Check

/-!
# The text of an invariant

A place invariant is shown as a condition without parentheses, whose reading depends on how tightly
signs and operators bind. Pieces of such a text are put together with the terms that they are read
as (`Guard.Shows`), and the terms with the integers that they yield (`Guard.Yields`). Main
statement: the text of an invariant is read, and says of any amounts whether their weighted sum is
the value of the invariant (`PlaceInvariant.evaluate_render`).
-/

namespace GuardedNet

namespace Guard

open Text (StopsAt)

/-! ### Texts and terms -/

/-- The characters, in front of a text that does not go on with a word, show tokens that are read as
the phrase with room for `need` levels. -/
def Shows (need : Nat) (phrase : Phrase) (cs : List Char) : Prop :=
  ∃ kinds, (∀ rest, StopsAt isWordPart rest → Lexes cs kinds rest) ∧
    ∀ ts : List Token, ts.map Token.kind = kinds → Complete need phrase ts

namespace Shows

variable {need left right : Nat} {t lhs rhs : Term} {cs ls rs : List Char}

/-- A piece of text with a single token. -/
theorem ofToken {kind : TokenKind}
    (lexes : ∀ rest, StopsAt isWordPart rest → Lexes cs [kind] rest)
    (reads : ∀ bound room pos rest,
      readPrimary (bound + 1) room (⟨kind, pos⟩ :: rest) = .ok (t, rest)) :
    Shows need (.signed t) cs := by
  refine ⟨[kind], lexes, ?_⟩
  intro ts same
  obtain ⟨pos, rest, rfl, none⟩ := exists_token_of_map_kind same
  obtain rfl := List.map_eq_nil_iff.1 none
  have atom : Complete need (.atom t) [⟨kind, pos⟩] :=
    .literal fun bound room => reads bound room pos
  exact (atom.plain (Nat.succ_pos _)).unsigned

theorem name {name : String} (named : isName name = true) :
    Shows need (.signed (.ident name)) name.toList :=
  .ofToken (fun _ stops => lexes_name named stops) fun _ _ _ _ => by rw [readPrimary]

theorem number {n : Nat} (fits : (n : Int) ≤ Number.greatest) :
    Shows need (.signed (.int n)) (Nat.toDigits 10 n) :=
  .ofToken (fun _ stops => lexes_int (Int.natCast_nonneg n) fits stops)
    fun _ _ _ _ => by rw [readPrimary]

theorem neg (shows : Shows right (.signed t) cs) (deep : right < need) :
    Shows need (.signed (.unary .neg t)) ('-' :: cs) := by
  obtain ⟨kinds, lexes, complete⟩ := shows
  refine ⟨.op .sub :: kinds, fun rest stops => (lexes_minus _).cons (lexes rest stops), ?_⟩
  intro ts same
  obtain ⟨pos, rest, rfl, later⟩ := exists_token_of_map_kind same
  exact (complete rest later).neg deep

/-- A piece without an operator is an operand of any. -/
theorem operand (shows : Shows need (.signed t) cs) {level : Nat} (low : level ≤ 6) :
    Shows need (.chain level t) cs := by
  obtain ⟨kinds, lexes, complete⟩ := shows
  exact ⟨kinds, lexes, fun ts same => (complete ts same).operand.loosen low⟩

theorem loosen {level tight : Nat} (shows : Shows need (.chain tight t) cs) (less : level ≤ tight) :
    Shows need (.chain level t) cs := by
  obtain ⟨kinds, lexes, complete⟩ := shows
  exact ⟨kinds, lexes, fun ts same => (complete ts same).loosen less⟩

/-- Two pieces with an operator and blanks between them. -/
theorem binary (op : BinaryOp) (first : Shows left (.chain op.precedence lhs) ls)
    (second : Shows right (.chain (op.precedence + 1) rhs) rs) (deepLeft : left ≤ need)
    (deepRight : right < need) (low : (Term.binary op lhs rhs).height ≤ need) :
    Shows need (.chain op.precedence (.binary op lhs rhs))
      (ls ++ ' ' :: (op.symbol.toList ++ ' ' :: rs)) := by
  obtain ⟨kinds, lexes, complete⟩ := first
  obtain ⟨kinds', lexes', complete'⟩ := second
  refine ⟨kinds ++ .op op :: kinds', fun rest stops => ?_, fun ts same => ?_⟩
  · refine (lexes _ (Term.stopsAt_delimiter _ (by decide))).append ?_
    exact (Lexes.blank _).cons ((lexes_op op _).append ((Lexes.blank _).cons (lexes' rest stops)))
  · obtain ⟨before, later, rfl, sameLeft, sameLater⟩ := List.map_eq_append_iff.1 same
    obtain ⟨pos, after, rfl, sameRight⟩ := exists_token_of_map_kind sameLater
    exact (complete before sameLeft).binary (complete' after sameRight) deepLeft deepRight low

/-- A whole text is read as its term. -/
theorem parse_eq (shows : Shows need (.chain 1 t) cs) (deep : need < maxDepth) :
    parse (String.ofList cs) = .ok t := by
  obtain ⟨kinds, lexes, complete⟩ := shows
  obtain ⟨ts, after, same, lexed⟩ := lexes [] (Text.stopsAt_nil _) 0
  rw [List.append_nil, tokensFrom] at lexed
  have tokens : tokenize (String.ofList cs) = .ok ts := by
    rw [tokenize, String.toList_ofList, lexed]
    simp [Functor.map, Except.map]
  rw [parse_eq_of_tokenize tokens, parseTokens_eq_ok_iff]
  have read := (complete ts same).expression deep closes_nil
    (show 6 * ts.length + 4 ≤ 6 * ts.length + 12 by omega)
  rwa [List.append_nil] at read

end Shows

/-! ### Terms and integers -/

/-- Evaluation with room for the term yields the integer, or reports an overflow, which does not
happen if it is `safe`. -/
def Yields (scope : Scope) (safe : Prop) (t : Term) (n : Int) : Prop :=
  ∀ room, t.height ≤ room →
    Ends (fun value => value = .int n ∧ Number.Fits n)
      (fun cause => (∃ op, cause = .overflow op) ∧ ¬ safe) (t.evalWithin scope room)

namespace Yields

variable {scope : Scope} {safe : Prop} {t lhs rhs : Term} {n l r : Int}

theorem int (fits : Number.Fits n) : Yields scope safe (.int n) n := by
  intro room low
  obtain ⟨room, rfl⟩ := Nat.exists_eq_add_one.2 (Nat.lt_of_lt_of_le (Term.height_pos _) low)
  rw [Term.evalWithin]
  exact ⟨rfl, fits⟩

theorem ident {name : String} (bound : Dictionary.get? name scope.bindings = some (.int n))
    (fits : Number.Fits n) : Yields scope safe (.ident name) n := by
  intro room low
  obtain ⟨room, rfl⟩ := Nat.exists_eq_add_one.2 (Nat.lt_of_lt_of_le (Term.height_pos _) low)
  rw [Term.evalWithin, bound]
  exact ⟨rfl, fits⟩

theorem ends_bounded (op : String) (fits : safe → Number.Fits n) :
    Ends (fun value => value = .int n ∧ Number.Fits n)
      (fun cause => (∃ op, cause = .overflow op) ∧ ¬ safe) (bounded op n) := by
  by_cases within : Number.Fits n
  · rw [bounded_of_fits within]
    exact ⟨rfl, within⟩
  · rw [bounded_of_not_fits within]
    exact ⟨⟨op, rfl⟩, fun isSafe => within (fits isSafe)⟩

theorem neg (yields : Yields scope safe t n) (fits : safe → Number.Fits (-n)) :
    Yields scope safe (.unary .neg t) (-n) := by
  intro room low
  rw [Term.height] at low
  obtain ⟨room, rfl⟩ := Nat.exists_eq_add_one.2 (Nat.lt_of_lt_of_le (Nat.succ_pos _) low)
  rw [Term.evalWithin]
  refine (yields room (Nat.le_of_succ_le_succ low)).bind fun value isInt => ?_
  rw [isInt.1, UnaryOp.apply_neg rfl]
  exact ends_bounded "-" fits

theorem binary {op : BinaryOp} (arithmetic : op.isArithmetic = true) (other : op.divides = false)
    (first : Yields scope safe lhs l) (second : Yields scope safe rhs r)
    (fits : safe → Number.Fits (op.exact l r)) :
    Yields scope safe (.binary op lhs rhs) (op.exact l r) := by
  intro room low
  rw [Term.height] at low
  obtain ⟨room, rfl⟩ := Nat.exists_eq_add_one.2 (Nat.lt_of_lt_of_le (Nat.succ_pos _) low)
  rw [Term.evalWithin_binary (by rintro rfl; cases arithmetic) (by rintro rfl; cases arithmetic)]
  refine (first room (by omega)).bind fun left isLeft => ?_
  refine (second room (by omega)).bind fun right isRight => ?_
  rw [isLeft.1, isRight.1, BinaryOp.apply_eq_bounded rfl rfl arithmetic other]
  exact ends_bounded op.symbol fits

/-- An equation of two such terms is decided, unless one of them overflows. -/
theorem eval_eq (first : Yields scope safe lhs l) (second : Yields scope safe rhs r)
    (low : (Term.binary .eq lhs rhs).height ≤ maxDepth) :
    Ends (fun value => value = .bool (decide (l = r)))
      (fun cause => (∃ op, cause = .overflow op) ∧ ¬ safe)
      ((Term.binary .eq lhs rhs).eval scope) := by
  rw [Term.height] at low
  rw [Term.eval, maxDepth, Term.evalWithin_binary (by decide) (by decide)]
  refine (first 127 (by rw [maxDepth] at low; omega)).bind fun left isLeft => ?_
  refine (second 127 (by rw [maxDepth] at low; omega)).bind fun right isRight => ?_
  rw [isLeft.1, isRight.1]
  exact rfl

end Yields

end Guard

namespace PlaceInvariant

open Guard

/-! ### The term of an invariant -/

/-- A place that counts a number of times. -/
def sizeTerm (place : String) (size : Nat) : Term :=
  if size = 1 then .ident place else .binary .mul (.int size) (.ident place)

/-- The first place of a sum, with its sign at the number or else at the place. -/
def leadTerm (place : String) (weight : Int) : Term :=
  if weight < 0 then
    if weight.natAbs = 1 then .unary .neg (.ident place)
    else .binary .mul (.unary .neg (.int weight.natAbs)) (.ident place)
  else sizeTerm place weight.natAbs

/-- A sum with one more place. -/
def addTerm (sum : Term) (entry : String × Int) : Term :=
  .binary (if entry.2 < 0 then .sub else .add) sum (sizeTerm entry.1 entry.2.natAbs)

/-- The weighted sum. -/
def sumTerm : Dictionary Int → Term
  | [] => .int 0
  | (place, weight) :: rest => rest.foldl addTerm (leadTerm place weight)

/-- An integer, with its sign in front. -/
def valueTerm (value : Int) : Term :=
  if value < 0 then .unary .neg (.int value.natAbs) else .int value.natAbs

/-- The term that the text of an invariant is read as. -/
def term (invariant : PlaceInvariant) : Term :=
  .binary .eq (sumTerm invariant.weights) (valueTerm invariant.value)

theorem height_sizeTerm (place : String) (size : Nat) : (sizeTerm place size).height ≤ 3 := by
  unfold sizeTerm
  split <;> simp [Term.height]

theorem height_leadTerm (place : String) (weight : Int) : (leadTerm place weight).height ≤ 3 := by
  unfold leadTerm
  split
  · split <;> simp [Term.height]
  · exact height_sizeTerm place _

theorem height_valueTerm (value : Int) : (valueTerm value).height ≤ 2 := by
  unfold valueTerm
  split <;> simp [Term.height]

theorem height_addTerm {sum : Term} {k : Nat} (low : sum.height ≤ k) (deep : 3 ≤ k)
    (entry : String × Int) : (addTerm sum entry).height ≤ k + 1 := by
  have size := height_sizeTerm entry.1 entry.2.natAbs
  rw [addTerm, Term.height]
  omega

theorem height_foldl_addTerm (rest : Dictionary Int) {sum : Term} {k : Nat} (low : sum.height ≤ k)
    (deep : 3 ≤ k) : (rest.foldl addTerm sum).height ≤ k + rest.length := by
  induction rest generalizing sum k with
  | nil => exact low
  | cons entry rest ih =>
    have later := ih (height_addTerm low deep entry) (Nat.le_succ_of_le deep)
    rw [List.foldl_cons, List.length_cons]
    omega

theorem height_sumTerm (weights : Dictionary Int) :
    (sumTerm weights).height ≤ weights.length + 2 := by
  cases weights with
  | nil => simp [sumTerm, Term.height]
  | cons entry rest =>
    have whole := height_foldl_addTerm rest (height_leadTerm entry.1 entry.2) le_rfl
    rw [List.length_cons]
    exact Nat.le_trans whole (by omega)

/-- Each weighted place takes one level, and the equation another. -/
theorem height_term (invariant : PlaceInvariant) :
    invariant.term.height ≤ invariant.weights.length + 3 := by
  have sum := height_sumTerm invariant.weights
  have value := height_valueTerm invariant.value
  rw [term, Term.height]
  omega

/-! ### The text is read as the term -/

/-- The text of a place that counts a number of times. -/
def sizeText (place : String) (size : Nat) : String :=
  if size = 1 then place else Number.natText size ++ " * " ++ place

theorem shows_product {t : Term} {cs : List Char} {place : String} (first : Shows 1 (.signed t) cs)
    (low : t.height ≤ 2) (named : isName place = true) :
    Shows 3 (.chain 5 (.binary .mul t (.ident place)))
      (cs ++ ' ' :: '*' :: ' ' :: place.toList) := by
  have second : Shows 0 (.chain 6 (.ident place)) place.toList := (Shows.name named).operand le_rfl
  have height : (Term.binary .mul t (.ident place)).height ≤ 3 := by
    rw [Term.height, Term.height]
    omega
  exact Shows.binary .mul (first.operand (by decide)) second (by decide) (by decide) height

section

variable {place : String} (named : isName place = true)
include named

theorem shows_sizeTerm {size : Nat} (fits : (size : Int) ≤ Number.greatest) :
    Shows 3 (.chain 5 (sizeTerm place size)) (sizeText place size).toList := by
  unfold sizeTerm sizeText
  split
  · exact (Shows.name named).operand (by decide)
  · have product := shows_product (Shows.number fits) (by simp [Term.height]) named
    simpa [Number.natText] using product

theorem shows_leadTerm {weight : Int} (fits : (weight.natAbs : Int) ≤ Number.greatest) :
    Shows 3 (.chain 5 (leadTerm place weight)) (termText true place weight).toList := by
  have number : Shows 0 (.signed (.int weight.natAbs)) (Nat.toDigits 10 weight.natAbs) :=
    Shows.number fits
  have whole := shows_sizeTerm named fits
  have text : termText true place weight =
      (if weight < 0 then "-" else "") ++ sizeText place weight.natAbs := rfl
  unfold leadTerm
  rw [text]
  split
  · unfold sizeText
    split
    · have signed : Shows 3 (.signed (.unary .neg (.ident place))) ('-' :: place.toList) :=
        (Shows.name named).neg (by decide : 0 < 3)
      simpa using signed.operand (by decide : 5 ≤ 6)
    · -- the sign binds tighter than the product and stays with the number
      have product := shows_product (number.neg Nat.one_pos) (by simp [Term.height]) named
      simpa [Number.natText] using product
  · simpa using whole

theorem shows_addTerm {sum : Term} {cs : List Char} {k : Nat} (shows : Shows k (.chain 4 sum) cs)
    (low : sum.height ≤ k) (deep : 3 ≤ k) {weight : Int}
    (fits : (weight.natAbs : Int) ≤ Number.greatest) :
    Shows (k + 1) (.chain 4 (addTerm sum (place, weight)))
      (cs ++ (termText false place weight).toList) := by
  have size := shows_sizeTerm named fits
  have height := height_addTerm low deep (place, weight)
  have text : termText false place weight =
      (if weight < 0 then " - " else " + ") ++ sizeText place weight.natAbs := rfl
  unfold addTerm at height ⊢
  rw [text]
  split
  · rename_i negative
    rw [if_pos negative] at height
    have whole := Shows.binary .sub shows size (Nat.le_succ k) (by omega) height
    simpa [BinaryOp.symbol, BinaryOp.precedence] using whole
  · rename_i positive
    rw [if_neg positive] at height
    have whole := Shows.binary .add shows size (Nat.le_succ k) (by omega) height
    simpa [BinaryOp.symbol, BinaryOp.precedence] using whole

end

/-- An invariant that can be shown: few places with names for ids, and no least integer, whose size
is out of bounds. -/
structure Showable (invariant : PlaceInvariant) : Prop where
  few : invariant.weights.length ≤ 124
  named : ∀ id ∈ invariant.places, isName id = true
  weights : ∀ entry ∈ invariant.weights, Number.Fits entry.2 ∧ entry.2 ≠ Number.least
  value : Number.Fits invariant.value ∧ invariant.value ≠ Number.least

theorem natAbs_le_greatest {n : Int} (fits : Number.Fits n ∧ n ≠ Number.least) :
    (n.natAbs : Int) ≤ Number.greatest := by
  unfold Number.Fits Number.least Number.greatest at *
  omega

theorem shows_foldl_addTerm {rest : Dictionary Int} {sum : Term} {cs : List Char} {k : Nat}
    (shows : Shows k (.chain 4 sum) cs) (low : sum.height ≤ k) (deep : 3 ≤ k)
    (named : ∀ entry ∈ rest, isName entry.1 = true)
    (fits : ∀ entry ∈ rest, (entry.2.natAbs : Int) ≤ Number.greatest) :
    Shows (k + rest.length) (.chain 4 (rest.foldl addTerm sum))
      (cs ++ (String.join (rest.map fun entry => termText false entry.1 entry.2)).toList) := by
  induction rest generalizing sum cs k with
  | nil => simpa using shows
  | cons entry rest ih =>
    -- the sum so far is the left operand, so that each place takes one more level
    have step := shows_addTerm (named entry (List.mem_cons_self ..)) shows low deep
      (fits entry (List.mem_cons_self ..))
    have later := ih step (height_addTerm low deep entry) (Nat.le_succ_of_le deep)
      (fun other member => named other (List.mem_cons_of_mem _ member))
      (fun other member => fits other (List.mem_cons_of_mem _ member))
    have levels : k + (entry :: rest).length = k + 1 + rest.length := by
      rw [List.length_cons]
      omega
    rw [levels, List.foldl_cons]
    simpa [String.toList_join] using later

theorem shows_sumTerm {weights : Dictionary Int}
    (named : ∀ entry ∈ weights, isName entry.1 = true)
    (fits : ∀ entry ∈ weights, (entry.2.natAbs : Int) ≤ Number.greatest) :
    Shows (weights.length + 2) (.chain 4 (sumTerm weights)) (sumText weights).toList := by
  cases weights with
  | nil =>
    have zero : Shows 2 (.signed (.int (0 : Nat))) (Nat.toDigits 10 0) := Shows.number (by decide)
    exact zero.operand (by decide)
  | cons entry rest =>
    have lead := shows_leadTerm (named entry (List.mem_cons_self ..))
      (fits entry (List.mem_cons_self ..))
    have whole := shows_foldl_addTerm (lead.loosen (by decide : 4 ≤ 5))
      (height_leadTerm entry.1 entry.2) le_rfl
      (fun other member => named other (List.mem_cons_of_mem _ member))
      (fun other member => fits other (List.mem_cons_of_mem _ member))
    have levels : (entry :: rest).length + 2 = 3 + rest.length := by
      rw [List.length_cons]
      omega
    rw [levels, sumText, String.toList_append]
    exact whole

theorem shows_valueTerm {value : Int} (fits : (value.natAbs : Int) ≤ Number.greatest) :
    Shows 1 (.signed (valueTerm value)) (Number.intText value).toList := by
  have number : Shows 0 (.signed (.int value.natAbs)) (Nat.toDigits 10 value.natAbs) :=
    Shows.number fits
  unfold valueTerm
  rw [Number.intText, String.toList_ofList]
  cases value with
  | ofNat n => exact Shows.number fits
  | negSucc n =>
    rw [if_pos (Int.negSucc_lt_zero n)]
    exact number.neg Nat.one_pos

/-- The text of an invariant is read as its term. -/
theorem Showable.parse_eq {invariant : PlaceInvariant} (showable : invariant.Showable) :
    parse invariant.render = .ok invariant.term := by
  have sum := shows_sumTerm
    (fun entry member => showable.named entry.1 (List.mem_map_of_mem member))
    (fun entry member => natAbs_le_greatest (showable.weights entry member))
  have value := (shows_valueTerm (natAbs_le_greatest showable.value)).operand (by decide : 4 ≤ 6)
  have few := showable.few
  have whole := Shows.binary .eq (sum.loosen (by decide : 3 ≤ 4)) value (Nat.le_succ _) (by omega)
    invariant.height_term
  have text : invariant.render.toList = (sumText invariant.weights).toList ++
      ' ' :: (BinaryOp.eq.symbol.toList ++ ' ' :: (Number.intText invariant.value).toList) := by
    simp [render, BinaryOp.symbol]
  rw [← String.ofList_toList (s := invariant.render), text]
  exact (whole.loosen (by decide : 1 ≤ 3)).parse_eq (by rw [maxDepth]; omega)

/-! ### The term yields the weighted sum -/

/-- The sizes of the terms of a weighted sum together. -/
def mass (weights : Dictionary Int) (amount : String → Int) : Nat :=
  (weights.map fun entry => (entry.2 * amount entry.1).natAbs).sum

section

variable {scope : Scope} {safe : Prop} {place : String} {x : Int}
  (bound : Dictionary.get? place scope.bindings = some (.int x)) (fits : Number.Fits x)
include bound fits

theorem yields_sizeTerm {size : Nat} (sizeFits : (size : Int) ≤ Number.greatest)
    (within : safe → Number.Fits (size * x)) :
    Yields scope safe (sizeTerm place size) (size * x) := by
  have amount : Yields scope safe (.ident place) x := Yields.ident bound fits
  unfold sizeTerm
  split
  · rename_i one
    rwa [one, Nat.cast_one, one_mul]
  · have number : Yields scope safe (.int size) size :=
      Yields.int (Number.fits_of_natAbs_le sizeFits)
    exact Yields.binary rfl rfl number amount within

theorem yields_leadTerm {weight : Int} (weightFits : (weight.natAbs : Int) ≤ Number.greatest)
    (within : safe → Number.Fits (weight * x)) :
    Yields scope safe (leadTerm place weight) (weight * x) := by
  have amount : Yields scope safe (.ident place) x := Yields.ident bound fits
  have number : Yields scope safe (.int weight.natAbs) weight.natAbs :=
    Yields.int (Number.fits_of_natAbs_le weightFits)
  unfold leadTerm
  split
  · rename_i negative
    have sign : weight = -(weight.natAbs : Int) := by omega
    split
    · rename_i one
      rw [one, Nat.cast_one] at sign
      rw [sign, neg_one_mul] at within ⊢
      exact amount.neg within
    · have signed := number.neg fun _ => Number.fits_of_natAbs_le (by rwa [Int.natAbs_neg])
      rw [← sign] at signed
      exact Yields.binary rfl rfl signed amount within
  · rename_i positive
    have same : (weight.natAbs : Int) = weight := by omega
    rw [← same] at within ⊢
    exact yields_sizeTerm bound fits weightFits within

theorem yields_addTerm {sum : Term} {n : Int} (yields : Yields scope safe sum n) {weight : Int}
    (weightFits : (weight.natAbs : Int) ≤ Number.greatest)
    (within : safe → ((n.natAbs + (weight * x).natAbs : Nat) : Int) ≤ Number.greatest) :
    Yields scope safe (addTerm sum (place, weight)) (n + weight * x) := by
  have sameSize : ((weight.natAbs : Int) * x).natAbs = (weight * x).natAbs := by
    rw [Int.natAbs_mul, Int.natAbs_mul, Int.natAbs_natCast]
  have size : Yields scope safe (sizeTerm place weight.natAbs) (weight.natAbs * x) := by
    apply yields_sizeTerm bound fits weightFits
    intro isSafe
    have small := within isSafe
    exact Number.fits_of_natAbs_le (by omega)
  have total : safe → Number.Fits (n + weight * x) := by
    intro isSafe
    have small := within isSafe
    exact Number.fits_of_natAbs_le (by omega)
  unfold addTerm
  dsimp only
  split
  · rename_i negative
    have difference : n + weight * x = n - weight.natAbs * x := by
      have sign : weight = -(weight.natAbs : Int) := by omega
      rw [sign, neg_mul, Int.natAbs_neg, Int.natAbs_natCast, ← sub_eq_add_neg]
    rw [difference] at total ⊢
    exact Yields.binary rfl rfl yields size total
  · rename_i positive
    have same : (weight.natAbs : Int) = weight := by omega
    rw [same] at size
    exact Yields.binary rfl rfl yields size total

end

section

variable {scope : Scope} {safe : Prop} {amount : String → Int}

theorem yields_foldl_addTerm {rest : Dictionary Int} {sum : Term} {n : Int}
    (yields : Yields scope safe sum n)
    (bound : ∀ entry ∈ rest, Number.Fits (amount entry.1) ∧
      Dictionary.get? entry.1 scope.bindings = some (.int (amount entry.1)))
    (fits : ∀ entry ∈ rest, (entry.2.natAbs : Int) ≤ Number.greatest)
    (within : safe → ((n.natAbs + mass rest amount : Nat) : Int) ≤ Number.greatest) :
    Yields scope safe (rest.foldl addTerm sum) (n + weighted rest amount) := by
  induction rest generalizing sum n with
  | nil => simpa [weighted] using yields
  | cons entry rest ih =>
    have here := bound entry (List.mem_cons_self ..)
    simp only [mass, List.map_cons, List.sum_cons] at within
    have step := yields_addTerm here.2 here.1 yields (fits entry (List.mem_cons_self ..))
      fun isSafe => by
        have small := within isSafe
        omega
    have later := ih step (fun other member => bound other (List.mem_cons_of_mem _ member))
      (fun other member => fits other (List.mem_cons_of_mem _ member)) fun isSafe => by
        have small := within isSafe
        unfold mass
        omega
    rw [weighted, List.map_cons, List.sum_cons, ← add_assoc]
    exact later

theorem yields_sumTerm {weights : Dictionary Int}
    (bound : ∀ entry ∈ weights, Number.Fits (amount entry.1) ∧
      Dictionary.get? entry.1 scope.bindings = some (.int (amount entry.1)))
    (fits : ∀ entry ∈ weights, (entry.2.natAbs : Int) ≤ Number.greatest) :
    Yields scope ((mass weights amount : Int) ≤ Number.greatest) (sumTerm weights)
      (weighted weights amount) := by
  cases weights with
  | nil => exact Yields.int (by decide)
  | cons entry rest =>
    have here := bound entry (List.mem_cons_self ..)
    have split : mass (entry :: rest) amount =
        (entry.2 * amount entry.1).natAbs + mass rest amount := by
      simp [mass]
    have lead : Yields scope ((mass (entry :: rest) amount : Int) ≤ Number.greatest)
        (leadTerm entry.1 entry.2) (entry.2 * amount entry.1) := by
      apply yields_leadTerm here.2 here.1 (fits entry (List.mem_cons_self ..))
      intro small
      rw [split] at small
      exact Number.fits_of_natAbs_le (by omega)
    have whole := yields_foldl_addTerm lead
      (fun other member => bound other (List.mem_cons_of_mem _ member))
      (fun other member => fits other (List.mem_cons_of_mem _ member))
      fun small => by rwa [split] at small
    rw [weighted, List.map_cons, List.sum_cons]
    exact whole

theorem yields_valueTerm {value : Int} (fits : (value.natAbs : Int) ≤ Number.greatest) :
    Yields scope safe (valueTerm value) value := by
  have number : Yields scope safe (.int value.natAbs) value.natAbs :=
    Yields.int (Number.fits_of_natAbs_le fits)
  unfold valueTerm
  split
  · rename_i negative
    have sign : -(value.natAbs : Int) = value := by omega
    have signed := number.neg fun _ => Number.fits_of_natAbs_le (by rwa [Int.natAbs_neg])
    rwa [sign] at signed
  · rename_i positive
    have same : (value.natAbs : Int) = value := by omega
    rw [same] at number ⊢
    exact number

end

/-- The text is evaluated by its term. -/
theorem Showable.evaluate_eq {invariant : PlaceInvariant} (showable : invariant.Showable)
    (scope : Scope) :
    evaluate scope invariant.render = (invariant.term.eval scope).mapError Error.eval := by
  have visible : Text.isBlankText invariant.render = false := by
    rw [Text.isBlankText, List.all_eq_false]
    exact ⟨'=', by simp [render], by decide⟩
  rw [evaluate, Condition.read, visible, showable.parse_eq]
  cases outcome : invariant.term.eval scope <;> simp [Condition.eval, outcome, Except.mapError]

/-- The text of an invariant that can be shown is read. Where its places are bound to integers, it
says whether their weighted sum is the value of the invariant, or else reports an overflow; and it
reports none if the sizes of the terms together stay within the bounds. -/
theorem evaluate_render {invariant : PlaceInvariant} (showable : invariant.Showable) :
    (∃ t, parse invariant.render = .ok t) ∧
    ∀ (scope : Scope) (amount : String → Int),
      (∀ id ∈ invariant.places, Number.Fits (amount id) ∧
        Dictionary.get? id scope.bindings = some (.int (amount id))) →
      let meaning := Value.bool (decide (weighted invariant.weights amount = invariant.value))
      (evaluate scope invariant.render = .ok meaning ∨
        ∃ op, evaluate scope invariant.render = .error (.eval (.overflow op))) ∧
      ((mass invariant.weights amount : Int) ≤ Number.greatest →
        evaluate scope invariant.render = .ok meaning) := by
  refine ⟨⟨_, showable.parse_eq⟩, ?_⟩
  intro scope amount bound meaning
  have few := showable.few
  have sum : Yields scope ((mass invariant.weights amount : Int) ≤ Number.greatest)
      (sumTerm invariant.weights) (weighted invariant.weights amount) :=
    yields_sumTerm (fun entry member => bound entry.1 (List.mem_map_of_mem member))
      (fun entry member => natAbs_le_greatest (showable.weights entry member))
  have ends := sum.eval_eq (yields_valueTerm (natAbs_le_greatest showable.value))
    (Nat.le_trans invariant.height_term (by rw [maxDepth]; omega))
  rw [← term] at ends
  rw [showable.evaluate_eq]
  cases outcome : invariant.term.eval scope with
  | ok value =>
    rw [outcome] at ends
    obtain rfl : value = meaning := ends
    exact ⟨Or.inl rfl, fun _ => rfl⟩
  | error cause =>
    rw [outcome] at ends
    obtain ⟨⟨op, rfl⟩, notSafe⟩ := ends
    exact ⟨Or.inr ⟨op, rfl⟩, fun safe => absurd safe notSafe⟩

/-- A household in debt: a sign in front, a weight of zero, and a difference. -/
def household : PlaceInvariant where
  weights := [("debt", -1), ("dust", 0), ("gold", 3), ("rent", -2)]
  value := -4
  verified := true

/-- The amounts of the household, but for the rent. -/
def householdAmount (rent : Int) (id : String) : Int :=
  if id = "debt" then 5 else if id = "dust" then 8 else if id = "gold" then 3 else rent

/-- The amounts as the values of names. -/
def householdScope (rent : Int) : Scope where
  bindings := household.places.map fun id => (id, .int (householdAmount rent id))
  functions := []

/-- The books balance with a rent of four and not with a rent of five. -/
theorem evaluate_render_household :
    household.Showable ∧ household.render = "-debt + 0 * dust + 3 * gold - 2 * rent == -4" ∧
      evaluate (householdScope 4) household.render = .ok (.bool true) ∧
      evaluate (householdScope 5) household.render = .ok (.bool false) := by
  have showable : household.Showable :=
    ⟨by decide, by decide +kernel, by decide, by decide⟩
  have means := (evaluate_render showable).2
  refine ⟨showable, by decide +kernel, ?_, ?_⟩
  · exact (means (householdScope 4) (householdAmount 4) (by decide)).2 (by decide)
  · exact (means (householdScope 5) (householdAmount 5) (by decide)).2 (by decide)

end PlaceInvariant

end GuardedNet
