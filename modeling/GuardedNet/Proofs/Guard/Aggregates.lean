import Mathlib.Algebra.BigOperators.Group.List.Basic
import Mathlib.Order.Bounds.Basic
import GuardedNet.Guard.Eval
import GuardedNet.Proofs.Outcome
import GuardedNet.Proofs.Value

/-!
# Aggregates over a snapshot

A call such as `sum(start)` sees the places whose ids start with a text. Main statement: its answer
is the exact sum of their leaves or an overflow, `min` and `max` answer the least and the greatest
answer of `tokens` among them, and nothing is summed up where nothing counts
(`Guard.aggregates_exact`).
-/

namespace GuardedNet.Guard

/-- What a call of an aggregate with a text yields over a snapshot. -/
def ask (places : Dictionary Value) (name start : String) : Except EvalError Value :=
  (Term.call name [.str start]).eval ⟨[], aggregates places⟩

/-- The places whose ids start with a text. -/
def starting (places : Dictionary Value) (start : String) : Dictionary Value :=
  places.filter fun place => start.toList <+: place.1.toList

/-- The answers of `tokens` for the ids that start with a text. -/
def tokenCounts (places : Dictionary Value) (start : String) : Set Int :=
  { n | ∃ id ∈ (starting places start).keys, ask places "tokens" id = .ok (.int n) }

variable {places : Dictionary Value} {start : String}

theorem matching_eq : matching places start = (starting places start).map (·.2) := by
  unfold matching starting
  congr 2
  funext place
  rw [Bool.eq_iff_iff, List.isPrefixOf_iff_prefix, decide_eq_true_iff]

/-! ### Sums -/

theorem leafSumItems_eq (items : List Value) :
    Value.leafSumItems items = (items.map Value.leafSum).sum := by
  induction items with
  | nil => rfl
  | cons item items ih => rw [Value.leafSumItems, ih, List.map_cons, List.sum_cons]

theorem leafMassItems_eq (items : List Value) :
    Value.leafMassItems items = (items.map Value.leafMass).sum := by
  induction items with
  | nil => rfl
  | cons item items ih => rw [Value.leafMassItems, ih, List.map_cons, List.sum_cons]

theorem ask_sum : ask places "sum" start =
    match Value.totalItems? 0 ((starting places start).map (·.2)) with
    | some n => .ok (.int n)
    | none => .error (.overflow "sum") := by
  have unfolded : ask places "sum" start =
      (sumOfTotals (matching places start)).bind fun n => .ok (.int n) := rfl
  rw [unfolded, sumOfTotals, matching_eq]
  cases Value.totalItems? 0 ((starting places start).map (·.2)) <;> rfl

/-- The answer of `sum` is exact or an overflow, and exact if the sizes of all leaves together stay
within the bounds. -/
theorem ask_sum_exact {sum : Int} {mass : Nat}
    (isSum : sum = ((starting places start).map fun place => place.2.leafSum).sum)
    (isMass : mass = ((starting places start).map fun place => place.2.leafMass).sum) :
    (ask places "sum" start = .ok (.int sum) ∨
      ask places "sum" start = .error (.overflow "sum")) ∧
    ((mass : Int) ≤ Number.greatest → ask places "sum" start = .ok (.int sum)) := by
  have adds := Value.adds_totalItems 0 ((starting places start).map (·.2))
  rw [leafSumItems_eq, leafMassItems_eq, List.map_map, List.map_map] at adds
  change Value.Adds 0 ((starting places start).map fun place => place.2.leafSum).sum
    ((starting places start).map fun place => place.2.leafMass).sum _ at adds
  rw [← isSum, ← isMass] at adds
  rw [ask_sum]
  constructor
  · cases came : Value.totalItems? 0 ((starting places start).map (·.2)) with
    | none => exact Or.inr rfl
    | some n =>
      have same : n = sum := by simpa using adds.sound n came
      exact Or.inl (by rw [same])
  · intro small
    rw [adds.complete (by simpa using small), Int.zero_add]

/-! ### Counts -/

theorem totalItems?_of_zero {items : List Value} (zero : ∀ item ∈ items, item.total? = some 0) :
    Value.totalItems? 0 items = some 0 := by
  induction items with
  | nil => rfl
  | cons item items ih =>
    obtain ⟨first, later⟩ := List.forall_mem_cons.1 zero
    rw [Value.totalItems?, first]
    exact ih later

theorem totalEntries?_eq (acc : Int) (entries : List (String × Value)) :
    Value.totalEntries? acc entries = Value.totalItems? acc (entries.map (·.2)) := by
  induction entries generalizing acc with
  | nil => rfl
  | cons entry entries ih =>
    rw [Value.totalEntries?, List.map_cons, Value.totalItems?]
    simp only [ih]

theorem isNonZero_eq_false_iff {value : Value} :
    isNonZero value = false ↔ value.total? = some 0 := by
  simp [isNonZero]

/-- A value in which nothing counts adds up to zero. -/
theorem total?_of_nonZeroEntries {value : Value} (none : nonZeroEntries value = 0) :
    value.total? = some 0 := by
  cases value with
  | list items =>
    apply totalItems?_of_zero
    intro item member
    rw [nonZeroEntries, List.length_eq_zero_iff, List.filter_eq_nil_iff] at none
    exact isNonZero_eq_false_iff.1 (by simpa using none item member)
  | map entries =>
    rw [Value.total?, totalEntries?_eq]
    apply totalItems?_of_zero
    intro item member
    obtain ⟨entry, isEntry, rfl⟩ := List.mem_map.1 member
    rw [nonZeroEntries, List.length_eq_zero_iff, List.filter_eq_nil_iff] at none
    exact isNonZero_eq_false_iff.1 (by simpa using none entry isEntry)
  | bool | int | str =>
    rw [← isNonZero_eq_false_iff, ← Bool.not_eq_true]
    intro counts
    simp [nonZeroEntries, counts] at none

theorem ask_sum_of_count (none : ask places "count" start = .ok (.int 0)) :
    ask places "sum" start = .ok (.int 0) := by
  have counted : ask places "count" start =
      .ok (.int (Number.total ((matching places start).map nonZeroEntries))) := rfl
  rw [counted, matching_eq] at none
  have zero : Number.total (((starting places start).map (·.2)).map nonZeroEntries) = 0 := by
    simpa using none
  rw [ask_sum, totalItems?_of_zero]
  intro value member
  apply total?_of_nonZeroEntries
  apply Nat.eq_zero_of_not_pos
  intro counts
  have positive := Number.total_pos_iff.2 ⟨_, List.mem_map_of_mem member, counts⟩
  omega

/-! ### Least and greatest -/

theorem leastOf_eq (ns : List Int) : leastOf ns = ns.min?.getD 0 := by
  cases ns <;> rfl

theorem greatestOf_eq (ns : List Int) : greatestOf ns = ns.max?.getD 0 := by
  cases ns <;> rfl

theorem isLeast_leastOf {ns : List Int} (some : ns ≠ []) : IsLeast { n | n ∈ ns } (leastOf ns) := by
  obtain ⟨low, found⟩ := Option.ne_none_iff_exists'.1 (mt List.min?_eq_none_iff.1 some)
  rw [leastOf_eq, found]
  exact List.min?_eq_some_iff.1 found

theorem isGreatest_greatestOf {ns : List Int} (some : ns ≠ []) :
    IsGreatest { n | n ∈ ns } (greatestOf ns) := by
  obtain ⟨high, found⟩ := Option.ne_none_iff_exists'.1 (mt List.max?_eq_none_iff.1 some)
  rw [greatestOf_eq, found]
  exact List.max?_eq_some_iff.1 found

/-- The answer of an aggregate is a bound of the answers of `tokens`, or zero if no id starts with
the text; it has an answer exactly if `tokens` has one for each of these ids. -/
structure Bounds (places : Dictionary Value) (start name : String)
    (bound : Set Int → Int → Prop) : Prop where
  answers : (∃ value, ask places name start = .ok value) ↔
    ∀ id ∈ (starting places start).keys, ∃ n, ask places "tokens" id = .ok (.int n)
  isBound : ∀ value, ask places name start = .ok value → ∃ n, value = .int n ∧
    (starting places start = [] → n = 0) ∧
    (starting places start ≠ [] → bound (tokenCounts places start) n)

theorem ask_tokens (id : String) : ask places "tokens" id =
    match Dictionary.get? id places with
    | none => .error (.unknownIdentifier id)
    | some value => (totalOf value).bind fun n => .ok (.int n) := rfl

section Bounds

variable (distinct : places.keys.Nodup)
include distinct

theorem ask_tokens_eq_ok_iff {id : String} {value : Value} (member : (id, value) ∈ places)
    {n : Int} : ask places "tokens" id = .ok (.int n) ↔ totalOf value = .ok n := by
  rw [ask_tokens, (Dictionary.get?_eq_some_iff distinct).2 member]
  dsimp only
  cases totalOf value <;> simp [Except.bind]

/-- The answers of `tokens` are the totals that the other aggregates look at. -/
theorem tokenCounts_eq {ns : List Int}
    (totals : ((starting places start).map (·.2)).mapM totalOf = .ok ns) :
    tokenCounts places start = { n | n ∈ ns } := by
  rw [mapM_eq_ok_iff, List.map_map] at totals
  ext n
  have among : n ∈ ns ↔ Except.ok n ∈ ns.map (Except.ok : Int → Except EvalError Int) := by simp
  change (∃ id ∈ (starting places start).keys, _) ↔ n ∈ ns
  rw [among, ← totals, List.mem_map]
  constructor
  · rintro ⟨id, isId, answered⟩
    obtain ⟨place, member, rfl⟩ := List.mem_map.1 isId
    exact ⟨place, member, (ask_tokens_eq_ok_iff distinct (List.mem_filter.1 member).1).1 answered⟩
  · rintro ⟨place, member, total⟩
    exact ⟨place.1, List.mem_map_of_mem member,
      (ask_tokens_eq_ok_iff distinct (List.mem_filter.1 member).1).2 total⟩

theorem exists_totals_iff :
    (∃ ns, ((starting places start).map (·.2)).mapM totalOf = .ok ns) ↔
      ∀ id ∈ (starting places start).keys, ∃ n, ask places "tokens" id = .ok (.int n) := by
  constructor
  · rintro ⟨ns, totals⟩ id isId
    obtain ⟨place, member, rfl⟩ := List.mem_map.1 isId
    rw [mapM_eq_ok_iff, List.map_map] at totals
    have total : totalOf place.2 ∈ ns.map Except.ok := totals ▸ List.mem_map_of_mem member
    obtain ⟨n, -, same⟩ := List.mem_map.1 total
    exact ⟨n, (ask_tokens_eq_ok_iff distinct (List.mem_filter.1 member).1).2 same.symm⟩
  · intro each
    cases totals : ((starting places start).map (·.2)).mapM totalOf with
    | ok ns => exact ⟨ns, rfl⟩
    | error cause =>
      obtain ⟨value, ⟨front, rest, whole, -, fails⟩, -⟩ := mapM_eq_error_iff.1 totals
      have isValue : value ∈ (starting places start).map (·.2) := by simp [whole]
      obtain ⟨place, member, rfl⟩ := List.mem_map.1 isValue
      obtain ⟨n, answered⟩ := each place.1 (List.mem_map_of_mem member)
      exact absurd
        ⟨n, (ask_tokens_eq_ok_iff distinct (List.mem_filter.1 member).1).1 answered⟩ fails

/-- What picks a bound of any totals answers the bound of those of a snapshot. -/
theorem bounds_of_pick {name : String} {pick : List Int → Int} {bound : Set Int → Int → Prop}
    (answer : ask places name start =
      ((matching places start).mapM totalOf).bind fun ns => .ok (.int (pick ns)))
    (empty : pick [] = 0) (picks : ∀ ns, ns ≠ [] → bound { n | n ∈ ns } (pick ns)) :
    Bounds places start name bound := by
  rw [matching_eq] at answer
  constructor
  · rw [← exists_totals_iff distinct, answer]
    cases ((starting places start).map (·.2)).mapM totalOf <;> simp [Except.bind]
  · intro value answered
    rw [answer] at answered
    cases totals : ((starting places start).map (·.2)).mapM totalOf with
    | error cause =>
      rw [totals] at answered
      cases answered
    | ok ns =>
      rw [totals] at answered
      have lengths := congrArg List.length (mapM_eq_ok_iff.1 totals)
      simp only [List.length_map] at lengths
      refine ⟨pick ns, (Except.ok.inj answered).symm, ?_, ?_⟩
      · intro noPlace
        rw [noPlace] at lengths
        rw [List.length_eq_zero_iff.1 lengths.symm, empty]
      · intro somePlace
        rw [tokenCounts_eq distinct totals]
        apply picks
        intro noTotal
        rw [noTotal] at lengths
        exact somePlace (List.length_eq_zero_iff.1 lengths)

theorem bounds_min : Bounds places start "min" IsLeast :=
  bounds_of_pick distinct rfl rfl fun _ => isLeast_leastOf

theorem bounds_max : Bounds places start "max" IsGreatest :=
  bounds_of_pick distinct rfl rfl fun _ => isGreatest_greatestOf

end Bounds

/-- Aggregates over a snapshot with distinct ids, whatever its values hold. The answer of `sum` is
the exact sum of all leaves of the places whose ids start with the text, or an overflow, and not an
overflow if the sizes of these leaves together stay within the bounds. The answers of `min` and
`max` are the least and the greatest answer of `tokens` for these ids, so that each lies between
them. Where `count` answers zero, so does `sum`. -/
theorem aggregates_exact {places : Dictionary Value} (distinct : places.keys.Nodup)
    (start : String) :
    ((ask places "sum" start =
        .ok (.int ((starting places start).map fun place => place.2.leafSum).sum) ∨
      ask places "sum" start = .error (.overflow "sum")) ∧
    (((((starting places start).map fun place => place.2.leafMass).sum : Nat) : Int) ≤
        Number.greatest →
      ask places "sum" start =
        .ok (.int ((starting places start).map fun place => place.2.leafSum).sum))) ∧
    Bounds places start "min" IsLeast ∧ Bounds places start "max" IsGreatest ∧
    (∀ low high, ask places "min" start = .ok (.int low) →
      ask places "max" start = .ok (.int high) → ∀ id ∈ (starting places start).keys,
        ∃ n, ask places "tokens" id = .ok (.int n) ∧ low ≤ n ∧ n ≤ high) ∧
    (ask places "count" start = .ok (.int 0) → ask places "sum" start = .ok (.int 0)) := by
  have least : Bounds places start "min" IsLeast := bounds_min distinct
  have greatest : Bounds places start "max" IsGreatest := bounds_max distinct
  refine ⟨ask_sum_exact rfl rfl, least, greatest, ?_, ask_sum_of_count⟩
  intro low high isLow isHigh id isId
  obtain ⟨n, answered⟩ := least.answers.1 ⟨_, isLow⟩ id isId
  have among : n ∈ tokenCounts places start := ⟨id, isId, answered⟩
  have somePlace : starting places start ≠ [] := by
    intro noPlace
    rw [noPlace] at isId
    cases isId
  obtain ⟨_, same, -, lowest⟩ := least.isBound _ isLow
  obtain ⟨_, same', -, highest⟩ := greatest.isBound _ isHigh
  obtain rfl := Value.int.inj same
  obtain rfl := Value.int.inj same'
  exact ⟨n, answered, (lowest somePlace).2 among, (highest somePlace).2 among⟩

/-- Balances of several kinds, beside what is due in all. -/
def accounts : Dictionary Value :=
  [("balance_ann", .int 7), ("balance_bob", .map [("debts", .list [.int (-9), .bool true]),
    ("gifts", .int 4)]), ("due", .int Number.greatest)]

/-- Ann and Bob together own two, and either lies between the two answers; nothing starts with the
name of a third. -/
theorem aggregates_exact_accounts :
    ask accounts "sum" "balance_" = .ok (.int 2) ∧
      (∃ n, ask accounts "tokens" "balance_bob" = .ok (.int n) ∧ -5 ≤ n ∧ n ≤ 7) ∧
      IsLeast (tokenCounts accounts "balance_") (-5) ∧
      ask accounts "sum" "balance_eve" = .ok (.int 0) := by
  have distinct : accounts.keys.Nodup := by decide
  obtain ⟨⟨-, sum⟩, least, -, between, -⟩ := aggregates_exact distinct "balance_"
  obtain ⟨-, -, -, -, none⟩ := aggregates_exact distinct "balance_eve"
  refine ⟨sum (by decide), between (-5) 7 rfl rfl _ (by decide), ?_, none rfl⟩
  obtain ⟨_, same, -, isLeast⟩ := least.isBound (.int (-5)) rfl
  obtain rfl := Value.int.inj same
  exact isLeast (by decide)

end GuardedNet.Guard
