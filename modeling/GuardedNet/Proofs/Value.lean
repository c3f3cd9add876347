import Mathlib.Algebra.Order.Ring.Int
import GuardedNet.Proofs.Dictionary
import GuardedNet.Value

/-!
# Entries and leaves of values

A path of keys leads through nested maps to an entry (`Value.read?`). The leaves of a value are
what lists and maps hold at the end; `Value.leafSum` is the exact sum of those with an integer view
and `Value.leafMass` the sum of their sizes. Main statements: writing an entry of a map changes the
sum by the new value less the old one (`Value.leafSumEntries_write`), and the checked sum of a value
is the exact one if it comes out, which it does if the sizes stay within the bounds
(`Value.adds_total`).
-/

namespace GuardedNet.Value

/-- Neither a list nor a map. -/
def isScalar : Value → Bool
  | .list _ => false
  | .map _ => false
  | _ => true

/-- A map. -/
def isMap : Value → Bool
  | .map _ => true
  | _ => false

theorem isMap_iff {value : Value} : value.isMap = true ↔ ∃ entries, value = .map entries := by
  cases value <;> simp [isMap]

/-- A value stands for a key exactly if it is a scalar. -/
theorem isSome_asKey? (value : Value) : value.asKey?.isSome = value.isScalar := by
  cases value with
  | bool b => cases b <;> rfl
  | _ => rfl

/-! ### Entries -/

/-- The entry that a path of keys leads to through nested maps. -/
def read? : List String → Value → Option Value
  | [], value => some value
  | key :: path, .map entries => (Dictionary.get? key entries).bind (read? path)
  | _ :: _, _ => none

/-- What a view shows of the entry at a path, zero if there is none. -/
def viewAt (view : Value → Int) (path : List String) (value : Value) : Int :=
  ((value.read? path).map view).getD 0

/-- The integer view of the entry at a path, zero if it has none or is missing. -/
def amountAt (path : List String) (value : Value) : Int :=
  value.viewAt (fun entry => entry.asInt?.getD 0) path

/-- No proper part of the path leads to an entry other than a map. -/
def MapsAlong (path : List String) (value : Value) : Prop :=
  ∀ front entry, front <+: path → front ≠ path → value.read? front = some entry →
    entry.isMap = true

@[simp] theorem read?_nil (value : Value) : value.read? [] = some value := by
  cases value <;> rfl

@[simp] theorem read?_cons (key : String) (path : List String) (entries : List (String × Value)) :
    (map entries).read? (key :: path) = (Dictionary.get? key entries).bind (read? path) := rfl

theorem viewAt_of_read? {view : Value → Int} {path : List String} {value entry : Value}
    (found : value.read? path = some entry) : value.viewAt view path = view entry := by
  rw [viewAt, found]
  rfl

theorem mapsAlong_nil (value : Value) : value.MapsAlong [] := by
  intro front entry before proper
  exact absurd (List.prefix_nil.1 before) proper

/-- Maps stand along a path if the value is one and they stand along the rest of the path. -/
theorem mapsAlong_cons_iff {key : String} {path : List String} {value : Value} :
    value.MapsAlong (key :: path) ↔ ∃ entries, value = .map entries ∧
      ∀ slot, Dictionary.get? key entries = some slot → slot.MapsAlong path := by
  constructor
  · intro along
    obtain ⟨entries, rfl⟩ := isMap_iff.1
      (along [] value List.nil_prefix (List.cons_ne_nil _ _).symm (read?_nil value))
    refine ⟨entries, rfl, fun slot found front entry before proper here => ?_⟩
    refine along (key :: front) entry (List.prefix_cons_inj key |>.2 before) ?_ ?_
    · exact fun same => proper (List.cons.inj same).2
    · rw [read?_cons, found]
      exact here
  · rintro ⟨entries, rfl, slots⟩ front entry before proper here
    cases front with
    | nil =>
      obtain rfl := Option.some.inj here
      rfl
    | cons other front =>
      obtain ⟨rfl, later⟩ := List.cons_prefix_cons.1 before
      rw [read?_cons] at here
      obtain ⟨slot, found, here⟩ := Option.bind_eq_some_iff.1 here
      exact slots slot found front entry later (fun same => proper (same ▸ rfl)) here

/-! ### Leaves -/

mutual

/-- The exact sum of the integer views of all leaves; a leaf without one counts as zero. -/
def leafSum : Value → Int
  | .list items => leafSumItems items
  | .map entries => leafSumEntries entries
  | .int n => n
  | .str s => (asInt? (.str s)).getD 0
  | .bool _ => 0

/-- The sum of the leaves of all items. -/
def leafSumItems : List Value → Int
  | [] => 0
  | item :: items => leafSum item + leafSumItems items

/-- The sum of the leaves of all entries. -/
def leafSumEntries : List (String × Value) → Int
  | [] => 0
  | (_, value) :: rest => leafSum value + leafSumEntries rest

end

/-- The sum of the leaves of the entry at a path, zero if there is none. -/
def leafSumAt (path : List String) (value : Value) : Int := value.viewAt leafSum path

theorem leafSum_of_isScalar {value : Value} (scalar : value.isScalar = true) :
    value.leafSum = value.asInt?.getD 0 := by
  cases value with
  | list | map => cases scalar
  | _ => rfl

theorem asInt?_of_not_isScalar {value : Value} (nested : value.isScalar = false) :
    value.asInt? = none := by
  cases value with
  | list | map => rfl
  | _ => cases nested

theorem leafSumEntries_replace {key : String} {old : Value} (value : Value)
    {entries : List (String × Value)} (found : Dictionary.get? key entries = some old) :
    leafSumEntries (Dictionary.replace key value entries) + old.leafSum =
      leafSumEntries entries + value.leafSum := by
  induction entries with
  | nil => cases found
  | cons entry entries ih =>
    rw [Dictionary.get?_cons] at found
    rw [Dictionary.replace]
    split at found
    · rename_i same
      obtain rfl := Option.some.inj found
      rw [if_pos same, leafSumEntries, leafSumEntries]
      omega
    · rename_i differ
      have later := ih found
      rw [if_neg differ, leafSumEntries, leafSumEntries]
      omega

theorem leafSumEntries_insert (key : String) (value : Value) (entries : List (String × Value)) :
    leafSumEntries (Dictionary.insert key value entries) =
      leafSumEntries entries + value.leafSum := by
  induction entries with
  | nil => simp only [Dictionary.insert, leafSumEntries]; omega
  | cons entry entries ih =>
    rw [Dictionary.insert]
    split
    · simp only [leafSumEntries]
      omega
    · simp only [leafSumEntries, ih]
      omega

/-- What is written is added, and what it replaces is lost. -/
theorem leafSumEntries_write (key : String) (value : Value) (entries : List (String × Value)) :
    leafSumEntries (Dictionary.write key value entries) +
        ((Dictionary.get? key entries).map leafSum).getD 0 =
      leafSumEntries entries + value.leafSum := by
  rw [Dictionary.write, Dictionary.contains]
  cases found : Dictionary.get? key entries with
  | none =>
    have added := leafSumEntries_insert key value entries
    simpa using added
  | some old => exact leafSumEntries_replace value found

/-! ### Checked sums -/

mutual

/-- The sum of the sizes of the integer views of all leaves; a leaf without one counts as zero. -/
def leafMass : Value → Nat
  | .list items => leafMassItems items
  | .map entries => leafMassEntries entries
  | .int n => n.natAbs
  | .str s => ((asInt? (.str s)).getD 0).natAbs
  | .bool _ => 0

/-- The sizes of the leaves of all items. -/
def leafMassItems : List Value → Nat
  | [] => 0
  | item :: items => leafMass item + leafMassItems items

/-- The sizes of the leaves of all entries. -/
def leafMassEntries : List (String × Value) → Nat
  | [] => 0
  | (_, value) :: rest => leafMass value + leafMassEntries rest

end

/-- A checked sum of terms on top of a start: what comes out is exact, and something comes out if
the sizes of all terms together stay within the bounds. -/
structure Adds (start sum : Int) (mass : Nat) (outcome : Option Int) : Prop where
  size : sum.natAbs ≤ mass
  sound : ∀ n, outcome = some n → n = start + sum
  complete : ((start.natAbs + mass : Nat) : Int) ≤ Number.greatest → outcome = some (start + sum)

namespace Adds

theorem nil (start : Int) : Adds start 0 0 (some start) := by
  refine ⟨Nat.le_refl 0, ?_, ?_⟩
  · intro n same
    rw [← Option.some.inj same, Int.add_zero]
  · intro _
    rw [Int.add_zero]

theorem leaf (n : Int) : Adds 0 n n.natAbs (some n) := by
  refine ⟨Nat.le_refl _, ?_, ?_⟩
  · intro m same
    rw [← Option.some.inj same, Int.zero_add]
  · intro _
    rw [Int.zero_add]

/-- One term is summed by itself, put on top of the start, and checked; the rest comes on top of
that. -/
theorem step {start sum rest : Int} {mass restMass : Nat} {outcome : Option Int}
    {next : Int → Option Int} (first : Adds 0 sum mass outcome)
    (later : ∀ acc, Adds acc rest restMass (next acc)) :
    Adds start (sum + rest) (mass + restMass)
      (outcome.bind fun n => (Number.fit? (start + n)).bind next) := by
  have firstSize := first.size
  refine ⟨?_, ?_, ?_⟩
  · have restSize := (later 0).size
    omega
  · intro n came
    obtain ⟨m, fromFirst, came⟩ := Option.bind_eq_some_iff.1 came
    obtain ⟨acc, fitted, came⟩ := Option.bind_eq_some_iff.1 came
    have exactFirst := first.sound m fromFirst
    obtain ⟨-, rfl⟩ := Number.fit?_eq_some_iff.1 fitted
    have exactRest := (later _).sound n came
    omega
  · intro small
    have fromFirst := first.complete (by omega)
    have fits : Number.Fits (start + (0 + sum)) := Number.fits_of_natAbs_le (by omega)
    have fitted := Number.fit?_eq_some_iff.2 ⟨fits, rfl⟩
    have fromRest := (later (start + (0 + sum))).complete (by omega)
    rw [fromFirst, Option.bind_some, fitted, Option.bind_some, fromRest]
    congr 1
    omega

end Adds

mutual

/-- The total of a value is the sum of its leaves. -/
theorem adds_total : ∀ value : Value, Adds 0 value.leafSum value.leafMass value.total?
  | .list items => adds_totalItems 0 items
  | .map entries => adds_totalEntries 0 entries
  | .int n => Adds.leaf n
  | .str s => Adds.leaf ((asInt? (.str s)).getD 0)
  | .bool _ => Adds.nil 0

theorem adds_totalItems (acc : Int) : ∀ items : List Value,
    Adds acc (leafSumItems items) (leafMassItems items) (totalItems? acc items)
  | [] => Adds.nil acc
  | item :: items => (adds_total item).step fun acc => adds_totalItems acc items

theorem adds_totalEntries (acc : Int) : ∀ entries : List (String × Value),
    Adds acc (leafSumEntries entries) (leafMassEntries entries) (totalEntries? acc entries)
  | [] => Adds.nil acc
  | (_, value) :: entries => (adds_total value).step fun acc => adds_totalEntries acc entries

end

end GuardedNet.Value
