import GuardedNet.Number.Bounds
import GuardedNet.Text.Layout

/-!
# Tables of places and transitions

One row for each place and one column for each transition. Main statement: an increment
changes one entry and no other (`Table.entry_increment`).
-/

namespace GuardedNet

/-- A table with a row for each place and a column for each transition. -/
structure Table (α : Type) where
  rows : List (List α)
  columns : Nat
deriving DecidableEq, Inhabited

namespace Table

variable {α β : Type}

/-- The table with one value everywhere. -/
def filled (value : α) (places transitions : Nat) : Table α :=
  ⟨List.replicate places (List.replicate transitions value), transitions⟩

/-- The row of a place. -/
def row (table : Table α) (place : Nat) : List α := table.rows[place]?.getD []

/-- The entry at a place and a transition, if the table has both. -/
def get? (table : Table α) (place transition : Nat) : Option α := (table.row place)[transition]?

/-- The table with the entry at a place and a transition changed. -/
def modify (table : Table α) (place transition : Nat) (change : α → α) : Table α :=
  { table with rows := table.rows.modify place fun row => row.modify transition change }

/-- The table with the entry at a place and a transition replaced. -/
def set (table : Table α) (place transition : Nat) (value : α) : Table α :=
  table.modify place transition fun _ => value

/-- The table with every entry changed. -/
def map (change : α → β) (table : Table α) : Table β :=
  ⟨table.rows.map (·.map change), table.columns⟩

/-- The entry of a table of counts, zero outside. -/
def entry (table : Table Nat) (place transition : Nat) : Nat :=
  (table.get? place transition).getD 0

/-- One more at a place and a transition. -/
def increment (table : Table Nat) (place transition : Nat) : Table Nat :=
  table.modify place transition (· + 1)

/-- The counts of a transition in the order of the places. -/
def column (table : Table Nat) (transition : Nat) : List Nat :=
  table.rows.map fun row => row[transition]?.getD 0

/-- The sum of the counts of a transition. -/
def columnTotal (table : Table Nat) (transition : Nat) : Nat :=
  Number.total (table.column transition)

/-- The places with a positive count at a transition, in order. -/
def touched (table : Table Nat) (transition : Nat) : List Nat :=
  (List.range table.rows.length).filter fun place => table.entry place transition > 0

/-- A count read as a bounded integer of two's complement. -/
def asBounded (count : Nat) : Int :=
  if (count : Int) ≤ Number.greatest then count else (count : Int) - Number.sizeLimit

/-- The entries of the first table less those of the second. -/
def difference (table other : Table Nat) : Table Int :=
  ⟨List.zipWith (List.zipWith fun l r => asBounded l - asBounded r) table.rows other.rows,
    table.columns⟩

/-- The table as a record on one line. -/
def detail (table : Table Nat) : String :=
  Text.record "Incidence"
    [("rows", Text.bracketed (table.rows.map fun row => Text.bracketed (row.map Number.natText))),
     ("cols", Number.natText table.columns)]

theorem get?_modify (table : Table α) (p q p' q' : Nat) (change : α → α) :
    (table.modify p q change).get? p' q' =
      if p' = p ∧ q' = q then (table.get? p' q').map change else table.get? p' q' := by
  simp only [get?, row, modify, List.getElem?_modify]
  by_cases samePlace : p' = p
  · subst samePlace
    cases found : table.rows[p']? with
    | none => simp
    | some row =>
      by_cases sameTransition : q' = q
      · subst sameTransition
        simp
      · have otherTransition : ¬q = q' := fun same => sameTransition same.symm
        simp [sameTransition, otherTransition]
  · have otherPlace : ¬p = p' := fun same => samePlace same.symm
    simp [samePlace, otherPlace]

/-- An increment raises one entry and leaves the others alone. -/
theorem entry_increment (table : Table Nat) (p q p' q' : Nat)
    (isSome : (table.get? p q).isSome) :
    (table.increment p q).entry p' q' =
      if p' = p ∧ q' = q then table.entry p' q' + 1 else table.entry p' q' := by
  simp only [entry, increment, get?_modify]
  split
  · rename_i same
    obtain ⟨rfl, rfl⟩ := same
    obtain ⟨count, found⟩ := Option.isSome_iff_exists.1 isSome
    simp [found]
  · rfl

theorem get?_filled (value : α) (places transitions p q : Nat) :
    (filled value places transitions).get? p q =
      if p < places ∧ q < transitions then some value else none := by
  simp only [get?, row, filled, List.getElem?_replicate]
  by_cases inside : p < places
  · simp [inside, List.getElem?_replicate]
  · simp [inside]

end Table

end GuardedNet
