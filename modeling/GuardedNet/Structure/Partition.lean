/-!
# Labels of joined numbers

Numbers below a bound are joined two at a time, and each gets a label that it shares with the
numbers it has been joined with. What the labels are is left open: `Labelling` stands for any way
to choose them. The one in use names each part by one of its members. When two parts are joined
the one of higher rank keeps its label, and of two with one rank the first, whose rank then grows.
-/

namespace GuardedNet

/-- Labels for the numbers below a bound after pairs of them have been joined, in order. -/
abbrev Labelling := Nat → List (Nat × Nat) → List Nat

/-- Each number of a list with the one after it. -/
def neighbours (numbers : List Nat) : List (Nat × Nat) := numbers.zip numbers.tail

/-- Puts a number into an ordered list, unless it is there. -/
def insertOrdered (n : Nat) : List Nat → List Nat
  | [] => [n]
  | m :: rest =>
    if n < m then n :: m :: rest
    else if n = m then m :: rest
    else m :: insertOrdered n rest

/-- The numbers that pass a test, grouped by their labels. The groups stand in the order of the
labels that occur. -/
def grouped (labels : List Nat) (test : Nat → Bool) : List (List Nat) :=
  let numbers := (List.range labels.length).filter test
  let occurring := (numbers.filterMap (labels[·]?)).foldr insertOrdered []
  occurring.map fun label => numbers.filter fun n => labels[n]? == some label

/-- A label for each number, and a rank for each label. -/
structure Partition where
  labels : List Nat
  ranks : List Nat
deriving DecidableEq, Inhabited

namespace Partition

/-- The partition with every number below `size` in a part of its own. -/
def discrete (size : Nat) : Partition := ⟨List.range size, List.replicate size 0⟩

/-- The label of the part that a number is in. -/
def label (p : Partition) (n : Nat) : Nat := p.labels[n]?.getD n

/-- The rank of a label. -/
def rank (p : Partition) (l : Nat) : Nat := p.ranks[l]?.getD 0

/-- The partition in which the part named `lost` belongs to the part named `kept`. -/
def relabel (p : Partition) (kept lost : Nat) : Partition :=
  { p with labels := p.labels.map fun l => if l = lost then kept else l }

/-- Joins the parts of two numbers. -/
def join (p : Partition) (a b : Nat) : Partition :=
  let x := p.label a
  let y := p.label b
  if x = y then p
  else if p.rank x < p.rank y then p.relabel y x
  else if p.rank y < p.rank x then p.relabel x y
  else { p.relabel x y with ranks := p.ranks.modify x (· + 1) }

/-- The labels after pairs of the numbers below `size` have been joined. -/
def labelling : Labelling := fun size joins =>
  (joins.foldl (fun p pair => p.join pair.1 pair.2) (discrete size)).labels

end Partition

end GuardedNet
