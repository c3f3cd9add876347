import GuardedNet.Net.Basic
import GuardedNet.Number.FloatText

/-!
# Reactions

A net read as a system of reactions: a transition runs at its rate times the amounts in the
places that it takes from, and moves that much along each of its arcs. The amounts are doubles
when reactions are followed; how fast they change is computed alike in every kind of number.
-/

namespace GuardedNet

/-- A reaction, whose rate is of some kind of number. A place stands among the inputs or outputs
as often as it is taken from or given to. -/
structure Reaction (α : Type) where
  id : String
  rate : α
  inputs : List Nat
  outputs : List Nat
deriving Inhabited

/-- The amount in each place. -/
abbrev Amounts := Array Float

namespace Reaction

variable {α : Type} [Zero α] [Add α] [Sub α] [Mul α] [BEq α]

/-- How fast a reaction runs. -/
def flux (r : Reaction α) (amounts : Array α) : α :=
  r.inputs.foldl (fun flux place => flux * amounts.getD place 0) r.rate

/-- The slopes with the part of a reaction added. A reaction that stands still has none. -/
def addSlope (amounts : Array α) (slopes : Array α) (r : Reaction α) : Array α :=
  let flux := r.flux amounts
  if flux == 0 then slopes
  else
    let taken := r.inputs.foldl (fun out place => out.modify place (· - flux)) slopes
    r.outputs.foldl (fun out place => out.modify place (· + flux)) taken

/-- How fast the amount in each of so many places changes. -/
def slopes (reactions : List (Reaction α)) (places : Nat) (amounts : Array α) : Array α :=
  reactions.foldl (addSlope amounts) (Array.replicate places 0)

end Reaction

/-- Reactions over a span of time. -/
structure Problem where
  places : List String
  initial : Amounts
  reactions : List (Reaction Float)
  start : Float
  stop : Float
deriving Inhabited

/-- Each place as often as a column counts it. -/
def repeated (column : List Nat) : List Nat :=
  column.zipIdx.flatMap fun (weight, place) => List.replicate weight place

/-- The reactions of a net. -/
def Net.reactions (net : Net) : List (Reaction Float) :=
  net.transitions.zipIdx.map fun (transition, index) =>
    ⟨transition.id, transition.rate, repeated (net.consumed.column index),
      repeated (net.produced.column index)⟩

namespace Problem

/-- The reactions of a net from its declared numbers of tokens, over a span of time that starts
at zero. -/
def ofNet (net : Net) (timeSpan : Float) : Problem where
  places := net.places.map (·.id)
  initial := (net.places.map fun place => Number.ofInt place.initialTokens).toArray
  reactions := net.reactions
  start := 0.0
  stop := timeSpan

/-- How fast the amount in each place changes. -/
def slopes (problem : Problem) (amounts : Amounts) : Amounts :=
  Reaction.slopes problem.reactions problem.places.length amounts

end Problem

end GuardedNet
