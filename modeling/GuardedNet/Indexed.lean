/-!
# Items by position

A sequence that hands out a position for each item put into it. Items can be read and replaced
by their positions, which stay as they are.
-/

namespace GuardedNet

/-- Items in the order in which they were put. -/
structure Indexed (α : Type) where
  items : List α
deriving DecidableEq, Inhabited

namespace Indexed

variable {α : Type}

/-- One item so many times. -/
def filled (item : α) (size : Nat) : Indexed α := ⟨List.replicate size item⟩

/-- The number of items. -/
def size (xs : Indexed α) : Nat := xs.items.length

/-- The positions handed out so far. -/
def positions (xs : Indexed α) : List Nat := List.range xs.size

/-- Puts an item behind the others, and gives its position. -/
def push (xs : Indexed α) (item : α) : Nat × Indexed α := (xs.size, ⟨xs.items ++ [item]⟩)

/-- The item at a position. -/
def get? (xs : Indexed α) (position : Nat) : Option α := xs.items[position]?

/-- Changes the item at a position, if there is one. -/
def modify (xs : Indexed α) (position : Nat) (change : α → α) : Indexed α :=
  ⟨xs.items.modify position change⟩

/-- Changes all items. -/
def map (xs : Indexed α) (change : α → α) : Indexed α := ⟨xs.items.map change⟩

/-- The position handed out for an item reads it. -/
theorem get?_push_self (xs : Indexed α) (item : α) :
    (xs.push item).2.get? (xs.push item).1 = some item := List.getElem?_concat_length

/-- The positions handed out before read what they did. -/
theorem get?_push_of_lt (xs : Indexed α) (item : α) {position : Nat}
    (inside : position < xs.size) : (xs.push item).2.get? position = xs.get? position :=
  List.getElem?_append_left inside

/-- A change at one position leaves the others alone. -/
theorem get?_modify (xs : Indexed α) (place position : Nat) (change : α → α) :
    (xs.modify place change).get? position =
      if place = position then (xs.get? position).map change else xs.get? position := by
  simp only [modify, get?, List.getElem?_modify]
  split
  · rfl
  · simp

end Indexed

end GuardedNet
