import Std.Data.HashMap
import GuardedNet.Run.Execution

/-!
# Bounded search

Breadth-first search for a marking. The markings that are reached but not yet looked at wait in
a queue, each with its depth, the number of firings that lead to it. For every marking reached
there is a parent, the marking before it and the transition between the two; only the start has
none. When the target is reached, its path is read back from the parents.
-/

namespace GuardedNet

/-- What a search found out: the path to the target if there is one, how many markings were
looked at, which firings were refused on the way, and whether the steps ran out. -/
structure SearchResult where
  path : Option (List Nat)
  explored : Nat
  refusals : List (Nat × FireError)
  truncated : Bool
deriving Inhabited

/-- The number of refused firings. -/
def SearchResult.rejected (result : SearchResult) : Nat := result.refusals.length

namespace Search

/-- For the key of each marking reached, the key of the marking before it and the transition
that led from there. The start has neither. -/
abbrev Parents := Std.HashMap String (Option (String × Nat))

/-- Follows the parents of a key back to the start, at most so many of them, and puts the
transitions on the way before a path. -/
def rebuild? (parents : Parents) (limit : Nat) (key : String) (path : List Nat) :
    Option (List Nat) :=
  match parents[key]? with
  | some (some (parent, transition)) =>
    match limit with
    | 0 => none
    | limit + 1 => rebuild? parents limit parent (transition :: path)
  | _ => some path

/-- A marking that waits to be looked at, with its key and the number of firings to it. -/
structure Entry where
  marking : Marking
  key : String
  depth : Nat

/-- Where a search stands: the parents of the markings reached so far, those that wait, the
refused firings, newest first, the number of markings looked at, and whether one of them was
too deep to be followed. -/
structure Progress where
  parents : Parents
  queue : Std.Queue Entry
  refusals : List (Nat × FireError)
  explored : Nat
  truncated : Bool

/-- The result of a search that ends here. -/
def Progress.finish (p : Progress) (path : Option (List Nat)) : SearchResult :=
  ⟨path, p.explored, p.refusals.reverse, p.truncated⟩

/-- Follows one transition from a marking. The search ends when it leads to the target. -/
def follow (e : Execution) (target : String) (entry : Entry) (p : Progress) (transition : Nat) :
    Except SearchResult Progress :=
  if e.net.enables entry.marking transition then
    match e.successor entry.marking transition with
    | .error refusal => .ok { p with refusals := (transition, refusal) :: p.refusals }
    | .ok marking =>
      let key := marking.key e.net
      if p.parents.contains key then .ok p
      else
        let parents := p.parents.insert key (some (entry.key, transition))
        if key == target then .error (p.finish (rebuild? parents parents.size key []))
        else
          let next : Entry := ⟨marking, key, entry.depth + 1⟩
          .ok { p with parents := parents, queue := p.queue.enqueue next }
  else .ok p

/-- Looks at the marking that has waited longest, and follows all its transitions unless it is
as deep as the search may go. The search ends when no marking waits. -/
def step (e : Execution) (target : String) (maxSteps : Nat) (p : Progress) :
    Except SearchResult Progress :=
  match p.queue.dequeue? with
  | none => .error (p.finish none)
  | some (entry, queue) =>
    let p := { p with queue := queue, explored := p.explored + 1 }
    if maxSteps ≤ entry.depth then .ok { p with truncated := true }
    else (List.range e.net.transitions.length).foldlM (follow e target entry) p

/-! ### The queue runs empty

A marking is replaced in the queue by at most as many deeper ones as there are transitions.
-/

/-- The entries of a queue, first one first. -/
def waiting (queue : Std.Queue Entry) : List Entry := queue.dList ++ queue.eList.reverse

theorem waiting_enqueue (queue : Std.Queue Entry) (entry : Entry) :
    waiting (queue.enqueue entry) = waiting queue ++ [entry] := by
  simp [waiting, Std.Queue.enqueue]

theorem waiting_of_dequeue? {queue rest : Std.Queue Entry} {entry : Entry}
    (taken : queue.dequeue? = some (entry, rest)) : waiting queue = entry :: waiting rest := by
  unfold Std.Queue.dequeue? at taken
  unfold waiting
  split at taken
  · rename_i front
    cases taken
    rw [front, List.cons_append]
  · rename_i front
    split at taken
    · cases taken
    · rename_i back
      cases taken
      simp [front, back]

theorem waiting_eq_nil {queue : Std.Queue Entry} (empty : queue.dequeue? = none) :
    waiting queue = [] := by
  unfold Std.Queue.dequeue? at empty
  unfold waiting
  split at empty
  · cases empty
  · rename_i front
    split at empty
    · rename_i back
      rw [front, back, List.append_nil]
    · cases empty

/-- The most markings that a search can look at because of one with so many steps left. -/
def reach (branches : Nat) : Nat → Nat
  | 0 => 1
  | room + 1 => (branches + 1) * reach branches room

theorem reach_pos (branches room : Nat) : 0 < reach branches room := by
  induction room with
  | zero => exact Nat.one_pos
  | succ room ih => exact Nat.mul_pos (Nat.succ_pos _) ih

/-- The most markings that a search can look at because of some at their depths. -/
def load (branches maxSteps : Nat) : List Entry → Nat
  | [] => 0
  | entry :: entries => reach branches (maxSteps - entry.depth) + load branches maxSteps entries

theorem load_append_singleton (branches maxSteps : Nat) (entries : List Entry) (entry : Entry) :
    load branches maxSteps (entries ++ [entry]) =
      load branches maxSteps entries + reach branches (maxSteps - entry.depth) := by
  induction entries with
  | nil => simp [load]
  | cons other entries ih => simp [load, ih, Nat.add_assoc]

/-- The most markings that a search can still look at. -/
def Progress.load (p : Progress) (branches maxSteps : Nat) : Nat :=
  Search.load branches maxSteps (waiting p.queue)

variable {e : Execution} {target : String} {maxSteps branches : Nat} {p p' : Progress}

theorem load_follow {entry : Entry} {t : Nat} (followed : follow e target entry p t = .ok p') :
    p'.load branches maxSteps ≤
      p.load branches maxSteps + reach branches (maxSteps - (entry.depth + 1)) := by
  unfold follow at followed
  split at followed
  · split at followed
    · cases followed
      exact Nat.le_add_right ..
    · dsimp only at followed
      split at followed
      · cases followed
        exact Nat.le_add_right ..
      · split at followed
        · cases followed
        · cases followed
          simp [Progress.load, waiting_enqueue, load_append_singleton]
  · cases followed
    exact Nat.le_add_right ..

theorem load_followAll {entry : Entry} {ts : List Nat}
    (followed : ts.foldlM (follow e target entry) p = .ok p') :
    p'.load branches maxSteps ≤
      p.load branches maxSteps + ts.length * reach branches (maxSteps - (entry.depth + 1)) := by
  induction ts generalizing p with
  | nil =>
    cases followed
    exact Nat.le_add_right ..
  | cons t ts ih =>
    rw [List.foldlM_cons] at followed
    cases first : follow e target entry p t with
    | error result =>
      rw [first] at followed
      cases followed
    | ok middle =>
      rw [first] at followed
      have one : middle.load branches maxSteps ≤ _ := load_follow first
      have rest := ih followed
      rw [List.length_cons, Nat.succ_mul]
      omega

/-- Each marking that is looked at makes the rest of the search smaller. -/
theorem load_step (stepped : step e target maxSteps p = .ok p') :
    p'.load e.net.transitions.length maxSteps < p.load e.net.transitions.length maxSteps := by
  unfold step at stepped
  split at stepped
  · cases stepped
  · rename_i entry queue taken
    have before : p.load e.net.transitions.length maxSteps =
        reach e.net.transitions.length (maxSteps - entry.depth) +
          Progress.load { p with queue := queue } e.net.transitions.length maxSteps := by
      rw [Progress.load, waiting_of_dequeue? taken, load]
      rfl
    dsimp only at stepped
    split at stepped
    · cases stepped
      rw [before]
      exact Nat.lt_add_of_pos_left (reach_pos ..)
    · have more : p'.load e.net.transitions.length maxSteps ≤ _ := load_followAll stepped
      have deeper : maxSteps - entry.depth = maxSteps - (entry.depth + 1) + 1 := by omega
      have positive := reach_pos e.net.transitions.length (maxSteps - (entry.depth + 1))
      rw [before, deeper, reach, Nat.succ_mul]
      rw [List.length_range] at more
      change _ ≤ Progress.load { p with queue := queue } _ _ + _ at more
      omega

/-- Looks at one marking after the other until the search ends. -/
def run (e : Execution) (target : String) (maxSteps : Nat) (p : Progress) : SearchResult :=
  match _ : step e target maxSteps p with
  | .error result => result
  | .ok p => run e target maxSteps p
termination_by p.load e.net.transitions.length maxSteps
decreasing_by exact load_step ‹_›

end Search

namespace Execution

/-- Searches for a marking in at most `maxSteps` firings from the current one. -/
def search (e : Execution) (target : Marking) (maxSteps : Nat) : SearchResult :=
  let start := e.marking.key e.net
  let goal := target.key e.net
  if start == goal then ⟨some [], 0, [], false⟩
  else
    Search.run e goal maxSteps
      { parents := Std.HashMap.emptyWithCapacity.insert start none
        queue := Std.Queue.empty.enqueue ⟨e.marking, start, 0⟩
        refusals := []
        explored := 0
        truncated := false }

/-- A shortest path to a marking in at most `maxSteps` firings. -/
def findPath (e : Execution) (target : Marking) (maxSteps : Nat) : Option (List Nat) :=
  (e.search target maxSteps).path

/-- Whether a marking can be reached in at most `maxSteps` firings. -/
def canReach (e : Execution) (target : Marking) (maxSteps : Nat) : Bool :=
  (e.findPath target maxSteps).isSome

/-- What a search reports. A search that starts at its target reports nothing. -/
def searchJournal (e : Execution) (target : Marking) (maxSteps : Nat) : Journal :=
  let result := e.search target maxSteps
  let refusals : Journal := result.refusals.map fun (t, refusal) =>
    .debug ("search skips t" ++ Number.natText t ++ ": " ++ refusal.message)
  match result.path with
  | some [] => []
  | some _ =>
    refusals ++ [.debug ("target reached after exploring " ++ Number.natText result.explored
      ++ " markings")]
  | none =>
    refusals ++ [.debug ("target not reached within " ++ Number.natText maxSteps ++ " steps ("
      ++ Number.natText result.explored ++ " markings explored)")]

end Execution

end GuardedNet
