import Std.Data.HashSet.Lemmas
import GuardedNet.Proofs.Run.Path
import GuardedNet.Run.Search

/-!
# Search level by level

A search that keeps one level of nodes at a time, each with the path that leads to it. A level
of some depth holds the markings that no shorter path reaches, each with its first path, in the
order of these paths (`Level`). Following the moves of a level in order keeps `Expanding`, which
turns into the next level when all moves are done. Main statement: a path is found exactly when
there is one within the steps, and the path found is the first (`Levels.search_spec`).
-/

namespace GuardedNet

/-- Of two lists of one length the lesser stays less whatever follows. -/
theorem append_lt_append {a b : List Nat} (lengths : a.length = b.length) (less : a < b)
    (x y : List Nat) : a ++ x < b ++ y := by
  induction a generalizing b with
  | nil =>
    obtain rfl := List.length_eq_zero_iff.1 lengths.symm
    exact absurd less (List.lt_irrefl [])
  | cons s a ih =>
    obtain ⟨t, b, rfl⟩ := List.exists_cons_of_length_eq_add_one lengths.symm
    rw [List.cons_lt_cons_iff] at less
    rw [List.cons_append, List.cons_append, List.cons_lt_cons_iff]
    rcases less with first | ⟨rfl, later⟩
    · exact Or.inl first
    · exact Or.inr ⟨rfl, ih (Nat.succ.inj lengths) later⟩

namespace Levels

/-- A marking with the transitions that lead to it, last one first. -/
structure Node where
  marking : Marking
  trail : List Nat

/-- Where a search stands: the keys of the markings reached so far, the nodes of the next
level and the refused firings, newest first, and the number of markings looked at. -/
structure Progress where
  reached : Std.HashSet String
  next : List Node
  refusals : List (Nat × FireError)
  explored : Nat

/-- The result of a search that ends here. -/
def Progress.finish (p : Progress) (path : Option (List Nat)) (truncated : Bool) : SearchResult :=
  ⟨path, p.explored, p.refusals.reverse, truncated⟩

/-- Follows one transition from a node. The search ends when it leads to the target. -/
def follow (e : Execution) (target : String) (node : Node) (p : Progress) (transition : Nat) :
    Except SearchResult Progress :=
  if e.net.enables node.marking transition then
    match e.successor node.marking transition with
    | .error refusal => .ok { p with refusals := (transition, refusal) :: p.refusals }
    | .ok marking =>
      let key := marking.key e.net
      if p.reached.contains key then .ok p
      else
        let trail := transition :: node.trail
        if key == target then .error (p.finish (some trail.reverse) false)
        else .ok { p with reached := p.reached.insert key, next := ⟨marking, trail⟩ :: p.next }
  else .ok p

/-- Follows all transitions from a node. -/
def expand (e : Execution) (target : String) (p : Progress) (node : Node) :
    Except SearchResult Progress :=
  (List.range e.net.transitions.length).foldlM (follow e target node)
    { p with explored := p.explored + 1 }

/-- Searches on from a level with so many steps left. -/
def run (e : Execution) (target : String) : Nat → List Node → Progress → SearchResult
  | 0, level, p =>
    { p with explored := p.explored + level.length }.finish none !level.isEmpty
  | steps + 1, level, p =>
    match level with
    | [] => p.finish none false
    | level =>
      match level.foldlM (expand e target) p with
      | .error found => found
      | .ok p => run e target steps p.next.reverse { p with next := [] }

/-- Searches level by level for a marking in at most `maxSteps` firings from the current one. -/
def search (e : Execution) (target : Marking) (maxSteps : Nat) : SearchResult :=
  let start := e.marking.key e.net
  let goal := target.key e.net
  if start == goal then ⟨some [], 0, [], false⟩
  else run e goal maxSteps [⟨e.marking, []⟩] ⟨Std.HashSet.ofList [start], [], [], 0⟩

/-- The transitions that lead to a node, first one first. -/
def Node.path (node : Node) : List Nat := node.trail.reverse

/-- The moves of a level: each of its nodes with each transition, in order. -/
def moves (e : Execution) (level : List Node) : List (Node × Nat) :=
  level.flatMap fun node => (List.range e.net.transitions.length).map fun t => (node, t)

/-- The transitions that lead to the end of a move. -/
def movePath (move : Node × Nat) : List Nat := move.1.path ++ [move.2]

/-- The nodes are the markings that take `depth` steps to reach, each with its first path, in
the order of these paths. -/
structure Level (e : Execution) (depth : Nat) (level : List Node) : Prop where
  first : ∀ node ∈ level, e.FirstPath node.path node.marking
  length : ∀ node ∈ level, node.path.length = depth
  sorted : level.Pairwise fun a b => a.path < b.path
  complete : ∀ m, e.ReachedBefore (depth + 1) m →
    e.ReachedBefore depth m ∨ ∃ node ∈ level, node.marking = m

/-- The marking is within `depth` steps, or at the end of a move that is done. -/
def Seen (e : Execution) (depth : Nat) (done : List (Node × Nat)) (m : Marking) : Prop :=
  e.ReachedBefore (depth + 1) m ∨ ∃ move ∈ done, e.Step move.1.marking move.2 m

/-- The keys reached so far are those of the markings seen, and the markings that are seen but
not within `depth` steps make up the next level so far, newest first. -/
structure Expanding (e : Execution) (depth : Nat) (goal : String) (done : List (Node × Nat))
    (p : Progress) : Prop where
  reached : ∀ key, key ∈ p.reached ↔ ∃ m, Seen e depth done m ∧ m.key e.net = key
  first : ∀ node ∈ p.next, e.FirstPath node.path node.marking
  length : ∀ node ∈ p.next, node.path.length = depth + 1
  sorted : p.next.Pairwise fun a b => b.path < a.path
  fromDone : ∀ node ∈ p.next, ∃ move ∈ done, node.path = movePath move
  complete : ∀ m, Seen e depth done m →
    e.ReachedBefore (depth + 1) m ∨ ∃ node ∈ p.next, node.marking = m
  missing : goal ∉ p.reached

/-! ### The order of moves -/

theorem mem_moves {e : Execution} {level : List Node} {move : Node × Nat} :
    move ∈ moves e level ↔ move.1 ∈ level ∧ move.2 < e.net.transitions.length := by
  obtain ⟨node, t⟩ := move
  simp [moves, List.mem_flatMap]

theorem moves_append (e : Execution) (front back : List Node) :
    moves e (front ++ back) = moves e front ++ moves e back := by
  simp [moves]

/-- The moves of a level stand in the order of the paths to their ends. -/
theorem Level.sorted_moves {e : Execution} {depth : Nat} {level : List Node}
    (here : Level e depth level) :
    (moves e level).Pairwise fun a b => movePath a < movePath b := by
  rw [moves, List.pairwise_flatMap]
  refine ⟨fun node _ => ?_, ?_⟩
  · rw [List.pairwise_map]
    refine List.pairwise_lt_range.imp fun less => ?_
    exact List.append_left_lt (List.cons_lt_cons_iff.2 (Or.inl less))
  · refine here.sorted.imp_of_mem fun {a b} memberA memberB less => ?_
    intro move member move' member'
    obtain ⟨s, -, rfl⟩ := List.mem_map.1 member
    obtain ⟨t, -, rfl⟩ := List.mem_map.1 member'
    exact append_lt_append ((here.length a memberA).trans (here.length b memberB).symm) less _ _

/-- A move to a marking that no shorter path reaches gives its first path, if it comes before
all other moves to that marking. -/
theorem Level.firstPath_of_move {e : Execution} {depth : Nat} {level : List Node}
    (here : Level e depth level) {move : Node × Nat} {m : Marking} (member : move.1 ∈ level)
    (step : e.Step move.1.marking move.2 m) (fresh : ¬e.ReachedBefore (depth + 1) m)
    (earliest : ∀ other ∈ moves e level, e.Step other.1.marking other.2 m →
      ¬movePath other < movePath move) : e.FirstPath (movePath move) m := by
  have length : (movePath move).length = depth + 1 := by
    rw [movePath, List.length_append, here.length _ member, List.length_singleton]
  have leadsHere := Execution.path_append_singleton.2 ⟨_, (here.first _ member).leads, step⟩
  refine ⟨leadsHere, fun other leads => ?_⟩
  have notShorter : depth + 1 ≤ other.length := by
    by_contra short
    exact fresh ⟨other, Nat.lt_of_not_le short, leads⟩
  refine ⟨length ▸ notShorter, fun sameLength => ?_⟩
  rcases List.eq_nil_or_concat' other with rfl | ⟨front, t, rfl⟩
  · rw [List.length_nil] at notShorter
    omega
  obtain ⟨middle, leadsFront, last⟩ := Execution.path_append_singleton.1 leads
  have frontLength : front.length = depth := by
    rw [length, List.length_append, List.length_singleton] at sameLength
    omega
  -- the other path passes through a node of the level, which gives a move to compare with
  rcases here.complete middle ⟨front, by omega, leadsFront⟩ with nearer | ⟨node, nodeIn, rfl⟩
  · exact absurd (nearer.step last) fresh
  · have before : ¬movePath (node, t) < movePath move :=
      earliest (node, t) (mem_moves.2 ⟨nodeIn, last.1⟩) last
    have least : ¬front < node.path :=
      ((here.first node nodeIn).least front leadsFront).2
        (frontLength.trans (here.length node nodeIn).symm)
    rcases List.le_iff_lt_or_eq.1 (List.not_lt.1 least) with less | rfl
    · intro later
      have between : movePath (node, t) < front ++ [t] :=
        append_lt_append ((here.length node nodeIn).trans frontLength.symm) less _ _
      exact before (List.lt_trans between later)
    · exact before

/-! ### One move -/

theorem seen_append {e : Execution} {depth : Nat} {done : List (Node × Nat)} {move : Node × Nat}
    {m : Marking} : Seen e depth (done ++ [move]) m ↔
      Seen e depth done m ∨ e.Step move.1.marking move.2 m := by
  simp only [Seen, List.mem_append, List.mem_singleton]
  constructor
  · rintro (reached | ⟨other, old | rfl, step⟩)
    · exact Or.inl (Or.inl reached)
    · exact Or.inl (Or.inr ⟨other, old, step⟩)
    · exact Or.inr step
  · rintro ((reached | ⟨other, old, step⟩) | step)
    · exact Or.inl reached
    · exact Or.inr ⟨other, Or.inl old, step⟩
    · exact Or.inr ⟨move, Or.inr rfl, step⟩

theorem seen_nil_iff {e : Execution} {depth : Nat} {m : Marking} :
    Seen e depth [] m ↔ e.ReachedBefore (depth + 1) m := by
  simp [Seen]

/-- When the moves of a level are followed in order, a move to a marking that is not yet seen
gives its first path, which comes after the paths of the moves already done. -/
theorem Level.firstPath_of_fresh {e : Execution} {depth : Nat} {level : List Node}
    (here : Level e depth level) {done rest : List (Node × Nat)} {node : Node} {t : Nat}
    (inOrder : moves e level = done ++ (node, t) :: rest) {m : Marking}
    (step : e.Step node.marking t m) (fresh : ¬Seen e depth done m) :
    e.FirstPath (movePath (node, t)) m ∧
      ∀ move ∈ done, movePath move < movePath (node, t) := by
  have sorted := here.sorted_moves
  rw [inOrder, List.pairwise_append, List.pairwise_cons] at sorted
  obtain ⟨-, ⟨beforeRest, -⟩, afterDone⟩ := sorted
  have moveIn : (node, t) ∈ moves e level :=
    inOrder ▸ List.mem_append_right _ (List.mem_cons_self ..)
  refine ⟨?_, fun move member => afterDone move member (node, t) (List.mem_cons_self ..)⟩
  refine here.firstPath_of_move (mem_moves.1 moveIn).1 step
    (fun reached => fresh (Or.inl reached)) fun other member step' => ?_
  rw [inOrder] at member
  rcases List.mem_append.1 member with old | new
  · exact absurd (Or.inr ⟨other, old, step'⟩) fresh
  · rcases List.mem_cons.1 new with rfl | new
    · exact List.lt_irrefl _
    · exact fun less => List.lt_irrefl _ (List.lt_trans less (beforeRest other new))

/-- A move that leads nowhere new changes nothing but the record of refusals. -/
theorem Expanding.skip {e : Execution} {depth : Nat} {goal : String} {done : List (Node × Nat)}
    {p p' : Progress} (sofar : Expanding e depth goal done p) {move : Node × Nat}
    (known : ∀ m, e.Step move.1.marking move.2 m → Seen e depth done m)
    (sameReached : p'.reached = p.reached) (sameNext : p'.next = p.next) :
    Expanding e depth goal (done ++ [move]) p' := by
  have same : ∀ m, Seen e depth (done ++ [move]) m ↔ Seen e depth done m := fun m =>
    seen_append.trans ⟨fun either => either.elim id (known m), Or.inl⟩
  refine ⟨fun key => ?_, sameNext ▸ sofar.first, sameNext ▸ sofar.length,
    sameNext ▸ sofar.sorted, fun node member => ?_, fun m seen => ?_, sameReached ▸ sofar.missing⟩
  · rw [sameReached, sofar.reached]
    simp only [same]
  · obtain ⟨other, old, path⟩ := sofar.fromDone node (sameNext ▸ member)
    exact ⟨other, List.mem_append_left _ old, path⟩
  · rw [sameNext]
    exact sofar.complete m ((same m).1 seen)

/-- A move to a new marking adds a node to the next level. -/
theorem Expanding.add {e : Execution} {depth : Nat} {goal : String} {done : List (Node × Nat)}
    {p : Progress} (sofar : Expanding e depth goal done p) {node : Node} {t : Nat} {m : Marking}
    (step : e.Step node.marking t m) (first : e.FirstPath (movePath (node, t)) m)
    (length : (movePath (node, t)).length = depth + 1)
    (later : ∀ move ∈ done, movePath move < movePath (node, t)) (other : m.key e.net ≠ goal) :
    Expanding e depth goal (done ++ [(node, t)])
      { p with reached := p.reached.insert (m.key e.net),
               next := ⟨m, t :: node.trail⟩ :: p.next } := by
  have path : Node.path ⟨m, t :: node.trail⟩ = movePath (node, t) := List.reverse_cons
  have only : ∀ m', e.Step node.marking t m' → m' = m := fun m' step' =>
    Except.ok.inj (step'.2.symm.trans step.2)
  refine ⟨fun key => ?_, ?_, ?_, ?_, ?_, fun m' seen => ?_, ?_⟩
  · rw [Std.HashSet.mem_insert, sofar.reached]
    simp only [seen_append, beq_iff_eq]
    constructor
    · rintro (rfl | ⟨m', seen, rfl⟩)
      · exact ⟨m, Or.inr step, rfl⟩
      · exact ⟨m', Or.inl seen, rfl⟩
    · rintro ⟨m', seen | step', rfl⟩
      · exact Or.inr ⟨m', seen, rfl⟩
      · rw [only m' step']
        exact Or.inl rfl
  · exact List.forall_mem_cons.2 ⟨path ▸ first, sofar.first⟩
  · exact List.forall_mem_cons.2 ⟨path ▸ length, sofar.length⟩
  · refine List.pairwise_cons.2 ⟨fun old member => ?_, sofar.sorted⟩
    obtain ⟨move, isDone, oldPath⟩ := sofar.fromDone old member
    rw [path, oldPath]
    exact later move isDone
  · refine List.forall_mem_cons.2 ⟨⟨(node, t), by simp, path⟩, fun old member => ?_⟩
    obtain ⟨move, isDone, oldPath⟩ := sofar.fromDone old member
    exact ⟨move, List.mem_append_left _ isDone, oldPath⟩
  · rcases seen_append.1 seen with old | step'
    · rcases sofar.complete m' old with reached | ⟨node', member, same⟩
      · exact Or.inl reached
      · exact Or.inr ⟨node', List.mem_cons_of_mem _ member, same⟩
    · exact Or.inr ⟨_, List.mem_cons_self .., (only m' step').symm⟩
  · rw [Std.HashSet.mem_insert, beq_iff_eq]
    rintro (same | old)
    · exact other same
    · exact sofar.missing old

section Exact

variable {e : Execution} (formed : e.net.WellFormed) (sized : Marking.Over e.net e.marking)
  {target : Marking} (sizedTarget : Marking.Over e.net target)

/-- What ends a search early: the first path to the target, found with this length. -/
def Found (e : Execution) (target : Marking) (length : Nat) (result : SearchResult) : Prop :=
  ∃ path, result.path = some path ∧ path.length = length ∧ e.FirstPath path target

include formed sized in
theorem over_of_reachedBefore {n : Nat} {m : Marking} (reached : e.ReachedBefore n m) :
    Marking.Over e.net m := by
  obtain ⟨path, -, leads⟩ := reached
  exact leads.sized formed sized

include formed sized in
/-- The key of a marking over the net is reached when the marking itself is seen. -/
theorem Expanding.key_mem_iff {depth : Nat} {goal : String} {level : List Node}
    (here : Level e depth level) {done : List (Node × Nat)} {p : Progress}
    (sofar : Expanding e depth goal done p) (fromLevel : ∀ move ∈ done, move.1 ∈ level)
    {m : Marking} (overM : Marking.Over e.net m) :
    m.key e.net ∈ p.reached ↔ Seen e depth done m := by
  rw [sofar.reached]
  constructor
  · rintro ⟨other, seen, same⟩
    have overOther : Marking.Over e.net other := by
      rcases seen with reached | ⟨move, member, step⟩
      · exact over_of_reachedBefore formed sized reached
      · exact step.sized formed
          ((here.first _ (fromLevel move member)).leads.sized formed sized)
    obtain rfl := Marking.key_inj overOther overM same
    exact seen
  · intro seen
    exact ⟨m, seen, rfl⟩

include formed sized sizedTarget in
/-- Following the next move of a level keeps `Expanding`, or finds the first path. -/
theorem follow_spec {depth : Nat} {level : List Node} (here : Level e depth level)
    {done rest : List (Node × Nat)} {node : Node} {t : Nat}
    (inOrder : moves e level = done ++ (node, t) :: rest) {p : Progress}
    (sofar : Expanding e depth (target.key e.net) done p) :
    (∀ p', follow e (target.key e.net) node p t = .ok p' →
      Expanding e depth (target.key e.net) (done ++ [(node, t)]) p') ∧
    ∀ result, follow e (target.key e.net) node p t = .error result →
      Found e target (depth + 1) result := by
  have doneIn : ∀ move ∈ done, move ∈ moves e level := fun move member =>
    inOrder ▸ List.mem_append_left _ member
  have moveIn : (node, t) ∈ moves e level :=
    inOrder ▸ List.mem_append_right _ (List.mem_cons_self ..)
  obtain ⟨nodeIn, inside⟩ := mem_moves.1 moveIn
  unfold follow
  split
  swap
  · rename_i disabled
    refine ⟨fun p' same => ?_, fun result same => by cases same⟩
    obtain rfl := Except.ok.inj same
    exact sofar.skip (fun m step => absurd step.enables disabled) rfl rfl
  split
  · rename_i refusal refused
    refine ⟨fun p' same => ?_, fun result same => by cases same⟩
    obtain rfl := Except.ok.inj same
    refine sofar.skip (fun m step => ?_) rfl rfl
    have allowed : e.successor node.marking t = .ok m := step.2
    rw [refused] at allowed
    cases allowed
  rename_i m allowed
  have step : e.Step node.marking t m := ⟨inside, allowed⟩
  have overM : Marking.Over e.net m :=
    step.sized formed ((here.first node nodeIn).leads.sized formed sized)
  have seen := sofar.key_mem_iff formed sized here (fun move member =>
    (mem_moves.1 (doneIn move member)).1) overM
  dsimp only
  split
  · rename_i contained
    refine ⟨fun p' same => ?_, fun result same => by cases same⟩
    obtain rfl := Except.ok.inj same
    refine sofar.skip (fun m' step' => ?_) rfl rfl
    obtain rfl : m' = m := Except.ok.inj (step'.2.symm.trans allowed)
    exact seen.1 (Std.HashSet.mem_iff_contains.2 contained)
  rename_i notContained
  have fresh : ¬Seen e depth done m := fun isSeen =>
    notContained (Std.HashSet.mem_iff_contains.1 (seen.2 isSeen))
  obtain ⟨first, later⟩ := here.firstPath_of_fresh inOrder step fresh
  have length : (movePath (node, t)).length = depth + 1 := by
    rw [movePath, List.length_append, here.length node nodeIn, List.length_singleton]
  split
  · rename_i atGoal
    refine ⟨fun p' same => (by cases same), fun result same => ?_⟩
    obtain rfl := Except.error.inj same
    obtain rfl := Marking.key_inj overM sizedTarget (beq_iff_eq.1 atGoal)
    refine ⟨movePath (node, t), ?_, length, first⟩
    rw [Progress.finish, movePath, Node.path, List.reverse_cons]
  · rename_i elsewhere
    refine ⟨fun p' same => ?_, fun result same => by cases same⟩
    obtain rfl := Except.ok.inj same
    exact sofar.add step first length later fun same => elsewhere (beq_iff_eq.2 same)

/-! ### One level -/

include formed sized sizedTarget in
/-- Following all moves of a level in order keeps `Expanding`, or finds the first path. -/
theorem expandLevel_spec {depth : Nat} {level : List Node} (here : Level e depth level)
    {p : Progress} (start : Expanding e depth (target.key e.net) [] p) :
    (∀ p', level.foldlM (expand e (target.key e.net)) p = .ok p' →
      Expanding e depth (target.key e.net) (moves e level) p') ∧
    ∀ result, level.foldlM (expand e (target.key e.net)) p = .error result →
      Found e target (depth + 1) result := by
  refine foldlM_rule (fun nodes => Expanding e depth (target.key e.net) (moves e nodes))
    (fun nodes node later p split sofar => ?_) start
  have counted : Expanding e depth (target.key e.net) (moves e nodes ++ [])
      { p with explored := p.explored + 1 } := by
    rw [List.append_nil]
    exact ⟨sofar.reached, sofar.first, sofar.length, sofar.sorted, sofar.fromDone,
      sofar.complete, sofar.missing⟩
  have oneNode : moves e (nodes ++ [node]) =
      moves e nodes ++ (List.range e.net.transitions.length).map fun t => (node, t) := by
    rw [moves_append]
    simp [moves]
  rw [expand, oneNode]
  refine foldlM_rule (fun ts => Expanding e depth (target.key e.net)
    (moves e nodes ++ ts.map fun t => (node, t))) (fun ts t rest p ranged sofar => ?_) counted
  have inOrder : moves e level = (moves e nodes ++ ts.map fun t => (node, t)) ++
      (node, t) :: (rest.map (fun t => (node, t)) ++ moves e later) := by
    rw [split, List.append_cons, moves_append, oneNode, ranged]
    simp
  rw [List.map_append, ← List.append_assoc]
  exact follow_spec formed sized sizedTarget here inOrder sofar

/-- What is seen when all moves of a level are done is what one step more reaches. -/
theorem Level.seen_moves_iff {depth : Nat} {level : List Node} (here : Level e depth level)
    {m : Marking} : Seen e depth (moves e level) m ↔ e.ReachedBefore (depth + 2) m := by
  constructor
  · rintro (reached | ⟨move, member, step⟩)
    · exact reached.mono (Nat.le_succ _)
    · obtain ⟨nodeIn, -⟩ := mem_moves.1 member
      refine Execution.ReachedBefore.step ⟨move.1.path, ?_, (here.first _ nodeIn).leads⟩ step
      rw [here.length _ nodeIn]
      exact Nat.lt_succ_self depth
  · intro reached
    rcases reached.cases with rfl | ⟨middle, t, before, step⟩
    · exact Or.inl ⟨[], Nat.succ_pos depth, .nil _⟩
    · rcases here.complete middle before with nearer | ⟨node, nodeIn, rfl⟩
      · exact Or.inl (nearer.step step)
      · exact Or.inr ⟨(node, t), mem_moves.2 ⟨nodeIn, step.1⟩, step⟩

/-- When all moves of a level are done the nodes kept are the next level. -/
theorem Level.next {depth : Nat} {level : List Node} (here : Level e depth level) {goal : String}
    {p : Progress} (all : Expanding e depth goal (moves e level) p) :
    Level e (depth + 1) p.next.reverse := by
  refine ⟨fun node member => ?_, fun node member => ?_, ?_, fun m reached => ?_⟩
  · exact all.first node (List.mem_reverse.1 member)
  · exact all.length node (List.mem_reverse.1 member)
  · exact List.pairwise_reverse.2 all.sorted
  · rcases all.complete m (here.seen_moves_iff.2 reached) with nearer | ⟨node, member, same⟩
    · exact Or.inl nearer
    · exact Or.inr ⟨node, List.mem_reverse.2 member, same⟩

/-- When all moves of a level are done nothing is yet done of the next level. -/
theorem Level.expanding_next {depth : Nat} {level : List Node} (here : Level e depth level)
    {goal : String} {p : Progress} (all : Expanding e depth goal (moves e level) p) :
    Expanding e (depth + 1) goal [] { p with next := [] } := by
  refine ⟨fun key => ?_, by simp, by simp, by simp, by simp, ?_, all.missing⟩
  · rw [all.reached]
    simp only [here.seen_moves_iff, seen_nil_iff]
  · exact fun m seen => Or.inl (seen_nil_iff.1 seen)

/-- Nothing lies beyond an empty level. -/
theorem Level.reachedBefore_of_nil {depth : Nat} (here : Level e depth []) {n : Nat}
    {m : Marking} (reached : e.ReachedBefore n m) : e.ReachedBefore depth m := by
  have keep : ∀ m, e.ReachedBefore (depth + 1) m → e.ReachedBefore depth m := by
    intro m within
    rcases here.complete m within with nearer | ⟨node, member, -⟩
    · exact nearer
    · cases member
  induction n generalizing m with
  | zero =>
    obtain ⟨path, short, -⟩ := reached
    exact absurd short (Nat.not_lt_zero _)
  | succ n ih =>
    rcases reached.cases with rfl | ⟨middle, t, before, step⟩
    · exact keep _ ⟨[], Nat.succ_pos depth, .nil _⟩
    · exact keep m ((ih before).step step)

/-! ### The whole search -/

include formed sized sizedTarget in
/-- A run from a level finds the first path to the target, or there is none within the steps
that are left. -/
theorem run_spec (steps : Nat) {depth : Nat} {level : List Node} {p : Progress}
    (here : Level e depth level) (start : Expanding e depth (target.key e.net) [] p) :
    (∃ length ≤ depth + steps, Found e target length (run e (target.key e.net) steps level p)) ∨
    (run e (target.key e.net) steps level p).path = none ∧
      ¬e.ReachedBefore (depth + steps + 1) target := by
  have absent : ¬e.ReachedBefore (depth + 1) target := fun reached =>
    start.missing ((start.reached _).2 ⟨target, Or.inl reached, rfl⟩)
  induction steps generalizing depth level p with
  | zero => exact Or.inr ⟨rfl, absent⟩
  | succ steps ih =>
    unfold run
    split
    · refine Or.inr ⟨rfl, fun reached => absent ?_⟩
      exact (here.reachedBefore_of_nil reached).mono (Nat.le_succ depth)
    obtain ⟨goes, stops⟩ := expandLevel_spec formed sized sizedTarget here start
    split
    · rename_i result early
      exact Or.inl ⟨depth + 1, by omega, stops result early⟩
    · rename_i p' all
      have done := goes p' all
      have absent' : ¬e.ReachedBefore (depth + 1 + 1) target := fun reached =>
        done.missing ((done.reached _).2 ⟨target, here.seen_moves_iff.2 reached, rfl⟩)
      rw [show depth + (steps + 1) = depth + 1 + steps by omega]
      exact ih (here.next done) (here.expanding_next done) absent'

/-- The level that a search starts from. -/
theorem level_start (e : Execution) : Level e 0 [⟨e.marking, []⟩] := by
  refine ⟨?_, ?_, by simp, fun m reached => ?_⟩
  · refine List.forall_mem_singleton.2 ⟨.nil _, fun other _ => ⟨Nat.zero_le _, fun same => ?_⟩⟩
    rw [List.length_eq_zero_iff.1 same]
    exact List.lt_irrefl _
  · exact List.forall_mem_singleton.2 rfl
  · rcases reached.cases with rfl | ⟨middle, t, ⟨path, short, -⟩, -⟩
    · exact Or.inr ⟨_, List.mem_singleton_self _, rfl⟩
    · exact absurd short (Nat.not_lt_zero _)

theorem expanding_start (e : Execution) {goal : String} (apart : e.marking.key e.net ≠ goal) :
    Expanding e 0 goal [] ⟨Std.HashSet.ofList [e.marking.key e.net], [], [], 0⟩ := by
  have member : ∀ key, key ∈ Std.HashSet.ofList [e.marking.key e.net] ↔
      e.marking.key e.net = key := by
    intro key
    rw [Std.HashSet.mem_ofList, List.contains_iff_mem, List.mem_singleton]
    exact eq_comm
  refine ⟨fun key => ?_, by simp, by simp, by simp, by simp,
    fun m seen => Or.inl (seen_nil_iff.1 seen), fun reached => apart ((member goal).1 reached)⟩
  rw [member]
  constructor
  · rintro rfl
    exact ⟨e.marking, Or.inl ⟨[], Nat.zero_lt_one, .nil _⟩, rfl⟩
  · rintro ⟨m, seen, rfl⟩
    rcases (seen_nil_iff.1 seen).cases with rfl | ⟨middle, t, ⟨path, short, -⟩, -⟩
    · rfl
    · exact absurd short (Nat.not_lt_zero _)

include formed sized sizedTarget in
/-- A search finds the first path to the target, or there is none within the steps. -/
theorem search_spec (maxSteps : Nat) :
    (∃ length ≤ maxSteps, Found e target length (search e target maxSteps)) ∨
    (search e target maxSteps).path = none ∧ ¬e.ReachedBefore (maxSteps + 1) target := by
  unfold search
  dsimp only
  split
  · rename_i same
    obtain rfl := Marking.key_inj sized sizedTarget (beq_iff_eq.1 same)
    exact Or.inl ⟨0, Nat.zero_le _, [], rfl, rfl,
      (level_start e).first _ (List.mem_singleton_self _)⟩
  · rename_i apart
    have start := expanding_start e fun same => apart (beq_iff_eq.2 same)
    simpa using run_spec formed sized sizedTarget maxSteps (level_start e) start

end Exact

end Levels

end GuardedNet
