import Std.Data.HashMap.Lemmas
import GuardedNet.Proofs.Run.Levels

/-!
# Bounded search is exact

The queue of a search holds what is left of one level and behind it what is known of the next,
and from each key the parents lead back to the start by the trail that a search by levels keeps
(`Search.Agree`). Looking at one marking keeps this (`Search.Agree.step`), so that both searches
have the same result (`Execution.search_eq_levels`). In particular the parents never lead in a
circle. Main statement: a path is found exactly when there is one within the steps, and the path
found is the first (`Execution.findPath_exact`).
-/

namespace GuardedNet

namespace Search

variable {e : Execution} {goal : String} {maxSteps depth : Nat}

/-! ### Parents -/

/-- From a key the parents lead to the start by the transitions of a trail, last one first. -/
def LeadsBack (parents : Parents) : List Nat → String → Prop
  | [], key => parents[key]? = some none
  | t :: trail, key =>
    ∃ parent, parents[key]? = some (some (parent, t)) ∧ LeadsBack parents trail parent

variable {parents : Parents} {trail : List Nat} {key : String}

theorem LeadsBack.mem (leads : LeadsBack parents trail key) : key ∈ parents := by
  rw [Std.HashMap.mem_iff_isSome_getElem?]
  cases trail with
  | nil =>
    rw [leads]
    rfl
  | cons t trail =>
    obtain ⟨parent, here, -⟩ := leads
    rw [here]
    rfl

/-- A new key changes nothing on the way back from the others. -/
theorem LeadsBack.insert (leads : LeadsBack parents trail key) {fresh : String}
    (isFresh : fresh ∉ parents) (value : Option (String × Nat)) :
    LeadsBack (parents.insert fresh value) trail key := by
  have same : ∀ other ∈ parents, (parents.insert fresh value)[other]? = parents[other]? := by
    intro other member
    have apart : fresh ≠ other := fun same => isFresh (same ▸ member)
    rw [Std.HashMap.getElem?_insert, if_neg (by simpa using apart)]
  induction trail generalizing key with
  | nil => exact (same key leads.mem).trans leads
  | cons t trail ih =>
    have member := leads.mem
    obtain ⟨parent, here, later⟩ := leads
    exact ⟨parent, (same key member).trans here, ih later⟩

/-- The way back ends at the start, and gives the trail. -/
theorem LeadsBack.rebuild? (leads : LeadsBack parents trail key) {limit : Nat}
    (enough : trail.length ≤ limit) (path : List Nat) :
    rebuild? parents limit key path = some (trail.reverse ++ path) := by
  induction trail generalizing key limit path with
  | nil =>
    have here : parents[key]? = some none := leads
    rw [Search.rebuild?.eq_def, here]
    rfl
  | cons t trail ih =>
    obtain ⟨parent, here, later⟩ := leads
    cases limit with
    | zero => cases enough
    | succ limit =>
      rw [Search.rebuild?, here, List.reverse_cons, List.append_assoc]
      exact ih later (Nat.le_of_succ_le_succ enough) (t :: path)

/-! ### Both searches -/

/-- The entry that a node at some depth has in the queue. -/
def entryOf (e : Execution) (depth : Nat) (node : Levels.Node) : Entry :=
  ⟨node.marking, node.marking.key e.net, depth⟩

/-- A search by levels that still has the nodes `rest` of a level to look at, and a search by
queue at the same point. The queue holds the rest of the level before the next one, and from
each node of both the parents lead back by its trail. -/
structure Agree (e : Execution) (depth : Nat) (level rest : List Levels.Node)
    (l : Levels.Progress) (p : Progress) : Prop where
  queue : waiting p.queue =
    rest.map (entryOf e depth) ++ l.next.reverse.map (entryOf e (depth + 1))
  reached : ∀ key, key ∈ l.reached ↔ key ∈ p.parents
  trails : ∀ node ∈ level ++ l.next,
    LeadsBack p.parents node.trail (node.marking.key e.net)
  short : ∀ node ∈ level ++ l.next, node.trail.length < p.parents.size
  refusals : p.refusals = l.refusals
  explored : p.explored = l.explored
  truncated : p.truncated = false

/-- Both searches end with one result, or both go on and agree. -/
inductive Alike (agree : Levels.Progress → Progress → Prop) :
    Except SearchResult Levels.Progress → Except SearchResult Progress → Prop
  | ends (result : SearchResult) : Alike agree (.error result) (.error result)
  | goesOn {l : Levels.Progress} {p : Progress} : agree l p → Alike agree (.ok l) (.ok p)

theorem Alike.foldlM {agree : Levels.Progress → Progress → Prop}
    {f : Levels.Progress → Nat → Except SearchResult Levels.Progress}
    {g : Progress → Nat → Except SearchResult Progress}
    (keeps : ∀ {l p}, agree l p → ∀ t, Alike agree (f l t) (g p t)) {l : Levels.Progress}
    {p : Progress} (start : agree l p) (ts : List Nat) :
    Alike agree (ts.foldlM f l) (ts.foldlM g p) := by
  induction ts generalizing l p with
  | nil => exact .goesOn start
  | cons t ts ih =>
    rw [List.foldlM_cons, List.foldlM_cons]
    have one := keeps start t
    generalize f l t = left, g p t = right at one ⊢
    cases one with
    | ends result => exact .ends result
    | goesOn agreed => exact ih agreed

variable {level rest : List Levels.Node} {l : Levels.Progress} {p : Progress}

/-- A new marking is put behind the others, with the one it was reached from as its parent. -/
theorem Agree.add (agree : Agree e depth level rest l p) {node : Levels.Node} {m : Marking}
    {t : Nat} (member : node ∈ level) (fresh : m.key e.net ∉ p.parents) :
    Agree e depth level rest
      { l with reached := l.reached.insert (m.key e.net), next := ⟨m, t :: node.trail⟩ :: l.next }
      { p with
        parents := p.parents.insert (m.key e.net) (some (node.marking.key e.net, t))
        queue := p.queue.enqueue ⟨m, m.key e.net, depth + 1⟩ } := by
  have size : (p.parents.insert (m.key e.net) (some (node.marking.key e.net, t))).size =
      p.parents.size + 1 := by
    rw [Std.HashMap.size_insert, if_neg fresh]
  have known := List.mem_append_left l.next member
  refine ⟨?_, fun key => ?_, fun other isOther => ?_, fun other isOther => ?_, agree.refusals,
    agree.explored, agree.truncated⟩
  · rw [waiting_enqueue, agree.queue, List.reverse_cons, List.map_append, List.append_assoc]
    rfl
  · rw [Std.HashSet.mem_insert, Std.HashMap.mem_insert, agree.reached]
  · rcases List.mem_append.1 isOther with old | new
    · exact (agree.trails other (List.mem_append_left _ old)).insert fresh _
    · rcases List.mem_cons.1 new with rfl | old
      · refine ⟨node.marking.key e.net, ?_, (agree.trails node known).insert fresh _⟩
        exact Std.HashMap.getElem?_insert_self
      · exact (agree.trails other (List.mem_append_right _ old)).insert fresh _
  · rw [size]
    rcases List.mem_append.1 isOther with old | new
    · exact Nat.lt_succ_of_lt (agree.short other (List.mem_append_left _ old))
    · rcases List.mem_cons.1 new with rfl | old
      · exact Nat.succ_lt_succ (agree.short node known)
      · exact Nat.lt_succ_of_lt (agree.short other (List.mem_append_right _ old))

theorem Agree.follow (agree : Agree e depth level rest l p) {node : Levels.Node}
    (member : node ∈ level) (t : Nat) :
    Alike (Agree e depth level rest) (Levels.follow e goal node l t)
      (follow e goal (entryOf e depth node) p t) := by
  rw [Levels.follow, Search.follow, entryOf]
  dsimp only
  by_cases enabled : e.net.enables node.marking t = true
  swap
  · rw [if_neg enabled, if_neg enabled]
    exact .goesOn agree
  rw [if_pos enabled, if_pos enabled]
  cases e.successor node.marking t with
  | error refusal =>
    refine .goesOn ⟨agree.queue, agree.reached, agree.trails, agree.short, ?_, agree.explored,
      agree.truncated⟩
    rw [agree.refusals]
  | ok m =>
    have same : l.reached.contains (m.key e.net) = p.parents.contains (m.key e.net) := by
      rw [Bool.eq_iff_iff, ← Std.HashSet.mem_iff_contains, ← Std.HashMap.mem_iff_contains]
      exact agree.reached _
    dsimp only
    rw [same]
    split
    · exact .goesOn agree
    rename_i notReached
    have fresh : m.key e.net ∉ p.parents := fun reached =>
      notReached (Std.HashMap.mem_iff_contains.1 reached)
    have added := agree.add member fresh (t := t)
    split
    · -- the way back from the target is the trail of its node
      have newest : ⟨m, t :: node.trail⟩ ∈ level ++ (⟨m, t :: node.trail⟩ :: l.next) := by simp
      have back := (added.trails _ newest).rebuild? (Nat.le_of_lt (added.short _ newest)) []
      rw [List.append_nil] at back
      dsimp only at back
      rw [back, Levels.Progress.finish, Progress.finish, agree.refusals, agree.explored,
        agree.truncated]
      exact .ends _
    · exact .goesOn added

/-! ### One marking -/

theorem dequeue?_of_waiting {queue : Std.Queue Entry} {entry : Entry} {entries : List Entry}
    (list : waiting queue = entry :: entries) :
    ∃ later, queue.dequeue? = some (entry, later) ∧ waiting later = entries := by
  cases taken : queue.dequeue? with
  | none =>
    rw [waiting_eq_nil taken] at list
    cases list
  | some pair =>
    obtain ⟨first, later⟩ := pair
    rw [waiting_of_dequeue? taken] at list
    obtain ⟨rfl, rfl⟩ := List.cons.inj list
    exact ⟨later, rfl, rfl⟩

/-- Looking at the first marking of the queue is looking at the next node of the level. -/
theorem Agree.step {node : Levels.Node} (agree : Agree e depth level (node :: rest) l p)
    (member : node ∈ level) (inside : depth < maxSteps) :
    Alike (Agree e depth level rest) (Levels.expand e goal l node) (step e goal maxSteps p) := by
  obtain ⟨later, taken, left⟩ := dequeue?_of_waiting agree.queue
  have notDeep : ¬maxSteps ≤ (entryOf e depth node).depth := Nat.not_le.2 inside
  rw [Levels.expand, Search.step, taken]
  dsimp only
  rw [if_neg notDeep]
  refine Alike.foldlM (fun agreed t => agreed.follow member t) ?_ _
  refine ⟨left, agree.reached, agree.trails, agree.short, agree.refusals, ?_, agree.truncated⟩
  rw [agree.explored]

/-! ### One level -/

theorem run_of_error {result : SearchResult} (stops : step e goal maxSteps p = .error result) :
    run e goal maxSteps p = result := by
  rw [run]
  split
  · rename_i other same
    rw [stops] at same
    exact (Except.error.inj same).symm
  · rename_i other same
    rw [stops] at same
    cases same

theorem run_of_ok {p' : Progress} (goes : step e goal maxSteps p = .ok p') :
    run e goal maxSteps p = run e goal maxSteps p' := by
  rw [run]
  split
  · rename_i other same
    rw [goes] at same
    cases same
  · rename_i other same
    rw [goes] at same
    obtain rfl := Except.ok.inj same
    rfl

/-- The rest of a level leads to a result, or to the next level. -/
theorem Agree.expand (agree : Agree e depth level rest l p) (members : ∀ node ∈ rest, node ∈ level)
    (inside : depth < maxSteps) :
    (∃ result, rest.foldlM (Levels.expand e goal) l = .error result ∧
      run e goal maxSteps p = result) ∨
    ∃ l' p', rest.foldlM (Levels.expand e goal) l = .ok l' ∧
      run e goal maxSteps p = run e goal maxSteps p' ∧ Agree e depth level [] l' p' := by
  induction rest generalizing l p with
  | nil => exact Or.inr ⟨l, p, rfl, rfl, agree⟩
  | cons node rest ih =>
    have one : Alike _ (Levels.expand e goal l node) _ :=
      agree.step (members node (List.mem_cons_self ..)) inside
    rw [List.foldlM_cons]
    generalize Levels.expand e goal l node = left at one ⊢
    generalize stepped : Search.step e goal maxSteps p = right at one
    cases one with
    | ends result => exact Or.inl ⟨result, rfl, run_of_error stepped⟩
    | goesOn agreed =>
      rw [run_of_ok stepped]
      exact ih agreed fun other isOther => members other (List.mem_cons_of_mem _ isOther)

/-- What is left of the queue when a level is done is the next level. -/
theorem Agree.next (agree : Agree e depth level [] l p) :
    Agree e (depth + 1) l.next.reverse l.next.reverse { l with next := [] } p := by
  have among : ∀ node ∈ l.next.reverse ++ [], node ∈ level ++ l.next := by
    intro node member
    rw [List.append_nil, List.mem_reverse] at member
    exact List.mem_append_right _ member
  refine ⟨?_, agree.reached, fun node member => agree.trails node (among node member),
    fun node member => agree.short node (among node member), agree.refusals, agree.explored,
    agree.truncated⟩
  rw [agree.queue]
  simp

/-- Markings at the last depth are looked at, but not followed. -/
theorem run_of_deep {entries : List Entry} (list : waiting p.queue = entries)
    (deep : ∀ entry ∈ entries, maxSteps ≤ entry.depth) :
    run e goal maxSteps p = ⟨none, p.explored + entries.length, p.refusals.reverse,
      p.truncated || !entries.isEmpty⟩ := by
  induction entries generalizing p with
  | nil =>
    have empty : p.queue.dequeue? = none := by
      cases taken : p.queue.dequeue? with
      | none => rfl
      | some pair =>
        rw [waiting_of_dequeue? taken] at list
        cases list
    have stepped : step e goal maxSteps p = .error (p.finish none) := by rw [step, empty]
    rw [run_of_error stepped]
    simp [Progress.finish]
  | cons entry entries ih =>
    obtain ⟨later, taken, left⟩ := dequeue?_of_waiting list
    have stepped : step e goal maxSteps p =
        .ok { p with queue := later, explored := p.explored + 1, truncated := true } := by
      rw [step, taken]
      dsimp only
      rw [if_pos (deep entry (List.mem_cons_self ..))]
    rw [run_of_ok stepped, ih left fun other isOther => deep other (List.mem_cons_of_mem _ isOther)]
    simp [Nat.add_comm, Nat.add_left_comm]

/-! ### The whole search -/

/-- A search by queue that agrees with a search by levels has its result. -/
theorem Agree.run_eq (steps : Nat) (agree : Agree e depth level level l p) (none : l.next = [])
    (limit : depth + steps = maxSteps) :
    run e goal maxSteps p = Levels.run e goal steps level l := by
  induction steps generalizing depth level l p with
  | zero =>
    have list : waiting p.queue = level.map (entryOf e depth) := by simpa [none] using agree.queue
    rw [run_of_deep list]
    · simp [Levels.run, Levels.Progress.finish, agree.explored, agree.refusals, agree.truncated]
    · intro entry member
      obtain ⟨node, -, rfl⟩ := List.mem_map.1 member
      exact Nat.le_of_eq limit.symm
  | succ steps ih =>
    cases level with
    | nil =>
      have list : waiting p.queue = [] := by simpa [none] using agree.queue
      rw [run_of_deep list (by simp)]
      simp [Levels.run, Levels.Progress.finish, agree.explored, agree.refusals, agree.truncated]
    | cons node level =>
      have inside : depth < maxSteps := by omega
      rcases agree.expand (fun _ member => member) inside with
        ⟨result, ended, same⟩ | ⟨l', p', all, same, agreed⟩
      · rw [same]
        simp only [Levels.run, ended]
      · rw [same, ih agreed.next rfl (by omega)]
        simp only [Levels.run, all]

/-- Both searches start with the current marking alone. -/
theorem agree_start (e : Execution) :
    Agree e 0 [⟨e.marking, []⟩] [⟨e.marking, []⟩]
      ⟨Std.HashSet.ofList [e.marking.key e.net], [], [], 0⟩
      { parents := Std.HashMap.emptyWithCapacity.insert (e.marking.key e.net) none
        queue := Std.Queue.empty.enqueue ⟨e.marking, e.marking.key e.net, 0⟩
        refusals := []
        explored := 0
        truncated := false } := by
  refine ⟨rfl, fun key => ?_, ?_, ?_, rfl, rfl, rfl⟩
  · rw [Std.HashSet.mem_ofList, List.contains_iff_mem, List.mem_singleton]
    rw [Std.HashMap.mem_insert, beq_iff_eq, or_iff_left Std.HashMap.not_mem_emptyWithCapacity]
    exact eq_comm
  · exact List.forall_mem_singleton.2 Std.HashMap.getElem?_insert_self
  · refine List.forall_mem_singleton.2 ?_
    rw [Std.HashMap.size_insert, if_neg Std.HashMap.not_mem_emptyWithCapacity]
    exact Nat.succ_pos _

end Search

namespace Execution

/-- The queue and the parents find what a search by levels finds: the same path, and the same
numbers on the way. -/
theorem search_eq_levels (e : Execution) (target : Marking) (maxSteps : Nat) :
    e.search target maxSteps = Levels.search e target maxSteps := by
  unfold search Levels.search
  dsimp only
  split
  · rfl
  · exact (Search.agree_start e).run_eq maxSteps rfl (Nat.zero_add maxSteps)

/-- A path to the target is found exactly when some path of at most so many steps leads there.
The path found can be fired from the current state and ends in the target, none to the target
is shorter, and of the shortest ones it is the least in the order of the declarations. -/
theorem findPath_exact {d : Document} {e : Execution} (valid : Net.ofDocument d = .ok e.net)
    (sized : Marking.Over e.net e.marking) {target : Marking}
    (sizedTarget : Marking.Over e.net target) (maxSteps : Nat) :
    ((e.findPath target maxSteps).isSome ↔
      ∃ path, path.length ≤ maxSteps ∧ e.Path e.marking path target) ∧
    ∀ path, e.findPath target maxSteps = some path →
      path.length ≤ maxSteps ∧ e.Path e.marking path target ∧
      (∃ final, (path.map e.net.transitionId).foldlM fire e = .ok final ∧
        final.marking = target) ∧
      ∀ other, e.Path e.marking other target →
        path.length ≤ other.length ∧ (other.length = path.length → ¬other < path) := by
  have formed := Net.wellFormed_of_ofDocument valid
  rw [findPath, search_eq_levels]
  rcases Levels.search_spec formed sized sizedTarget maxSteps with
    ⟨length, within, path, found, rfl, first⟩ | ⟨notFound, absent⟩
  · rw [found]
    refine ⟨⟨fun _ => ⟨path, within, first.leads⟩, fun _ => rfl⟩, fun path' same => ?_⟩
    obtain rfl := Option.some.inj same
    exact ⟨within, first.leads, first.leads.replay formed, first.least⟩
  · rw [notFound]
    refine ⟨⟨fun isSome => absurd isSome Bool.false_ne_true, ?_⟩, fun path same => by cases same⟩
    rintro ⟨path, short, leads⟩
    exact absurd ⟨path, Nat.lt_succ_of_le short, leads⟩ absent

/-- One token that goes back and forth between two places. -/
def shuttle : Document where
  name := "shuttle"
  version := "1"
  places := [⟨"here", .token, .int 1, false, none⟩, ⟨"there", .token, .int 0, false, some 1⟩]
  transitions := [{ id := "go", guard := none, rate := 1.0 },
    { id := "return", guard := none, rate := 1.0 }]
  arcs := [⟨"here", "go", [], none⟩, ⟨"go", "there", [], none⟩, ⟨"there", "return", [], none⟩,
    ⟨"return", "here", [], none⟩]
  invariants := []

/-- The token is found at the other place after one step. -/
theorem findPath_exact_shuttle :
    ∃ net, Net.ofDocument shuttle = .ok net ∧
      let e := start net true
      (e.findPath [⟨0, none⟩, ⟨1, none⟩] 3).isSome := by
  refine ⟨_, rfl, ?_⟩
  intro e
  have valid : Net.ofDocument shuttle = .ok e.net := rfl
  have sized : Marking.Over e.net e.marking := rfl
  have sizedTarget : Marking.Over e.net [⟨0, none⟩, ⟨1, none⟩] := rfl
  refine (findPath_exact valid sized sizedTarget 3).1.2 ⟨[0], by decide, ?_⟩
  exact .cons ⟨by decide, rfl⟩ (.nil _)

end Execution

end GuardedNet
