import Mathlib.Data.Finset.Card
import Mathlib.Data.List.ProdSigma
import Mathlib.Data.Set.Card
import GuardedNet.Proofs.Run.Search

/-!
# What a search that fails has counted

A search that finds no path has looked at every marking within its steps once, and has tried every
transition that such a marking enables before the last step. A level of the search holds each
marking at its distance once (`Levels.Level.encard_eq`), so the counts grow by the size of the level
(`Levels.Tally.next`). Main statement: the numbers that such a search reports are those of the
markings and of the refused moves, and if it was not cut off the target cannot be reached
(`Execution.search_statistics`).
-/

namespace GuardedNet

/-- A list without repetition holds as many items as its length says. -/
theorem encard_of_nodup {α : Type} {items : List α} (distinct : items.Nodup) :
    {item | item ∈ items}.encard = items.length := by
  classical
  rw [← List.coe_toFinset, Set.encard_coe_eq_coe_finsetCard, List.toFinset_card_of_nodup distinct]

namespace Execution

/-! ### Distances -/

/-- The least number of legal steps that lead from the current marking to `m`. -/
def AtDistance (e : Execution) (n : Nat) (m : Marking) : Prop :=
  IsLeast {length | ∃ path, e.Path e.marking path m ∧ path.length = length} n

/-- An enabled transition whose firing is refused. -/
def Refuses (e : Execution) (m : Marking) (t : Nat) : Prop :=
  t < e.net.transitions.length ∧ e.net.enables m t = true ∧
    ∃ refusal, e.successor m t = .error refusal

variable {e : Execution} {n : Nat} {m : Marking}

theorem FirstPath.atDistance {path : List Nat} (first : e.FirstPath path m) :
    e.AtDistance path.length m := by
  refine ⟨⟨path, first.leads, rfl⟩, ?_⟩
  rintro length ⟨other, leads, rfl⟩
  exact (first.least other leads).1

/-- A marking is at a distance if that many steps reach it and fewer do not. -/
theorem atDistance_iff :
    e.AtDistance n m ↔ e.ReachedBefore (n + 1) m ∧ ¬e.ReachedBefore n m := by
  constructor
  · rintro ⟨⟨path, leads, rfl⟩, least⟩
    refine ⟨⟨path, Nat.lt_succ_self _, leads⟩, ?_⟩
    rintro ⟨other, shorter, leads'⟩
    exact absurd (least ⟨other, leads', rfl⟩) (Nat.not_le.2 shorter)
  · rintro ⟨⟨path, short, leads⟩, notBefore⟩
    have noShorter : ∀ other, e.Path e.marking other m → n ≤ other.length := fun other leads' =>
      Nat.le_of_not_lt fun shorter => notBefore ⟨other, shorter, leads'⟩
    refine ⟨⟨path, leads, Nat.le_antisymm (Nat.le_of_lt_succ short) (noShorter path leads)⟩, ?_⟩
    rintro length ⟨other, leads', rfl⟩
    exact noShorter other leads'

theorem reachedBefore_succ_iff :
    e.ReachedBefore (n + 1) m ↔ e.ReachedBefore n m ∨ e.AtDistance n m := by
  rw [atDistance_iff]
  constructor
  · intro reached
    by_cases before : e.ReachedBefore n m
    · exact Or.inl before
    · exact Or.inr ⟨reached, before⟩
  · rintro (before | ⟨reached, -⟩)
    · exact before.mono (Nat.le_succ n)
    · exact reached

/-- What is reached before so many steps is at a smaller distance. -/
theorem reachedBefore_iff : e.ReachedBefore n m ↔ ∃ k < n, e.AtDistance k m := by
  induction n with
  | zero =>
    constructor
    · rintro ⟨path, short, -⟩
      exact absurd short (Nat.not_lt_zero _)
    · rintro ⟨k, less, -⟩
      exact absurd less (Nat.not_lt_zero _)
  | succ n ih =>
    rw [reachedBefore_succ_iff, ih]
    constructor
    · rintro (⟨k, less, here⟩ | here)
      · exact ⟨k, Nat.lt_succ_of_lt less, here⟩
      · exact ⟨n, Nat.lt_succ_self n, here⟩
    · rintro ⟨k, less, here⟩
      rcases Nat.lt_succ_iff_lt_or_eq.1 less with less | rfl
      · exact Or.inl ⟨k, less, here⟩
      · exact Or.inr here

/-- What is counted up to a distance and at it adds up. -/
theorem encard_reachedBefore_succ {α : Type} (marking : α → Marking) (holds : α → Prop) :
    {x | e.ReachedBefore (n + 1) (marking x) ∧ holds x}.encard =
      {x | e.ReachedBefore n (marking x) ∧ holds x}.encard +
        {x | e.AtDistance n (marking x) ∧ holds x}.encard := by
  rw [← Set.encard_union_eq]
  · congr 1
    ext x
    simp only [reachedBefore_succ_iff, Set.mem_ofPred_eq, Set.mem_union, or_and_right]
  · rw [Set.disjoint_left]
    rintro x ⟨before, -⟩ ⟨here, -⟩
    exact (atDistance_iff.1 here).2 before

end Execution

namespace Levels

open Execution

variable {e : Execution}

/-! ### The size of a level -/

namespace Level

variable {depth : Nat} {level : List Node} (here : Level e depth level)
include here

/-- The markings of a level are those at its depth. -/
theorem mem_markings_iff {m : Marking} : m ∈ level.map (·.marking) ↔ e.AtDistance depth m := by
  rw [List.mem_map]
  constructor
  · rintro ⟨node, member, rfl⟩
    rw [← here.length node member]
    exact (here.first node member).atDistance
  · intro distance
    obtain ⟨reached, notBefore⟩ := atDistance_iff.1 distance
    exact (here.complete m reached).resolve_left notBefore

/-- No marking stands in a level twice, since each node has the first path to its marking. -/
theorem nodup_markings : (level.map (·.marking)).Nodup := by
  rw [List.Nodup, List.pairwise_map]
  refine here.sorted.imp_of_mem fun {a b} memberA memberB less same => ?_
  have leads : e.Path e.marking a.path b.marking := same ▸ (here.first a memberA).leads
  have lengths : a.path.length = b.path.length :=
    (here.length a memberA).trans (here.length b memberB).symm
  exact ((here.first b memberB).least a.path leads).2 lengths less

theorem encard_eq : {m | e.AtDistance depth m}.encard = level.length := by
  have size := encard_of_nodup here.nodup_markings
  simp only [here.mem_markings_iff, List.length_map] at size
  exact size

end Level

/-- Whether a move is tried and refused. -/
def isRefused (e : Execution) (move : Node × Nat) : Bool :=
  e.net.enables move.1.marking move.2 && !(e.successor move.1.marking move.2).isOk

theorem isRefused_iff {move : Node × Nat} (inside : move.2 < e.net.transitions.length) :
    isRefused e move = true ↔ e.Refuses move.1.marking move.2 := by
  rw [isRefused, Refuses, Bool.and_eq_true]
  cases e.successor move.1.marking move.2 <;> simp [Except.isOk, Except.toBool, inside]

/-- The refused moves of a level are those at its depth. -/
theorem Level.encard_refused {depth : Nat} {level : List Node} (here : Level e depth level) :
    {move : Marking × Nat | e.AtDistance depth move.1 ∧ e.Refuses move.1 move.2}.encard =
      (moves e level).countP (isRefused e) := by
  -- the moves with their markings are pairs of a list of distinct markings and a range
  have pairs : (moves e level).map (fun move => (move.1.marking, move.2)) =
      level.map (·.marking) ×ˢ List.range e.net.transitions.length := by
    change _ = List.product _ _
    simp [moves, List.product, List.map_flatMap, List.flatMap_map, Function.comp_def]
  have distinct : (((moves e level).filter (isRefused e)).map
      fun move => (move.1.marking, move.2)).Nodup := by
    refine List.Nodup.sublist (List.filter_sublist.map _) ?_
    rw [pairs]
    exact here.nodup_markings.product List.nodup_range
  rw [List.countP_eq_length_filter, ← List.length_map (fun move => (move.1.marking, move.2)),
    ← encard_of_nodup distinct]
  congr 1
  ext ⟨m, t⟩
  simp only [Set.mem_ofPred_eq, List.mem_map, List.mem_filter, mem_moves, Prod.mk.injEq]
  constructor
  · rintro ⟨distance, refuses⟩
    obtain ⟨node, member, rfl⟩ := List.mem_map.1 (here.mem_markings_iff.2 distance)
    exact ⟨(node, t), ⟨⟨member, refuses.1⟩, (isRefused_iff refuses.1).2 refuses⟩, rfl, rfl⟩
  · rintro ⟨move, ⟨⟨member, inside⟩, refused⟩, rfl, rfl⟩
    exact ⟨here.mem_markings_iff.1 (List.mem_map_of_mem member), (isRefused_iff inside).1 refused⟩

/-! ### What one level adds -/

theorem follow_counts {goal : String} {node : Node} {p p' : Progress} {t : Nat}
    (followed : follow e goal node p t = .ok p') :
    p'.explored = p.explored ∧
      p'.refusals.length = p.refusals.length + if isRefused e (node, t) then 1 else 0 := by
  unfold follow at followed
  split at followed
  · rename_i enabled
    split at followed
    · rename_i refusal refused
      obtain rfl := Except.ok.inj followed
      simp [isRefused, enabled, refused, Except.isOk, Except.toBool]
    · rename_i m allowed
      have notRefused : isRefused e (node, t) = false := by
        simp [isRefused, allowed, Except.isOk, Except.toBool]
      rw [notRefused]
      dsimp only at followed
      split at followed
      · obtain rfl := Except.ok.inj followed
        exact ⟨rfl, rfl⟩
      · split at followed
        · cases followed
        · obtain rfl := Except.ok.inj followed
          exact ⟨rfl, rfl⟩
  · rename_i disabled
    obtain rfl := Except.ok.inj followed
    simp [isRefused, disabled]

theorem followAll_counts {goal : String} {node : Node} {ts : List Nat} {p p' : Progress}
    (followed : ts.foldlM (follow e goal node) p = .ok p') :
    p'.explored = p.explored ∧ p'.refusals.length = p.refusals.length +
      (ts.map fun t => (node, t)).countP (isRefused e) := by
  induction ts generalizing p with
  | nil =>
    obtain rfl := Except.ok.inj followed
    exact ⟨rfl, rfl⟩
  | cons t ts ih =>
    rw [List.foldlM_cons, bind_eq_ok] at followed
    obtain ⟨next, step, followed⟩ := followed
    obtain ⟨explored, refused⟩ := ih followed
    obtain ⟨explored', refused'⟩ := follow_counts step
    refine ⟨explored.trans explored', ?_⟩
    rw [refused, refused', List.map_cons, List.countP_cons]
    omega

/-- A level that is followed to its end adds its nodes and its refused moves. -/
theorem expandLevel_counts {goal : String} {level : List Node} {p p' : Progress}
    (all : level.foldlM (expand e goal) p = .ok p') :
    p'.explored = p.explored + level.length ∧
      p'.refusals.length = p.refusals.length + (moves e level).countP (isRefused e) := by
  induction level generalizing p with
  | nil =>
    obtain rfl := Except.ok.inj all
    exact ⟨rfl, rfl⟩
  | cons node level ih =>
    rw [List.foldlM_cons, bind_eq_ok] at all
    obtain ⟨middle, first, rest⟩ := all
    obtain ⟨explored, refused⟩ := ih rest
    obtain ⟨explored', refused'⟩ := followAll_counts first
    rw [moves, List.flatMap_cons, List.countP_append, ← moves, List.length_cons]
    dsimp only at explored' refused'
    omega

/-- The numbers kept are those of the markings before a depth and of the moves refused there. -/
structure Tally (e : Execution) (depth : Nat) (explored refused : Nat) : Prop where
  explored : {m | e.ReachedBefore depth m}.encard = explored
  refused : {move : Marking × Nat | e.ReachedBefore depth move.1 ∧
    e.Refuses move.1 move.2}.encard = refused

/-- The markings of a level are counted beside those before it. -/
theorem Tally.encard_succ {depth explored refused : Nat} (tally : Tally e depth explored refused)
    {level : List Node} (here : Level e depth level) :
    {m | e.ReachedBefore (depth + 1) m}.encard = (explored + level.length : Nat) := by
  have sum := encard_reachedBefore_succ (e := e) (n := depth) id fun _ => True
  simp only [id_eq, and_true] at sum
  rw [sum, tally.explored, here.encard_eq, Nat.cast_add]

theorem Tally.next {depth : Nat} {goal : String} {level : List Node} {p p' : Progress}
    (tally : Tally e depth p.explored p.refusals.length) (here : Level e depth level)
    (all : level.foldlM (expand e goal) p = .ok p') :
    Tally e (depth + 1) p'.explored p'.refusals.length := by
  obtain ⟨explored, refused⟩ := expandLevel_counts all
  rw [explored, refused]
  refine ⟨tally.encard_succ here, ?_⟩
  rw [encard_reachedBefore_succ Prod.fst fun move : Marking × Nat => e.Refuses move.1 move.2,
    tally.refused, here.encard_refused, Nat.cast_add]

/-! ### The whole search -/

theorem Level.reachedBefore_iff_of_nil {depth n : Nat} (here : Level e depth []) (le : depth ≤ n)
    {m : Marking} : e.ReachedBefore n m ↔ e.ReachedBefore depth m :=
  ⟨here.reachedBefore_of_nil, fun before => before.mono le⟩

/-- Nothing lies beyond a distance at which nothing is. -/
theorem reachedBefore_of_none {n k : Nat} (none : ¬∃ m, e.AtDistance n m) {m : Marking}
    (reached : e.ReachedBefore k m) : e.ReachedBefore n m := by
  have empty : Level e n [] := by
    refine ⟨by simp, by simp, by simp, fun m within => ?_⟩
    rcases reachedBefore_succ_iff.1 within with before | here
    · exact Or.inl before
    · exact absurd ⟨m, here⟩ none
  exact empty.reachedBefore_of_nil reached

/-- What a search without success reports of the markings within its limit. -/
structure Exhausts (e : Execution) (limit : Nat) (result : SearchResult) : Prop where
  explored : {m | e.ReachedBefore (limit + 1) m}.encard = result.explored
  rejected : {move : Marking × Nat | e.ReachedBefore limit move.1 ∧
    e.Refuses move.1 move.2}.encard = result.rejected
  truncated : result.truncated = true ↔ ∃ m, e.AtDistance limit m

section Exhausts

variable (formed : e.net.WellFormed) (sized : Marking.Over e.net e.marking)
  {target : Marking} (sizedTarget : Marking.Over e.net target)
include formed sized sizedTarget

/-- A run from a level that finds no path has counted all within the steps that are left. -/
theorem run_exhausts (steps : Nat) {depth : Nat} {level : List Node} {p : Progress}
    (here : Level e depth level) (start : Expanding e depth (target.key e.net) [] p)
    (tally : Tally e depth p.explored p.refusals.length)
    (failed : (run e (target.key e.net) steps level p).path = none) :
    Exhausts e (depth + steps) (run e (target.key e.net) steps level p) := by
  induction steps generalizing depth level p with
  | zero =>
    refine ⟨tally.encard_succ here, ?_, ?_⟩
    · rw [SearchResult.rejected, run, Progress.finish, List.length_reverse]
      exact tally.refused
    · simp only [Nat.add_zero, ← here.mem_markings_iff]
      cases level <;> simp [run, Progress.finish]
  | succ steps ih =>
    cases level with
    | nil =>
      -- the steps that are left lead nowhere new
      refine ⟨?_, ?_, ?_⟩
      · simp only [here.reachedBefore_iff_of_nil (n := depth + (steps + 1) + 1) (by omega)]
        exact tally.explored
      · simp only [here.reachedBefore_iff_of_nil (n := depth + (steps + 1)) (by omega)]
        rw [SearchResult.rejected, run, Progress.finish, List.length_reverse]
        exact tally.refused
      · refine ⟨fun isTrue => absurd isTrue Bool.false_ne_true, ?_⟩
        rintro ⟨m, distance⟩
        obtain ⟨reached, notBefore⟩ := atDistance_iff.1 distance
        exact absurd ((here.reachedBefore_of_nil reached).mono (by omega)) notBefore
    | cons node level =>
      obtain ⟨goes, stops⟩ := expandLevel_spec formed sized sizedTarget here start
      cases all : (node :: level).foldlM (expand e (target.key e.net)) p with
      | error result =>
        obtain ⟨path, found, -⟩ := stops result all
        simp only [run, all, found] at failed
        cases failed
      | ok p' =>
        simp only [run, all] at failed ⊢
        rw [show depth + (steps + 1) = depth + 1 + steps by omega]
        have done := goes p' all
        have counted := tally.next here all
        exact ih (here.next done) (here.expanding_next done) counted failed

/-- A search that finds no path has counted all within its steps. -/
theorem search_exhausts {maxSteps : Nat} (failed : (search e target maxSteps).path = none) :
    Exhausts e maxSteps (search e target maxSteps) := by
  unfold search at failed ⊢
  dsimp only at failed ⊢
  split at failed
  · cases failed
  · rename_i apart
    rw [if_neg apart]
    have start := expanding_start e fun same => apart (beq_iff_eq.2 same)
    have tally : Tally e 0 0 0 := by
      have none : ∀ m, ¬e.ReachedBefore 0 m := by
        rintro m ⟨path, short, -⟩
        exact absurd short (Nat.not_lt_zero _)
      constructor <;> simp [none]
    simpa using run_exhausts formed sized sizedTarget maxSteps (level_start e) start tally failed

end Exhausts

end Levels

namespace Execution

/-- A search that finds no path has looked at each marking within its steps once, and has been
refused once for each marking before the last step and each transition that is enabled there but
does not fire. It was cut off exactly if some marking is as far away as it may go, and otherwise no
path leads to the target at all. -/
theorem search_statistics {d : Document} {e : Execution} (valid : Net.ofDocument d = .ok e.net)
    (sized : Marking.Over e.net e.marking) {target : Marking}
    (sizedTarget : Marking.Over e.net target) {maxSteps : Nat}
    (failed : (e.search target maxSteps).path = none) :
    {m | ∃ n ≤ maxSteps, e.AtDistance n m}.encard = (e.search target maxSteps).explored ∧
    {move : Marking × Nat | (∃ n < maxSteps, e.AtDistance n move.1) ∧
      e.Refuses move.1 move.2}.encard = (e.search target maxSteps).rejected ∧
    ((e.search target maxSteps).truncated = true ↔ ∃ m, e.AtDistance maxSteps m) ∧
    ((e.search target maxSteps).truncated = false → ∀ path, ¬e.Path e.marking path target) := by
  have formed := Net.wellFormed_of_ofDocument valid
  rw [search_eq_levels] at failed ⊢
  have exhausts := Levels.search_exhausts formed sized sizedTarget failed
  refine ⟨?_, ?_, exhausts.truncated, fun notCut path leads => ?_⟩
  · simp only [← Nat.lt_succ_iff, ← reachedBefore_iff]
    exact exhausts.explored
  · simp only [← reachedBefore_iff]
    exact exhausts.rejected
  · have none : ¬∃ m, e.AtDistance maxSteps m := fun some => by
      rw [exhausts.truncated.2 some] at notCut
      cases notCut
    have reached : e.ReachedBefore maxSteps target :=
      Levels.reachedBefore_of_none none ⟨path, Nat.lt_succ_self _, leads⟩
    rcases Levels.search_spec formed sized sizedTarget maxSteps with
      ⟨length, -, found, isFound, -⟩ | ⟨-, absent⟩
    · rw [failed] at isFound
      cases isFound
    · exact absent (reached.mono (Nat.le_succ _))

/-- Two visitors, and a room for one of them. -/
def turnstile : Document where
  name := "turnstile"
  version := "1"
  places := [⟨"lobby", .token, .int 2, false, none⟩, ⟨"room", .token, .int 0, false, some 1⟩]
  transitions := [{ id := "enter", guard := none, rate := 1.0 },
    { id := "leave", guard := none, rate := 1.0 }]
  arcs := [⟨"lobby", "enter", [], none⟩, ⟨"enter", "room", [], none⟩, ⟨"room", "leave", [], none⟩,
    ⟨"leave", "lobby", [], none⟩]
  invariants := []

/-- Both visitors in the lobby. -/
def bothOut : Marking := [⟨2, none⟩, ⟨0, none⟩]

/-- One visitor in the room. -/
def oneIn : Marking := [⟨1, none⟩, ⟨1, none⟩]

section

variable {net : Net} (valid : Net.ofDocument turnstile = .ok net)
include valid

theorem turnstile_transition {t : Nat} (inside : t < net.transitions.length) :
    t = 0 ∨ t = 1 := by
  obtain rfl : _ = net := Except.ok.inj valid
  have two : t < 2 := inside
  omega

/-- Entering and leaving take turns. -/
theorem turnstile_step {m next : Marking} {t : Nat} (reached : m = bothOut ∨ m = oneIn)
    (step : (start net true).Step m t next) : next = bothOut ∨ next = oneIn := by
  obtain ⟨inside, allowed⟩ := step
  have entersOrLeaves := turnstile_transition valid inside
  obtain rfl : _ = net := Except.ok.inj valid
  rcases reached with rfl | rfl <;> rcases entersOrLeaves with rfl | rfl
  · exact Or.inr (Except.ok.inj allowed).symm
  · cases allowed
  · cases allowed
  · exact Or.inl (Except.ok.inj allowed).symm

theorem turnstile_path {m last : Marking} {path : List Nat} (reached : m = bothOut ∨ m = oneIn)
    (leads : (start net true).Path m path last) : last = bothOut ∨ last = oneIn := by
  induction leads with
  | nil => exact reached
  | cons step _ ih => exact ih (turnstile_step valid reached step)

theorem turnstile_atDistance : (start net true).AtDistance 0 bothOut ∧
    (start net true).AtDistance 1 oneIn := by
  obtain rfl : _ = net := Except.ok.inj valid
  refine ⟨⟨⟨[], .nil _, rfl⟩, fun n _ => Nat.zero_le n⟩,
    ⟨[0], .cons ⟨by decide, rfl⟩ (.nil _), rfl⟩, ?_⟩
  rintro length ⟨_ | ⟨t, path⟩, leads, rfl⟩
  · obtain ⟨⟩ := leads
  · exact Nat.succ_le_succ (Nat.zero_le _)

/-- Only entering is refused, when the room is taken. -/
theorem turnstile_refuses_iff {m : Marking} {t : Nat} (reached : m = bothOut ∨ m = oneIn) :
    (start net true).Refuses m t ↔ m = oneIn ∧ t = 0 := by
  have entersOrLeaves := @turnstile_transition net valid t
  obtain rfl : _ = net := Except.ok.inj valid
  constructor
  · rintro ⟨inside, enabled, refusal, refuses⟩
    rcases reached with rfl | rfl <;> rcases entersOrLeaves inside with rfl | rfl
    · cases refuses
    · cases enabled
    · exact ⟨rfl, rfl⟩
    · cases refuses
  · rintro ⟨rfl, rfl⟩
    exact ⟨by decide, rfl, _, rfl⟩

end

/-- The search for both visitors in the room looks at two markings, is refused once at the room
that is taken, and ends before its steps do. -/
theorem search_statistics_turnstile :
    let both : Marking := [⟨0, none⟩, ⟨2, none⟩]
    ∃ net, Net.ofDocument turnstile = .ok net ∧
      let e := start net true
      Marking.Over e.net e.marking ∧ Marking.Over e.net both ∧ (e.search both 5).path = none ∧
      (e.search both 5).explored = 2 ∧ (e.search both 5).rejected = 1 ∧
      (e.search both 5).truncated = false ∧ ∀ path, ¬e.Path e.marking path both := by
  intro both
  refine ⟨_, rfl, ?_⟩
  intro e
  have valid : Net.ofDocument turnstile = .ok e.net := rfl
  have sized : Marking.Over e.net e.marking := rfl
  have sizedBoth : Marking.Over e.net both := rfl
  have reached : ∀ {path m}, e.Path e.marking path m → m = bothOut ∨ m = oneIn := fun leads =>
    turnstile_path valid (Or.inl rfl) leads
  have failed : (e.search both 5).path = none := by
    rw [search_eq_levels]
    rcases Levels.search_spec (Net.wellFormed_of_ofDocument valid) sized sizedBoth 5 with
      ⟨length, -, path, -, -, first⟩ | ⟨notFound, -⟩
    · exact absurd (reached first.leads) (by decide)
    · exact notFound
  obtain ⟨distanceOut, distanceIn⟩ := turnstile_atDistance valid
  have markings : {m | ∃ n ≤ 5, e.AtDistance n m} = {bothOut, oneIn} := by
    ext m
    constructor
    · rintro ⟨n, -, ⟨path, leads, -⟩, -⟩
      exact reached leads
    · rintro (rfl | rfl)
      · exact ⟨0, by decide, distanceOut⟩
      · exact ⟨1, by decide, distanceIn⟩
  have refused : {move : Marking × Nat | (∃ n < 5, e.AtDistance n move.1) ∧
      e.Refuses move.1 move.2} = {(oneIn, 0)} := by
    ext ⟨m, t⟩
    constructor
    · rintro ⟨⟨n, -, ⟨path, leads, -⟩, -⟩, refuses⟩
      obtain ⟨rfl, rfl⟩ := (turnstile_refuses_iff valid (reached leads)).1 refuses
      rfl
    · rintro ⟨⟩
      exact ⟨⟨1, by decide, distanceIn⟩, (turnstile_refuses_iff valid (Or.inr rfl)).2 ⟨rfl, rfl⟩⟩
  obtain ⟨explored, rejected, truncated, beyond⟩ := search_statistics valid sized sizedBoth failed
  rw [markings, Set.encard_pair (by decide)] at explored
  rw [refused, Set.encard_singleton] at rejected
  have notCut : (e.search both 5).truncated = false := by
    rw [← Bool.not_eq_true, truncated]
    rintro ⟨m, distance⟩
    obtain ⟨path, leads, -⟩ := distance.1
    rcases reached leads with rfl | rfl
    · exact absurd (distance.unique distanceOut) (by decide)
    · exact absurd (distance.unique distanceIn) (by decide)
  exact ⟨sized, sizedBoth, failed, by exact_mod_cast explored.symm,
    by exact_mod_cast rejected.symm, notCut, beyond notCut⟩

end Execution

end GuardedNet
