import Mathlib.Data.List.Nodup
import Mathlib.Logic.Relation
import GuardedNet.Structure.Partition

/-!
# Parts and connections

What is asked of a labelling is that two numbers have one label exactly if joins connect them
(`Labelling.IsExact`). Which labels the numbers have, and in which order the joins were made, is
then lost in the groups: those of at least two linked numbers are the components of the links
(`mem_components_iff`). Joining parts by rank is such a labelling (`Partition.isExact_labelling`).
-/

namespace GuardedNet

/-- Joins connect the numbers. -/
def Joined (joins : List (Nat × Nat)) : Nat → Nat → Prop :=
  Relation.EqvGen fun a b => (a, b) ∈ joins

/-- The labelling has a label for each number, and two numbers have the same exactly if they are
connected by joins. -/
structure Labelling.IsExact (labelling : Labelling) : Prop where
  length : ∀ {size : Nat} {joins : List (Nat × Nat)},
    (∀ pair ∈ joins, pair.1 < size ∧ pair.2 < size) → (labelling size joins).length = size
  same_iff : ∀ {size : Nat} {joins : List (Nat × Nat)},
    (∀ pair ∈ joins, pair.1 < size ∧ pair.2 < size) → ∀ {a b : Nat}, a < size → b < size →
      ((labelling size joins)[a]? = (labelling size joins)[b]? ↔ Joined joins a b)

/-- Some list contains both numbers. -/
def Linked (links : List (List Nat)) (a b : Nat) : Prop := ∃ link ∈ links, a ∈ link ∧ b ∈ link

/-- A chain of lists leads from one number to the other. -/
def Connected (links : List (List Nat)) : Nat → Nat → Prop := Relation.EqvGen (Linked links)

/-! ### Neighbours -/

theorem mem_of_mem_neighbours {numbers : List Nat} {pair : Nat × Nat}
    (member : pair ∈ neighbours numbers) : pair.1 ∈ numbers ∧ pair.2 ∈ numbers := by
  obtain ⟨first, second⟩ := List.of_mem_zip member
  exact ⟨first, List.mem_of_mem_tail second⟩

/-- Joining neighbours connects the first number of a list with all others. -/
theorem joined_neighbours (a : Nat) (rest : List Nat) :
    ∀ n ∈ a :: rest, Joined (neighbours (a :: rest)) a n := by
  induction rest generalizing a with
  | nil =>
    intro n member
    rw [List.mem_singleton.1 member]
    exact .refl a
  | cons b rest ih =>
    intro n member
    have first : Joined (neighbours (a :: b :: rest)) a b := .rel a b (List.mem_cons_self ..)
    rcases List.mem_cons.1 member with rfl | later
    · exact .refl n
    · exact .trans a b n first ((ih b n later).mono fun _ _ => List.mem_cons_of_mem _)

/-- Joining the neighbours in each list connects what the lists connect. -/
theorem joined_flatMap_iff {links : List (List Nat)} {a b : Nat} :
    Joined (links.flatMap neighbours) a b ↔ Connected links a b := by
  constructor
  · refine fun joined => joined.mono fun m n member => ?_
    obtain ⟨link, isLink, here⟩ := List.mem_flatMap.1 member
    exact ⟨link, isLink, mem_of_mem_neighbours here⟩
  · intro connected
    induction connected with
    | rel m n linked =>
      obtain ⟨link, isLink, mIn, nIn⟩ := linked
      have among : ∀ {m n}, Joined (neighbours link) m n →
          Joined (links.flatMap neighbours) m n := fun joined =>
        joined.mono fun _ _ member => List.mem_flatMap.2 ⟨link, isLink, member⟩
      cases link with
      | nil => cases mIn
      | cons k rest =>
        have toM := among (joined_neighbours k rest m mIn)
        have toN := among (joined_neighbours k rest n nIn)
        exact .trans m k n (.symm k m toM) toN
    | refl m => exact .refl m
    | symm m n _ ih => exact .symm m n ih
    | trans m k n _ _ first second => exact .trans m k n first second

/-! ### Joining by rank -/

namespace Partition

variable {p : Partition} {size a b m n : Nat}

theorem label_discrete (size n : Nat) : (discrete size).label n = n := by
  by_cases inside : n < size <;> simp [discrete, label, inside]

theorem getElem?_labels (length : p.labels.length = size) (inside : n < size) :
    p.labels[n]? = some (p.label n) := by
  rw [label, List.getElem?_eq_getElem (length ▸ inside)]
  rfl

theorem label_relabel (length : p.labels.length = size) (kept lost : Nat) (inside : n < size) :
    (p.relabel kept lost).label n = if p.label n = lost then kept else p.label n := by
  have here : n < p.labels.length := length ▸ inside
  simp [relabel, label, here]

/-- A join replaces one of two labels by the other. -/
theorem join_cases (length : p.labels.length = size) (a b : Nat) :
    (p.label a = p.label b ∧ p.join a b = p) ∨
      ∃ kept lost, (kept = p.label a ∧ lost = p.label b ∨ kept = p.label b ∧ lost = p.label a) ∧
        (p.join a b).labels.length = size ∧
        ∀ n < size, (p.join a b).label n = if p.label n = lost then kept else p.label n := by
  unfold join
  dsimp only
  split
  · rename_i same
    exact Or.inl ⟨same, rfl⟩
  right
  split
  · exact ⟨_, _, Or.inr ⟨rfl, rfl⟩, by simp [relabel, length],
      fun n inside => label_relabel length _ _ inside⟩
  split
  · exact ⟨_, _, Or.inl ⟨rfl, rfl⟩, by simp [relabel, length],
      fun n inside => label_relabel length _ _ inside⟩
  · exact ⟨_, _, Or.inl ⟨rfl, rfl⟩, by simp [relabel, length],
      fun n inside => label_relabel length _ _ inside⟩

theorem length_labels_join (length : p.labels.length = size) (a b : Nat) :
    (p.join a b).labels.length = size := by
  rcases join_cases length a b with ⟨-, same⟩ | ⟨_, _, -, joined, -⟩
  · rw [same]
    exact length
  · exact joined

/-- After a join two numbers share a label if they did before, or if both were in one of the two
parts. -/
theorem label_join_iff (length : p.labels.length = size) (mInside : m < size) (nInside : n < size) :
    (p.join a b).label m = (p.join a b).label n ↔
      p.label m = p.label n ∨ (p.label m = p.label a ∨ p.label m = p.label b) ∧
        (p.label n = p.label a ∨ p.label n = p.label b) := by
  rcases join_cases length a b with ⟨joined, same⟩ | ⟨kept, lost, labels, -, label⟩
  · rw [same]
    omega
  · rw [label m mInside, label n nInside]
    split <;> split <;> omega

/-- The second partition joins parts of the first, and only related numbers share a part. -/
structure Coarsens (p q : Partition) (size : Nat) (related : Nat → Nat → Prop) : Prop where
  length : q.labels.length = size
  keeps : ∀ m n, m < size → n < size → p.label m = p.label n → q.label m = q.label n
  sound : ∀ m n, m < size → n < size → q.label m = q.label n → related m n

variable {related : Nat → Nat → Prop}

theorem Coarsens.refl {q : Partition} (coarsens : p.Coarsens q size related) :
    q.Coarsens q size related :=
  ⟨coarsens.length, fun _ _ _ _ same => same, coarsens.sound⟩

section

variable (equivalence : Equivalence related)
include equivalence

/-- One join of related numbers. -/
theorem Coarsens.join {q : Partition} (coarsens : p.Coarsens q size related) (aInside : a < size)
    (bInside : b < size) (joined : related a b) : p.Coarsens (q.join a b) size related := by
  refine ⟨length_labels_join coarsens.length a b, fun m n mInside nInside same => ?_,
    fun m n mInside nInside same => ?_⟩
  · rw [label_join_iff coarsens.length mInside nInside]
    exact Or.inl (coarsens.keeps m n mInside nInside same)
  · -- whoever has the label of one of the two is related to both
    have toA : ∀ k < size, q.label k = q.label a ∨ q.label k = q.label b → related k a := by
      intro k inside label
      rcases label with label | label
      · exact coarsens.sound k a inside aInside label
      · exact equivalence.trans (coarsens.sound k b inside bInside label) (equivalence.symm joined)
    rw [label_join_iff coarsens.length mInside nInside] at same
    rcases same with same | ⟨mLabel, nLabel⟩
    · exact coarsens.sound m n mInside nInside same
    · exact equivalence.trans (toA m mInside mLabel) (equivalence.symm (toA n nInside nLabel))

end

/-- After joins only related numbers share a label, and the two numbers of a pair do. -/
theorem foldl_join_spec {joins : List (Nat × Nat)}
    (inside : ∀ pair ∈ joins, pair.1 < size ∧ pair.2 < size) (equivalence : Equivalence related)
    (joined : ∀ pair ∈ joins, related pair.1 pair.2) {q : Partition}
    (coarsens : p.Coarsens q size related) :
    let final := joins.foldl (fun p pair => p.join pair.1 pair.2) q
    p.Coarsens final size related ∧ ∀ pair ∈ joins, final.label pair.1 = final.label pair.2 := by
  induction joins generalizing p q with
  | nil => exact ⟨coarsens, by simp⟩
  | cons pair joins ih =>
    have here : pair ∈ pair :: joins := List.mem_cons_self ..
    obtain ⟨firstInside, secondInside⟩ := inside pair here
    have step := coarsens.join equivalence firstInside secondInside (joined pair here)
    have restInside : ∀ other ∈ joins, other.1 < size ∧ other.2 < size := fun other member =>
      inside other (List.mem_cons_of_mem _ member)
    have restJoined : ∀ other ∈ joins, related other.1 other.2 := fun other member =>
      joined other (List.mem_cons_of_mem _ member)
    obtain ⟨whole, labels⟩ := ih restInside restJoined step
    obtain ⟨onwards, -⟩ := ih restInside restJoined step.refl
    refine ⟨whole, fun other member => ?_⟩
    rcases List.mem_cons.1 member with rfl | later
    · -- the join gives both one label, and later joins keep that
      refine onwards.keeps _ _ firstInside secondInside ?_
      rw [label_join_iff coarsens.length firstInside secondInside]
      exact Or.inr ⟨Or.inl rfl, Or.inr rfl⟩
    · exact labels other later

/-- Parts joined by rank have the labels that are asked for. -/
theorem isExact_labelling : labelling.IsExact := by
  have spec : ∀ {size : Nat} {joins : List (Nat × Nat)},
      (∀ pair ∈ joins, pair.1 < size ∧ pair.2 < size) →
      let final := joins.foldl (fun p pair => p.join pair.1 pair.2) (discrete size)
      (discrete size).Coarsens final size (Joined joins) ∧
        ∀ pair ∈ joins, final.label pair.1 = final.label pair.2 := by
    intro size joins inside
    have equivalence : Equivalence (Joined joins) := Relation.EqvGen.is_equivalence _
    refine foldl_join_spec inside equivalence (fun pair member => .rel _ _ member) ?_
    refine ⟨List.length_range, fun _ _ _ _ same => same, fun m n _ _ same => ?_⟩
    rw [label_discrete, label_discrete] at same
    rw [same]
    exact equivalence.refl n
  constructor
  · intro size joins inside
    exact (spec inside).1.length
  · intro size joins inside a b aInside bInside
    obtain ⟨coarsens, labels⟩ := spec inside
    rw [labelling, getElem?_labels coarsens.length aInside,
      getElem?_labels coarsens.length bInside, Option.some.injEq]
    refine ⟨coarsens.sound a b aInside bInside, fun joined => ?_⟩
    clear aInside bInside
    induction joined with
    | rel m n member => exact labels (m, n) member
    | refl m => rfl
    | symm m n _ ih => exact ih.symm
    | trans m k n _ _ first second => exact first.trans second

end Partition

/-! ### Groups -/

theorem mem_insertOrdered {m n : Nat} {numbers : List Nat} :
    m ∈ insertOrdered n numbers ↔ m = n ∨ m ∈ numbers := by
  induction numbers with
  | nil => simp [insertOrdered]
  | cons k rest ih =>
    unfold insertOrdered
    split
    · exact List.mem_cons
    split
    · rename_i same
      simp [same]
    · rw [List.mem_cons, ih, List.mem_cons]
      exact or_left_comm

theorem pairwise_insertOrdered {n : Nat} {numbers : List Nat} (ordered : numbers.Pairwise (· < ·)) :
    (insertOrdered n numbers).Pairwise (· < ·) := by
  induction numbers with
  | nil => exact List.pairwise_singleton ..
  | cons k rest ih =>
    obtain ⟨least, later⟩ := List.pairwise_cons.1 ordered
    unfold insertOrdered
    split
    · rename_i less
      refine List.pairwise_cons.2 ⟨fun m member => ?_, ordered⟩
      rcases List.mem_cons.1 member with rfl | member
      · exact less
      · exact Nat.lt_trans less (least m member)
    split
    · exact ordered
    · refine List.pairwise_cons.2 ⟨fun m member => ?_, ih later⟩
      rcases mem_insertOrdered.1 member with rfl | member
      · omega
      · exact least m member

/-- The labels that occur stand in order, each once. -/
theorem occurring_spec (labels : List Nat) :
    (∀ l, l ∈ labels.foldr insertOrdered [] ↔ l ∈ labels) ∧
      (labels.foldr insertOrdered []).Pairwise (· < ·) := by
  induction labels with
  | nil => simp
  | cons k labels ih =>
    obtain ⟨members, ordered⟩ := ih
    refine ⟨fun l => ?_, pairwise_insertOrdered ordered⟩
    rw [List.foldr_cons, mem_insertOrdered, members, List.mem_cons]

section Grouped

variable {labels : List Nat} {test : Nat → Bool}

/-- The group of a number: those that pass the test and have its label. -/
def groupOf (labels : List Nat) (test : Nat → Bool) (m : Nat) : List Nat :=
  ((List.range labels.length).filter test).filter fun n => labels[n]? == labels[m]?

theorem mem_groupOf {m n : Nat} :
    n ∈ groupOf labels test m ↔
      n < labels.length ∧ test n = true ∧ labels[n]? = labels[m]? := by
  simp only [groupOf, List.mem_filter, List.mem_range, beq_iff_eq, and_assoc]

theorem pairwise_groupOf (m : Nat) : (groupOf labels test m).Pairwise (· < ·) :=
  (List.pairwise_lt_range.filter _).filter _

/-- The groups are those of the numbers that pass the test. -/
theorem mem_grouped {numbers : List Nat} :
    numbers ∈ grouped labels test ↔
      ∃ m < labels.length, test m = true ∧ numbers = groupOf labels test m := by
  simp only [grouped, List.mem_map, (occurring_spec _).1, List.mem_filterMap, List.mem_filter,
    List.mem_range]
  constructor
  · rintro ⟨l, ⟨m, ⟨inside, passes⟩, label⟩, rfl⟩
    exact ⟨m, inside, passes, by rw [groupOf, label]⟩
  · rintro ⟨m, inside, passes, rfl⟩
    have label := List.getElem?_eq_getElem inside
    exact ⟨_, ⟨m, ⟨inside, passes⟩, label⟩, by rw [groupOf, label]⟩

theorem nodup_grouped : (grouped labels test).Nodup := by
  have occurs := occurring_spec (((List.range labels.length).filter test).filterMap (labels[·]?))
  refine List.Nodup.map_on (fun l lIn l' _ same => ?_) (occurs.2.imp Nat.ne_of_lt)
  -- a number with the label is in its group, and so in the other
  obtain ⟨m, member, label⟩ := List.mem_filterMap.1 ((occurs.1 l).1 lIn)
  have here : m ∈ ((List.range labels.length).filter test).filter fun n => labels[n]? == some l :=
    List.mem_filter.2 ⟨member, beq_iff_eq.2 label⟩
  rw [same, List.mem_filter, beq_iff_eq, label] at here
  exact Option.some.inj here.2

end Grouped

/-! ### Components -/

/-- At least two numbers in order that are connected with one another and with no other. -/
structure IsComponent (links : List (List Nat)) (numbers : List Nat) : Prop where
  ordered : numbers.Pairwise (· < ·)
  two : 2 ≤ numbers.length
  closed : ∀ m ∈ numbers, ∀ n, n ∈ numbers ↔ Connected links m n

/-- The groups of at least two linked numbers, in the order of their labels. -/
def components (labelling : Labelling) (size : Nat) (links : List (List Nat)) : List (List Nat) :=
  (grouped (labelling size (links.flatMap neighbours)) links.flatten.contains).filter
    fun numbers => 2 ≤ numbers.length

variable {labelling : Labelling} {size : Nat} {links : List (List Nat)}

/-- Numbers that are connected with others are linked. -/
theorem Connected.eq_or_mem {m n : Nat} (connected : Connected links m n) :
    m = n ∨ m ∈ links.flatten ∧ n ∈ links.flatten := by
  induction connected with
  | rel m n linked =>
    obtain ⟨link, member, mIn, nIn⟩ := linked
    exact Or.inr ⟨List.mem_flatten.2 ⟨link, member, mIn⟩, List.mem_flatten.2 ⟨link, member, nIn⟩⟩
  | refl m => exact Or.inl rfl
  | symm m n _ ih => exact ih.imp Eq.symm And.symm
  | trans m k n _ _ first second =>
    rcases first with rfl | ⟨mIn, kIn⟩
    · exact second
    · rcases second with rfl | ⟨-, nIn⟩
      · exact Or.inr ⟨mIn, kIn⟩
      · exact Or.inr ⟨mIn, nIn⟩

/-- Numbers in order are known by their members. -/
theorem eq_of_pairwise_lt {xs ys : List Nat} (ordered : xs.Pairwise (· < ·))
    (ordered' : ys.Pairwise (· < ·)) (same : ∀ n, n ∈ xs ↔ n ∈ ys) : xs = ys := by
  have perm : xs.Perm ys := (List.perm_ext_iff_of_nodup (ordered.imp Nat.ne_of_lt)
    (ordered'.imp Nat.ne_of_lt)).2 same
  exact perm.eq_of_pairwise (fun m n _ _ less more => absurd less (Nat.lt_asymm more)) ordered
    ordered'

namespace IsComponent

variable {numbers : List Nat} (component : IsComponent links numbers)
include component

theorem exists_other (m : Nat) : ∃ n ∈ numbers, m ≠ n := by
  obtain ⟨ordered, two, -⟩ := component
  match numbers, ordered, two with
  | a :: b :: rest, ordered, _ =>
    have less : a < b := (List.pairwise_cons.1 ordered).1 b (List.mem_cons_self ..)
    by_cases same : m = a
    · exact ⟨b, by simp, by omega⟩
    · exact ⟨a, by simp, same⟩

theorem mem_flatten {m : Nat} (member : m ∈ numbers) : m ∈ links.flatten := by
  obtain ⟨n, other, differ⟩ := component.exists_other m
  exact (((component.closed m member n).1 other).eq_or_mem.resolve_left differ).1

end IsComponent

section

variable (isExact : labelling.IsExact) (inside : ∀ link ∈ links, ∀ n ∈ link, n < size)

include inside in
theorem lt_of_mem_flatten {n : Nat} (member : n ∈ links.flatten) : n < size := by
  obtain ⟨link, isLink, here⟩ := List.mem_flatten.1 member
  exact inside link isLink n here

include inside in
theorem neighbours_inside : ∀ pair ∈ links.flatMap neighbours, pair.1 < size ∧ pair.2 < size := by
  intro pair member
  obtain ⟨link, isLink, here⟩ := List.mem_flatMap.1 member
  obtain ⟨first, second⟩ := mem_of_mem_neighbours here
  exact ⟨inside link isLink _ first, inside link isLink _ second⟩

include isExact inside

/-- The group of a linked number is the linked numbers connected with it. -/
theorem mem_groupOf_iff {m : Nat} (linked : m ∈ links.flatten) (n : Nat) :
    n ∈ groupOf (labelling size (links.flatMap neighbours)) links.flatten.contains m ↔
      Connected links m n := by
  have pairs := neighbours_inside inside
  have mInside := lt_of_mem_flatten inside linked
  rw [mem_groupOf, isExact.length pairs, List.contains_iff_mem, eq_comm]
  constructor
  · rintro ⟨nInside, -, same⟩
    exact joined_flatMap_iff.1 ((isExact.same_iff pairs mInside nInside).1 same)
  · intro connected
    have nLinked : n ∈ links.flatten := by
      rcases connected.eq_or_mem with rfl | ⟨-, member⟩
      · exact linked
      · exact member
    have nInside := lt_of_mem_flatten inside nLinked
    exact ⟨nInside, nLinked,
      (isExact.same_iff pairs mInside nInside).2 (joined_flatMap_iff.2 connected)⟩

/-- The groups are the components, whatever labels they have. -/
theorem mem_components_iff {numbers : List Nat} :
    numbers ∈ components labelling size links ↔ IsComponent links numbers := by
  rw [components, List.mem_filter, mem_grouped, decide_eq_true_eq,
    isExact.length (neighbours_inside inside)]
  constructor
  · rintro ⟨⟨m, -, passes, rfl⟩, two⟩
    rw [List.contains_iff_mem] at passes
    have equivalence : Equivalence (Connected links) := Relation.EqvGen.is_equivalence _
    refine ⟨pairwise_groupOf m, two, fun k kIn n => ?_⟩
    rw [mem_groupOf_iff isExact inside passes] at kIn ⊢
    exact ⟨equivalence.trans (equivalence.symm kIn), equivalence.trans kIn⟩
  · intro component
    obtain ⟨m, member, -⟩ := component.exists_other size
    have linked := component.mem_flatten member
    refine ⟨⟨m, lt_of_mem_flatten inside linked, List.contains_iff_mem.2 linked, ?_⟩,
      component.two⟩
    refine eq_of_pairwise_lt component.ordered (pairwise_groupOf m) fun n => ?_
    rw [mem_groupOf_iff isExact inside linked, component.closed m member]

end

/-- No component is listed twice. -/
theorem nodup_components : (components labelling size links).Nodup := nodup_grouped.filter _

/-- Lists that link the same numbers have the same components. -/
theorem components_perm {links' : List (List Nat)} (isExact : labelling.IsExact)
    (inside : ∀ link ∈ links, ∀ n ∈ link, n < size)
    (inside' : ∀ link ∈ links', ∀ n ∈ link, n < size)
    (same : ∀ m n, Linked links m n ↔ Linked links' m n) :
    (components labelling size links).Perm (components labelling size links') := by
  have connected : Connected links = Connected links' := by
    have linked : Linked links = Linked links' := by
      funext m n
      exact propext (same m n)
    rw [Connected, linked, Connected]
  refine (List.perm_ext_iff_of_nodup nodup_components nodup_components).2 fun numbers => ?_
  rw [mem_components_iff isExact inside, mem_components_iff isExact inside']
  constructor
  · exact fun component => ⟨component.ordered, component.two, connected ▸ component.closed⟩
  · exact fun component => ⟨component.ordered, component.two, connected ▸ component.closed⟩

end GuardedNet
