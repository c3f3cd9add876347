import Mathlib.Data.Nat.Basic
import Mathlib.Order.Monotone.Basic
import GuardedNet.Proofs.Outcome
import GuardedNet.Proofs.Sensitivity.Orphans

/-!
# Sampled arcs

A sample takes positions of arcs in steps that are as even as whole numbers allow. With or without
a cap it has one form: `size` positions out of `total`, the `i`th of them at `i * total / size`
(`sampledArcs_eq`). Main statement: `sampledArcs_exact`, which ends with the deletions of arcs that
a report grades.
-/

namespace GuardedNet

/-! ### Even steps -/

/-- From one position to the next it is the quotient, or one more. -/
theorem even_step {size : Nat} (pos : 0 < size) (total i : Nat) :
    i * total / size + total / size ≤ (i + 1) * total / size ∧
      (i + 1) * total / size ≤ i * total / size + total / size + 1 := by
  rw [Nat.add_one_mul, Nat.add_div pos]
  split <;> omega

/-- No two of at most `total` positions fall together. -/
theorem even_strictMono {total size : Nat} (pos : 0 < size) (enough : size ≤ total) :
    StrictMono fun i => i * total / size := by
  have quotient := Nat.div_pos enough pos
  refine strictMono_nat_of_lt_succ fun i => ?_
  have step := (even_step pos total i).1
  omega

theorem even_lt {total size i : Nat} (inside : i < size) (enough : size ≤ total) :
    i * total / size < total := by
  apply Nat.div_lt_of_lt_mul
  exact Nat.mul_lt_mul_of_pos_right inside (by omega)

/-! ### Samples -/

/-- How many of the arcs are sampled. -/
def sampleSize (total : Nat) (cap : Option Nat) : Nat := cap.elim total (min · total)

theorem sampleSize_le (total : Nat) (cap : Option Nat) : sampleSize total cap ≤ total := by
  cases cap with
  | none => exact Nat.le_refl total
  | some cap => exact Nat.min_le_right cap total

/-- All positions are an even sample too. -/
theorem range_eq_map (total : Nat) :
    List.range total = (List.range total).map fun i => i * total / total := by
  have same : ∀ i ∈ List.range total, i * total / total = i := by
    intro i member
    exact Nat.mul_div_cancel i (Nat.zero_lt_of_lt (List.mem_range.1 member))
  calc List.range total = (List.range total).map id := (List.map_id _).symm
    _ = (List.range total).map fun i => i * total / total :=
      List.map_congr_left fun i member => (same i member).symm

/-- A sample has one form, whether there is a cap or not. -/
theorem sampledArcs_eq (total : Nat) (cap : Option Nat) :
    sampledArcs total cap =
      (List.range (sampleSize total cap)).map fun i => i * total / sampleSize total cap := by
  cases cap with
  | none => exact range_eq_map total
  | some cap =>
    unfold sampledArcs sampleSize
    dsimp only [Option.elim]
    split
    · rename_i less
      rw [Nat.min_eq_left (Nat.le_of_lt less)]
    · rename_i notLess
      rw [Nat.min_eq_right (Nat.le_of_not_lt notLess)]
      exact range_eq_map total

section

variable (total : Nat) (cap : Option Nat)

theorem length_sampledArcs : (sampledArcs total cap).length = sampleSize total cap := by
  rw [sampledArcs_eq, List.length_map, List.length_range]

theorem pairwise_sampledArcs : (sampledArcs total cap).Pairwise (· < ·) := by
  rw [sampledArcs_eq, List.pairwise_map]
  refine List.pairwise_lt_range.imp_of_mem fun {i j} member _ less => ?_
  have pos := Nat.zero_lt_of_lt (List.mem_range.1 member)
  exact even_strictMono pos (sampleSize_le total cap) less

variable {total cap}

theorem lt_of_mem_sampledArcs {index : Nat} (member : index ∈ sampledArcs total cap) :
    index < total := by
  rw [sampledArcs_eq] at member
  obtain ⟨i, inside, rfl⟩ := List.mem_map.1 member
  exact even_lt (List.mem_range.1 inside) (sampleSize_le total cap)

theorem getElem?_sampledArcs {k index : Nat} (here : (sampledArcs total cap)[k]? = some index) :
    k < sampleSize total cap ∧ index = k * total / sampleSize total cap := by
  rw [sampledArcs_eq, List.getElem?_map] at here
  obtain ⟨i, found, rfl⟩ := Option.map_eq_some_iff.1 here
  obtain ⟨inside, rfl⟩ := List.getElem?_eq_some_iff.1 found
  rw [List.getElem_range]
  exact ⟨by simpa using inside, rfl⟩

/-- A gap between neighbours is no longer than any other, but for one. -/
theorem gap_le_gap {j k a a' b b' : Nat} (atJ : (sampledArcs total cap)[j]? = some a)
    (nextJ : (sampledArcs total cap)[j + 1]? = some a')
    (atK : (sampledArcs total cap)[k]? = some b)
    (nextK : (sampledArcs total cap)[k + 1]? = some b') : a' - a ≤ b' - b + 1 := by
  obtain ⟨inside, rfl⟩ := getElem?_sampledArcs atJ
  obtain ⟨-, rfl⟩ := getElem?_sampledArcs nextJ
  obtain ⟨-, rfl⟩ := getElem?_sampledArcs atK
  obtain ⟨-, rfl⟩ := getElem?_sampledArcs nextK
  have pos := Nat.zero_lt_of_lt inside
  have longest := (even_step pos total j).2
  have shortest := (even_step pos total k).1
  omega

end

/-! ### Sizes of 64 bits -/

/-- The product of two sizes, if it is a size. -/
def Number.times? (m n : Nat) : Option Nat := if m * n < sizeLimit then some (m * n) else none

/-- The sample, if every product on the way is a size. -/
def sampledArcs? (total : Nat) : Option Nat → Option (List Nat)
  | some cap =>
    if cap < total then
      (List.range cap).mapM fun i => (Number.times? i total).map (· / cap)
    else some (List.range total)
  | none => some (List.range total)

/-- A sample needs no products beyond the one of its cap and the number of arcs. -/
theorem sampledArcs?_eq {total : Nat} {cap : Option Nat}
    (fits : ∀ c, cap = some c → c * total < Number.sizeLimit) :
    sampledArcs? total cap = some (sampledArcs total cap) := by
  cases cap with
  | none => rfl
  | some cap =>
    unfold sampledArcs? sampledArcs
    dsimp only
    split
    · apply mapM_eq_some_map
      intro i member
      have below : i * total ≤ cap * total :=
        Nat.mul_le_mul_right total (Nat.le_of_lt (List.mem_range.1 member))
      rw [Number.times?, if_pos (Nat.lt_of_le_of_lt below (fits cap rfl)), Option.map_some]
    · rfl

/-! ### Deletions of arcs -/

/-- An impact has the kind of the deletion. -/
theorem ElementImpact.kind_ofDeletion {solver : Solver} {settings : Settings} {intact : Net}
    {baseline : Trajectory} {deletion : Deletion} {graded : ElementImpact}
    (done : ofDeletion solver settings intact baseline deletion = .ok graded) :
    graded.kind = deletion.kind := by
  rcases ofDeletion_eq_ok done with ⟨impact, reason, rfl⟩ | ⟨changed, impact, -, rfl⟩
  · rfl
  · unfold ofValue
    split
    · split <;> rfl
    · rfl

/-- The grades of one kind are those of the deletions of that kind, in their order. -/
theorem DeletionReport.filter_kind {solver : Solver} {settings : Settings} {intact : Net}
    {baseline : Trajectory} (kind : ElementKind) {deletions : List Deletion}
    {elements : List ElementImpact}
    (graded : deletions.mapM (ElementImpact.ofDeletion solver settings intact baseline) =
      .ok elements) :
    (elements.filter (·.kind == kind)).map .ok = (deletions.filter (·.kind == kind)).map
      (ElementImpact.ofDeletion solver settings intact baseline) := by
  induction deletions generalizing elements with
  | nil =>
    cases graded
    rfl
  | cons deletion deletions ih =>
    rw [List.mapM_cons] at graded
    obtain ⟨element, done, others⟩ := bind_eq_ok.1 graded
    obtain ⟨elements, rest, same⟩ := bind_eq_ok.1 others
    cases same
    rw [List.filter_cons, List.filter_cons, ElementImpact.kind_ofDeletion done]
    split
    · rw [List.map_cons, List.map_cons, done, ih rest]
    · exact ih rest

namespace Net

/-- The deletion of the arc at a position. -/
def arcDeletion (net : Net) (index : Nat) : Deletion :=
  ⟨.arc, (net.arcs[index]?.map Arc.label).getD "", net.withoutArc index⟩

theorem filter_deletions (net : Net) (maxArcs : Option Nat) :
    (net.deletions maxArcs).filter (·.kind == .arc) =
      (sampledArcs net.arcs.length maxArcs).map net.arcDeletion := by
  have places : (net.places.map fun place =>
      (⟨.place, place.id, net.withoutPlace place.id⟩ : Deletion)).filter (·.kind == .arc) = [] := by
    simp [List.filter_eq_nil_iff]
  have transitions : (net.transitions.map fun transition => (⟨.transition, transition.id,
      net.withoutTransition transition.id⟩ : Deletion)).filter (·.kind == .arc) = [] := by
    simp [List.filter_eq_nil_iff]
  have arcs : ((sampledArcs net.arcs.length maxArcs).map net.arcDeletion).filter (·.kind == .arc) =
      (sampledArcs net.arcs.length maxArcs).map net.arcDeletion := by
    simp [List.filter_eq_self, arcDeletion]
  rw [deletions, List.filter_append, List.filter_append, places, transitions]
  exact arcs

/-- The net without an arc that is there has all the other arcs. -/
theorem withoutArc_eq_ok {d : Document} {net : Net} (valid : ofDocument d = .ok net) {index : Nat}
    (inside : index < net.arcs.length) :
    ∃ next, net.withoutArc index = .ok next ∧ next.arcs = net.arcs.eraseIdx index := by
  obtain rfl := document_of_ofDocument valid
  have applies : (Change.removeArc index).Applies net.document := inside
  obtain ⟨next, removed, revalidated⟩ := vary_of_applies valid applies
  refine ⟨next, removed, ?_⟩
  rw [arcs, document_of_ofDocument revalidated]
  rfl

end Net

/-- A sample of arcs has as many positions as the cap and the number of arcs allow. They increase,
so that none comes twice, lie below the number of arcs, and start at the first arc; the gaps
between neighbours differ by at most one. Nothing on the way leaves the sizes as long as the cap
times the number of arcs does not. The sampled arcs are the ones whose deletions a report grades,
in their order, and each is taken out of the net; a solver that answers with complete trajectories
leads to a report. -/
theorem sampledArcs_exact (total : Nat) (cap : Option Nat) :
    let sampled := sampledArcs total cap
    sampled.length = cap.elim total (min · total) ∧ sampled.Pairwise (· < ·) ∧
    (∀ index ∈ sampled, index < total) ∧ (sampled ≠ [] → sampled.head? = some 0) ∧
    (∀ j k a a' b b' : Nat, sampled[j]? = some a → sampled[j + 1]? = some a' →
      sampled[k]? = some b → sampled[k + 1]? = some b' → a' - a ≤ b' - b + 1) ∧
    ((∀ c, cap = some c → c * total < 2 ^ 64) → sampledArcs? total cap = some sampled) ∧
    ∀ (d : Document) (net : Net), Net.ofDocument d = .ok net → net.arcs.length = total →
      (∀ index ∈ sampled, ∃ arc next, net.arcs[index]? = some arc ∧
        net.withoutArc index = .ok next ∧ next.arcs = net.arcs.eraseIdx index) ∧
      ∀ (solver : Solver) (settings : Settings) (baseline : Trajectory),
        settings.maxArcs = cap → net.trajectory solver settings.timeSpan = .ok baseline →
        (solver.IsComplete → ∃ report, DeletionReport.ofNet net solver settings = .ok report) ∧
        ∀ report, DeletionReport.ofNet net solver settings = .ok report →
          (report.elements.filter (·.kind == .arc)).map .ok = sampled.map fun index =>
            ElementImpact.ofDeletion solver settings net baseline (net.arcDeletion index) := by
  intro sampled
  refine ⟨length_sampledArcs total cap, pairwise_sampledArcs total cap,
    fun index => lt_of_mem_sampledArcs, ?_, fun j k a a' b b' => gap_le_gap, sampledArcs?_eq, ?_⟩
  · intro nonempty
    rw [List.head?_eq_getElem?, List.getElem?_eq_getElem (List.length_pos_iff.2 nonempty)]
    have first := (getElem?_sampledArcs
      (List.getElem?_eq_getElem (List.length_pos_iff.2 nonempty))).2
    rw [first, Nat.zero_mul, Nat.zero_div]
  · intro d net valid counted
    constructor
    · intro index member
      have inside : index < net.arcs.length := counted ▸ lt_of_mem_sampledArcs member
      obtain ⟨next, removed, others⟩ := Net.withoutArc_eq_ok valid inside
      exact ⟨_, next, List.getElem?_eq_getElem inside, removed, others⟩
    · intro solver settings baseline capped solved
      refine ⟨fun complete => DeletionReport.exists_ok_ofNet complete solved, fun report made => ?_⟩
      have graded := DeletionReport.mapM_ofDeletion solved made
      rw [DeletionReport.filter_kind .arc graded, Net.filter_deletions, List.map_map, capped,
        counted]
      rfl

/-- Of the six arcs of the mill, four are sampled with gaps of one and two, and taken out one at a
time. -/
theorem sampledArcs_exact_mill :
    sampledArcs 6 (some 4) = [0, 1, 3, 4] ∧ sampledArcs? 6 (some 4) = some [0, 1, 3, 4] ∧
    ∃ net, Net.ofDocument Net.mill = .ok net ∧
      (∃ next, net.withoutArc 3 = .ok next ∧ next.arcs = Net.mill.arcs.eraseIdx 3) ∧
      ∃ report, DeletionReport.ofNet net Net.standstill
          { Settings.default with maxArcs := some 4 } = .ok report ∧
        (report.elements.filter (·.kind == .arc)).length = 4 := by
  have sampled : sampledArcs 6 (some 4) = [0, 1, 3, 4] := by decide
  obtain ⟨length, -, -, -, -, checked, ofNet⟩ := sampledArcs_exact 6 (some 4)
  have fits : ∀ c, some 4 = some c → c * 6 < 2 ^ 64 := by
    rintro c same
    obtain rfl := Option.some.inj same
    decide
  refine ⟨sampled, sampled ▸ checked fits, _, rfl, ?_, ?_⟩
  · obtain ⟨-, next, -, removed, others⟩ := (ofNet Net.mill _ rfl rfl).1 3 (by decide)
    exact ⟨next, removed, others⟩
  · obtain ⟨answered, graded⟩ := (ofNet Net.mill _ rfl rfl).2 Net.standstill
      { Settings.default with maxArcs := some 4 } _ rfl rfl
    obtain ⟨report, made⟩ := answered Net.isComplete_standstill
    refine ⟨report, made, ?_⟩
    have same := congrArg List.length (graded report made)
    rw [List.length_map, List.length_map, length] at same
    exact same

end GuardedNet
