import GuardedNet.Proofs.Dynamics.Trajectory
import GuardedNet.Proofs.Net.Variation
import GuardedNet.Sensitivity.Deletion

/-!
# Producers that a deletion cuts off

A transition that took tokens and, after a deletion, gives without taking can run without bound.
The tables of the changed net show it exactly when the arcs of the intact net do: all arcs into the
transition come from the place that goes (`Document.FedBy`), or the arc that goes is the only one
into it (`Document.FedThrough`). Main statement: `Net.orphanedProducers_exact`, which ends with the
grade of such a deletion.
-/

namespace GuardedNet

/-- Among the arcs before and after a change: the transition took from a place, and now gives
without taking. -/
def Orphaned (before after : List Arc) (transition : String) : Prop :=
  (∃ arc ∈ before, arc.target = transition) ∧ (¬∃ arc ∈ after, arc.target = transition) ∧
    ∃ arc ∈ after, arc.source = transition

instance (before after : List Arc) (transition : String) :
    Decidable (Orphaned before after transition) :=
  inferInstanceAs (Decidable (_ ∧ _ ∧ _))

namespace Document

/-- The transition has arcs into it, all from the place, and an arc to another place. -/
def FedBy (d : Document) (place transition : String) : Prop :=
  (∃ arc ∈ d.arcs, arc.target = transition) ∧
    (∀ arc ∈ d.arcs, arc.target = transition → arc.source = place) ∧
    ∃ arc ∈ d.arcs, arc.source = transition ∧ arc.target ≠ place

instance (d : Document) (place transition : String) : Decidable (d.FedBy place transition) :=
  inferInstanceAs (Decidable (_ ∧ _ ∧ _))

/-- The arc at the position, and no other, leads into the transition, and an arc leads out of it. -/
def FedThrough (d : Document) (index : Nat) (transition : String) : Prop :=
  transition ∈ d.transitionIds ∧
    (∀ j arc, d.arcs[j]? = some arc → (arc.target = transition ↔ j = index)) ∧
    ∃ arc ∈ d.arcs, arc.source = transition

/-- An arc into a transition comes from a place. -/
theorem Sound.source_mem {d : Document} (sound : d.Sound) {arc : Arc} (member : arc ∈ d.arcs)
    (into : arc.target ∈ d.transitionIds) : arc.source ∈ d.placeIds := by
  obtain ⟨place, isPlace, transition, -, joined, -⟩ := sound.arcs arc member
  rcases joined with same | same
  · have source : arc.source = place.id := congrArg Prod.fst same
    rw [source]
    exact List.mem_map_of_mem isPlace
  · have target : arc.target = place.id := congrArg Prod.snd same
    rw [target] at into
    exact absurd (List.mem_map_of_mem isPlace) (sound.apart _ into)

end Document

/-! ### Orphans among arcs -/

section Arcs

variable {d : Document} (sound : d.Sound) {transition : String}
  (isTransition : transition ∈ d.transitionIds)
include sound isTransition

/-- The orphans of a place are the transitions that it alone feeds. -/
theorem orphaned_removePlace_iff {place : String} (isPlace : place ∈ d.placeIds) :
    Orphaned d.arcs ((Change.removePlace place).apply d).arcs transition ↔
      d.FedBy place transition := by
  have apart : transition ≠ place := by
    intro same
    exact sound.apart transition isTransition (same ▸ isPlace)
  have stays : ∀ arc, arc ∈ ((Change.removePlace place).apply d).arcs ↔
      arc ∈ d.arcs ∧ arc.source ≠ place ∧ arc.target ≠ place := by
    intro arc
    simp [Change.apply]
  apply and_congr_right
  intro _
  apply and_congr
  · constructor
    · intro none arc member into
      by_contra other
      exact none ⟨arc, (stays arc).2 ⟨member, other, into ▸ apart⟩, into⟩
    · rintro only ⟨arc, member, into⟩
      obtain ⟨member, source, -⟩ := (stays arc).1 member
      exact source (only arc member into)
  · constructor
    · rintro ⟨arc, member, out⟩
      obtain ⟨member, -, target⟩ := (stays arc).1 member
      exact ⟨arc, member, out, target⟩
    · rintro ⟨arc, member, out, target⟩
      exact ⟨arc, (stays arc).2 ⟨member, out ▸ apart, target⟩, out⟩

/-- An arc into another transition stays when a transition goes. -/
theorem not_orphaned_removeTransition {other : String} (isOther : other ∈ d.transitionIds)
    (apart : transition ≠ other) :
    ¬Orphaned d.arcs ((Change.removeTransition other).apply d).arcs transition := by
  rintro ⟨⟨arc, member, into⟩, none, -⟩
  have fromPlace := sound.source_mem member (into ▸ isTransition)
  have source : arc.source ≠ other := by
    intro same
    exact sound.apart other isOther (same ▸ fromPlace)
  apply none
  refine ⟨arc, ?_, into⟩
  simp [Change.apply, member, source, into, apart]

/-- The orphan of an arc is the transition that is fed through it. -/
theorem orphaned_removeArc_iff {index : Nat} (inside : index < d.arcs.length) :
    Orphaned d.arcs ((Change.removeArc index).apply d).arcs transition ↔
      d.FedThrough index transition := by
  have stays : ∀ arc, arc ∈ ((Change.removeArc index).apply d).arcs ↔
      ∃ j, j ≠ index ∧ d.arcs[j]? = some arc := by
    intro arc
    exact List.mem_eraseIdx_iff_getElem?
  constructor
  · rintro ⟨⟨fed, member, into⟩, none, out⟩
    -- no arc elsewhere leads into the transition, so the one that does is at the position
    have elsewhere : ∀ j arc, d.arcs[j]? = some arc → arc.target = transition → j = index := by
      intro j arc here into
      by_contra apart
      exact none ⟨arc, (stays arc).2 ⟨j, apart, here⟩, into⟩
    obtain ⟨i, atPosition⟩ := List.mem_iff_getElem?.1 member
    obtain rfl := elsewhere i fed atPosition into
    refine ⟨isTransition, ?_, ?_⟩
    · intro j arc here
      refine ⟨elsewhere j arc here, ?_⟩
      rintro rfl
      rw [here] at atPosition
      rw [Option.some.inj atPosition]
      exact into
    · obtain ⟨arc, member, source⟩ := out
      obtain ⟨j, -, here⟩ := (stays arc).1 member
      exact ⟨arc, List.mem_of_getElem? here, source⟩
  · rintro ⟨-, only, arc, member, source⟩
    have here := List.getElem?_eq_getElem inside
    refine ⟨⟨_, List.getElem_mem inside, (only index _ here).2 rfl⟩, ?_, ?_⟩
    · rintro ⟨other, stayed, into⟩
      obtain ⟨j, apart, there⟩ := (stays other).1 stayed
      exact apart ((only j other there).1 into)
    · -- an arc out of the transition leads to a place, so it is not the one into it
      obtain ⟨j, there⟩ := List.mem_iff_getElem?.1 member
      refine ⟨arc, (stays arc).2 ⟨j, ?_, there⟩, source⟩
      intro same
      have into := (only j arc there).2 same
      have fromPlace := sound.source_mem member (into ▸ isTransition)
      rw [source] at fromPlace
      exact sound.apart transition isTransition fromPlace

end Arcs

/-! ### Orphans in the tables -/

namespace Net

theorem transitionId_of_mem_zipIdx {net : Net} {transition : Transition} {t : Nat}
    (member : (transition, t) ∈ net.transitions.zipIdx) :
    t < net.transitions.length ∧ net.transitionId t = transition.id := by
  have here : net.transitions[t]? = some transition := List.mem_zipIdx_iff_getElem?.1 member
  refine ⟨(List.getElem?_eq_some_iff.1 here).1, ?_⟩
  simp [transitionId, here]

/-- The tables of two nets show the orphans that the arcs show. -/
theorem orphanedProducers_eq {net next : Net} (formed : net.WellFormed)
    (formed' : next.WellFormed)
    (kept : ∀ id ∈ next.document.transitionIds, id ∈ net.document.transitionIds) :
    net.orphanedProducers next =
      next.document.transitionIds.filter fun id => Orphaned net.arcs next.arcs id := by
  have byId : net.orphanedProducers next = next.transitions.zipIdx.filterMap
      (Option.guard (fun id => decide (Orphaned net.arcs next.arcs id)) ∘ Transition.id ∘
        Prod.fst) := by
    apply List.filterMap_congr
    rintro ⟨transition, t⟩ member
    obtain ⟨inside, named⟩ := transitionId_of_mem_zipIdx member
    have isKept := kept _ (named ▸ transitionId_mem inside)
    obtain ⟨s, found⟩ : ∃ s, net.transitionIndex? transition.id = some s := by
      rw [← Option.ne_none_iff_exists', transitionIndex?, Ne, Document.transitionIndex?_eq_none_iff]
      exact not_not_intro isKept
    obtain ⟨inside', named'⟩ := transitionId_of_transitionIndex? found
    have took := formed.isEmpty_inputs_iff inside'
    have takes := formed'.isEmpty_inputs_iff inside
    have gives := formed'.isEmpty_outputs_iff inside
    rw [named'] at took
    rw [named] at takes gives
    have same : ((next.inputs t).isEmpty && !(next.outputs t).isEmpty &&
        !(net.inputs s).isEmpty) = decide (Orphaned net.arcs next.arcs transition.id) := by
      rw [Bool.eq_iff_iff, Bool.and_eq_true, Bool.and_eq_true, Bool.not_eq_true', Bool.not_eq_true',
        ← Bool.not_eq_true, ← Bool.not_eq_true, took, takes, gives, decide_eq_true_iff, not_not,
        not_not]
      constructor
      · rintro ⟨⟨taking, giving⟩, before⟩
        exact ⟨before, taking, giving⟩
      · rintro ⟨before, taking, giving⟩
        exact ⟨⟨taking, giving⟩, before⟩
    simp only [Function.comp_apply, found, Option.any_some, same, Option.guard]
  rw [byId, ← List.filterMap_map, List.filterMap_eq_filter, ← List.map_map, List.zipIdx_map_fst]
  rfl

section

variable {d : Document} {net : Net} (valid : ofDocument d = .ok net)
include valid

/-- The orphans that a change leaves, by the arcs of the two documents. -/
theorem orphanedProducers_vary {change : Change} {next : Net}
    (revalidated : ofDocument (change.apply d) = .ok next) :
    net.orphanedProducers next = (change.apply d).transitionIds.filter fun id =>
      Orphaned d.arcs (change.apply d).arcs id := by
  have shown := orphanedProducers_eq (wellFormed_of_ofDocument valid)
    (wellFormed_of_ofDocument revalidated)
  rw [arcs, arcs, document_of_ofDocument valid, document_of_ofDocument revalidated] at shown
  apply shown
  intro id member
  exact (change.keeps d).transitionIds.mem member

theorem orphanedProducers_withoutPlace {place : String} (isPlace : place ∈ d.placeIds) :
    ∃ next, net.withoutPlace place = .ok next ∧
      net.orphanedProducers next = d.transitionIds.filter fun id => d.FedBy place id := by
  have sound := exists_ofDocument_iff.1 ⟨net, valid⟩
  have applies : (Change.removePlace place).Applies d := isPlace
  obtain ⟨next, removed, revalidated⟩ := vary_of_applies valid applies
  refine ⟨next, removed, ?_⟩
  rw [orphanedProducers_vary valid revalidated]
  apply List.filter_congr
  intro id isTransition
  exact decide_eq_decide.2 (orphaned_removePlace_iff sound isTransition isPlace)

theorem orphanedProducers_withoutTransition {transition : String}
    (isTransition : transition ∈ d.transitionIds) :
    ∃ next, net.withoutTransition transition = .ok next ∧ net.orphanedProducers next = [] := by
  have sound := exists_ofDocument_iff.1 ⟨net, valid⟩
  have applies : (Change.removeTransition transition).Applies d := isTransition
  obtain ⟨next, removed, revalidated⟩ := vary_of_applies valid applies
  refine ⟨next, removed, ?_⟩
  rw [orphanedProducers_vary valid revalidated, List.filter_eq_nil_iff]
  intro id member
  have wasTransition := ((Change.removeTransition transition).keeps d).transitionIds.mem member
  have apart : id ≠ transition := Change.ne_of_mem_filter member
  simpa using not_orphaned_removeTransition sound wasTransition isTransition apart

theorem orphanedProducers_withoutArc {index : Nat} {arc : Arc} (here : d.arcs[index]? = some arc) :
    ∃ next, net.withoutArc index = .ok next ∧
      (d.FedThrough index arc.target → net.orphanedProducers next = [arc.target]) ∧
      (¬d.FedThrough index arc.target → net.orphanedProducers next = []) := by
  have sound := exists_ofDocument_iff.1 ⟨net, valid⟩
  have inside := (List.getElem?_eq_some_iff.1 here).1
  have applies : (Change.removeArc index).Applies d := inside
  obtain ⟨next, removed, revalidated⟩ := vary_of_applies valid applies
  have shown := orphanedProducers_vary valid revalidated
  -- only the transition at the end of the arc can be fed through it
  have atEnd : ∀ id ∈ d.transitionIds,
      Orphaned d.arcs ((Change.removeArc index).apply d).arcs id ↔
        id = arc.target ∧ d.FedThrough index arc.target := by
    intro id isTransition
    rw [orphaned_removeArc_iff sound isTransition inside]
    constructor
    · intro fed
      obtain rfl := (fed.2.1 index arc here).2 rfl
      exact ⟨rfl, fed⟩
    · rintro ⟨rfl, fed⟩
      exact fed
  refine ⟨next, removed, ?_, ?_⟩
  · intro fed
    have single : d.transitionIds.filter (· == arc.target) = [arc.target] := by
      rw [List.filter_beq, List.count_eq_one_of_mem sound.transitionIds.1 fed.1]
      rfl
    rw [shown, ← single]
    apply List.filter_congr
    intro id isTransition
    rw [Bool.eq_iff_iff, decide_eq_true_iff, atEnd id isTransition, beq_iff_eq]
    exact and_iff_left fed
  · intro notFed
    rw [shown, List.filter_eq_nil_iff]
    intro id isTransition
    simp [atEnd id isTransition, notFed]

end

end Net

/-! ### Grades -/

namespace ElementImpact

section

variable {solver : Solver} {settings : Settings} {intact : Net} {baseline : Trajectory}
  {deletion : Deletion} {graded : ElementImpact}

/-- A graded deletion is critical from the outset, or has been followed and compared. -/
theorem ofDeletion_eq_ok (done : ofDeletion solver settings intact baseline deletion = .ok graded) :
    (∃ impact reason, graded = critical deletion impact reason) ∨
      ∃ changed impact, deletion.result = .ok changed ∧
        graded = ofValue settings intact changed deletion impact := by
  unfold ofDeletion at done
  split at done
  · exact Or.inl ⟨_, _, (Except.ok.inj done).symm⟩
  rename_i changed result
  split at done
  · exact Or.inl ⟨_, _, (Except.ok.inj done).symm⟩
  split at done
  · exact Or.inl ⟨_, _, (Except.ok.inj done).symm⟩
  split at done
  · exact Or.inl ⟨_, _, (Except.ok.inj done).symm⟩
  · rename_i t _
    cases compared : baseline.impact t settings.metric settings.sampleTimes with
    | error cause =>
      rw [compared] at done
      cases done
    | ok impact =>
      rw [compared] at done
      exact Or.inr ⟨changed, impact, result, (Except.ok.inj done).symm⟩

/-- A deletion that leaves an orphan is critical, whatever becomes of the amounts. -/
theorem critical_of_orphans {changed : Net} (result : deletion.result = .ok changed)
    (orphans : intact.orphanedProducers changed ≠ [])
    (done : ofDeletion solver settings intact baseline deletion = .ok graded) :
    ∃ impact reason, graded = critical deletion impact reason := by
  rcases ofDeletion_eq_ok done with isCritical | ⟨next, impact, followed, rfl⟩
  · exact isCritical
  · obtain rfl := Except.ok.inj (followed.symm.trans result)
    unfold ofValue
    split
    · rename_i none
      exact absurd none orphans
    · exact ⟨_, _, rfl⟩

/-- With complete trajectories every deletion gets a grade. -/
theorem exists_ok_ofDeletion (complete : solver.IsComplete) (known : baseline.Complete)
    (settings : Settings) (intact : Net) (deletion : Deletion) :
    ∃ graded, ofDeletion solver settings intact baseline deletion = .ok graded := by
  unfold ofDeletion
  split
  · exact ⟨_, rfl⟩
  split
  · exact ⟨_, rfl⟩
  split
  · exact ⟨_, rfl⟩
  split
  · exact ⟨_, rfl⟩
  · rename_i t solved
    have followed : t.Complete := complete _ (Problem.size_initial_ofNet ..) t solved
    obtain ⟨impact, compared⟩ := known.impact followed settings.metric settings.sampleTimes
    exact ⟨_, by rw [compared]; rfl⟩

end

end ElementImpact

namespace DeletionReport

variable {net : Net} {solver : Solver} {settings : Settings} {baseline : Trajectory}

/-- A report holds the grades of the deletions, in their order. -/
theorem mapM_ofDeletion {report : DeletionReport}
    (solved : net.trajectory solver settings.timeSpan = .ok baseline)
    (made : ofNet net solver settings = .ok report) :
    (net.deletions settings.maxArcs).mapM (ElementImpact.ofDeletion solver settings net baseline) =
      .ok report.elements := by
  obtain ⟨followed, answered, made⟩ := bind_eq_ok.1 made
  obtain rfl := Except.ok.inj (answered.symm.trans solved)
  obtain ⟨elements, graded, same⟩ := bind_eq_ok.1 made
  cases same
  exact graded

/-- A report grades a deletion that leaves an orphan critical, at the position of the deletion. -/
theorem critical_of_orphans {report : DeletionReport}
    (solved : net.trajectory solver settings.timeSpan = .ok baseline)
    (made : ofNet net solver settings = .ok report) {i : Nat} {deletion : Deletion}
    (listed : (net.deletions settings.maxArcs)[i]? = some deletion) {changed : Net}
    (result : deletion.result = .ok changed) (orphans : net.orphanedProducers changed ≠ []) :
    ∃ impact reason, report.elements[i]? =
      some ⟨deletion.kind, deletion.id, impact, .critical, some reason⟩ := by
  obtain ⟨graded, done, there⟩ := getElem?_of_mapM (mapM_ofDeletion solved made) listed
  obtain ⟨impact, reason, rfl⟩ := ElementImpact.critical_of_orphans result orphans done
  exact ⟨impact, reason, there⟩

/-- With a complete solver there is a report. -/
theorem exists_ok_ofNet (complete : solver.IsComplete)
    (solved : net.trajectory solver settings.timeSpan = .ok baseline) :
    ∃ report, ofNet net solver settings = .ok report := by
  have known : baseline.Complete := by
    unfold Net.trajectory at solved
    split at solved
    · rename_i t answered
      obtain rfl := Except.ok.inj solved
      exact complete _ (Problem.size_initial_ofNet ..) t answered
    · cases solved
  obtain ⟨elements, graded⟩ : ∃ elements, (net.deletions settings.maxArcs).mapM
      (ElementImpact.ofDeletion solver settings net baseline) = .ok elements :=
    exists_ok_mapM fun deletion _ =>
      ElementImpact.exists_ok_ofDeletion complete known settings net deletion
  exact ⟨_, bind_eq_ok.2 ⟨baseline, solved, bind_eq_ok.2 ⟨elements, graded, rfl⟩⟩⟩

end DeletionReport

namespace Net

theorem getElem?_deletions_place {net : Net} (maxArcs : Option Nat) {p : Nat} {place : Place}
    (here : net.places[p]? = some place) :
    (net.deletions maxArcs)[p]? = some ⟨.place, place.id, net.withoutPlace place.id⟩ := by
  have inside := (List.getElem?_eq_some_iff.1 here).1
  rw [deletions, List.append_assoc, List.getElem?_append_left (by simpa using inside),
    List.getElem?_map, here]
  rfl

theorem getElem?_deletions_arc {net : Net} {maxArcs : Option Nat} {k index : Nat} {arc : Arc}
    (sampled : (sampledArcs net.arcs.length maxArcs)[k]? = some index)
    (here : net.arcs[index]? = some arc) :
    (net.deletions maxArcs)[net.places.length + net.transitions.length + k]? =
      some ⟨.arc, arc.label, net.withoutArc index⟩ := by
  rw [deletions, List.getElem?_append_right (by simp)]
  simp [sampled, here]

/-- What deletions leave without inputs, by the arcs of the intact net. Without a place, the
transitions that take from it alone and give to another place, in order; without an arc, its
transition if that takes through it alone and gives at all, and no other; without a transition,
none. There is a report for every solver that answers with complete trajectories; and whatever the
solver makes of the changed nets, a report grades each place and each sampled arc critical whose
deletion leaves such a transition. -/
theorem orphanedProducers_exact {d : Document} {net : Net} (valid : ofDocument d = .ok net) :
    (∀ place ∈ d.placeIds, ∃ next, net.withoutPlace place = .ok next ∧
      net.orphanedProducers next = d.transitionIds.filter fun id => d.FedBy place id) ∧
    (∀ (index : Nat) (arc : Arc), d.arcs[index]? = some arc →
      ∃ next, net.withoutArc index = .ok next ∧
      (d.FedThrough index arc.target → net.orphanedProducers next = [arc.target]) ∧
      (¬d.FedThrough index arc.target → net.orphanedProducers next = [])) ∧
    (∀ transition ∈ d.transitionIds, ∃ next, net.withoutTransition transition = .ok next ∧
      net.orphanedProducers next = []) ∧
    ∀ (solver : Solver) (settings : Settings) (baseline : Trajectory),
      net.trajectory solver settings.timeSpan = .ok baseline →
      (solver.IsComplete → ∃ report, DeletionReport.ofNet net solver settings = .ok report) ∧
      ∀ report, DeletionReport.ofNet net solver settings = .ok report →
        (∀ (p : Nat) (place : Place), d.places[p]? = some place →
          (∃ id ∈ d.transitionIds, d.FedBy place.id id) →
          ∃ impact reason, report.elements[p]? =
            some ⟨.place, place.id, impact, .critical, some reason⟩) ∧
        ∀ (k index : Nat) (arc : Arc),
          (sampledArcs d.arcs.length settings.maxArcs)[k]? = some index →
          d.arcs[index]? = some arc → d.FedThrough index arc.target →
          ∃ impact reason, report.elements[d.places.length + d.transitions.length + k]? =
            some ⟨.arc, arc.label, impact, .critical, some reason⟩ := by
  refine ⟨fun place => orphanedProducers_withoutPlace valid,
    fun index arc => orphanedProducers_withoutArc valid,
    fun transition => orphanedProducers_withoutTransition valid, ?_⟩
  intro solver settings baseline solved
  refine ⟨fun complete => DeletionReport.exists_ok_ofNet complete solved, fun report made => ?_⟩
  constructor
  · rintro p place here ⟨id, isTransition, fed⟩
    have isPlace : place.id ∈ d.placeIds := List.mem_map_of_mem (List.mem_of_getElem? here)
    obtain ⟨next, removed, shown⟩ := orphanedProducers_withoutPlace valid isPlace
    have orphans : net.orphanedProducers next ≠ [] := by
      rw [shown]
      exact List.ne_nil_of_mem (List.mem_filter.2 ⟨isTransition, by simpa using fed⟩)
    obtain rfl := document_of_ofDocument valid
    exact DeletionReport.critical_of_orphans solved made
      (getElem?_deletions_place settings.maxArcs here) removed orphans
  · intro k index arc sampled here fed
    obtain ⟨next, removed, single, -⟩ := orphanedProducers_withoutArc valid here
    have orphans : net.orphanedProducers next ≠ [] := by
      rw [single fed]
      exact List.cons_ne_nil _ _
    obtain rfl := document_of_ofDocument valid
    exact DeletionReport.critical_of_orphans solved made (getElem?_deletions_arc sampled here)
      removed orphans

/-- Grain is ground into flour, and flour is baked into bread, two measures at a time of which one
comes back. -/
def mill : Document where
  name := "mill"
  version := "1"
  places := [⟨"grain", .token, .int 3, false, none⟩, ⟨"flour", .token, .int 0, false, none⟩,
    ⟨"bread", .token, .int 0, false, none⟩]
  transitions := [{ id := "grind", guard := none, rate := 1.0 },
    { id := "bake", guard := none, rate := 1.0 }]
  arcs := [⟨"grain", "grind", [], none⟩, ⟨"grind", "flour", [], none⟩, ⟨"flour", "bake", [], none⟩,
    ⟨"flour", "bake", [], none⟩, ⟨"bake", "flour", [], none⟩, ⟨"bake", "bread", [], none⟩]
  invariants := []

/-- Nothing happens for one unit of time. -/
def standstill : Solver := fun problem =>
  .ok ⟨problem.places, #[0.0, 1.0], #[problem.initial, problem.initial]⟩

theorem isComplete_standstill : standstill.IsComplete := by
  intro problem sized t answered
  cases answered
  refine ⟨rfl, by simp [sized], fun first start => ?_⟩
  obtain rfl : (0.0 : Float) = first := Option.some.inj start
  decide

/-- Without flour the mill bakes without end, and without the arc from the grain it grinds without
end; one arc from the flour can go. A solver that finds nothing to tell apart changes no grade. -/
theorem orphanedProducers_exact_mill :
    ∃ net, ofDocument mill = .ok net ∧
      (∃ next, net.withoutPlace "flour" = .ok next ∧ net.orphanedProducers next = ["bake"]) ∧
      (∃ next, net.withoutArc 0 = .ok next ∧ net.orphanedProducers next = ["grind"]) ∧
      (∃ next, net.withoutArc 2 = .ok next ∧ net.orphanedProducers next = []) ∧
      ∃ report, DeletionReport.ofNet net standstill Settings.default = .ok report ∧
        (∃ impact reason, report.elements[1]? =
          some ⟨.place, "flour", impact, .critical, some reason⟩) ∧
        ∃ impact reason, report.elements[5]? =
          some ⟨.arc, "grain->grind", impact, .critical, some reason⟩ := by
  have fed : mill.FedThrough 0 "grind" := by
    refine ⟨by decide, ?_, ⟨"grind", "flour", [], none⟩, by decide, rfl⟩
    have each : ∀ entry ∈ mill.arcs.zipIdx, (entry.1.target = "grind" ↔ entry.2 = 0) := by decide
    intro j arc here
    exact each (arc, j) (List.mem_zipIdx_iff_getElem?.2 here)
  refine ⟨_, rfl, ?_⟩
  obtain ⟨ofPlace, ofArc, -, graded⟩ := orphanedProducers_exact (d := mill) rfl
  obtain ⟨answered, critical⟩ := graded standstill Settings.default _ rfl
  obtain ⟨report, made⟩ := answered isComplete_standstill
  obtain ⟨places, arcs⟩ := critical report made
  refine ⟨?_, ?_, ?_, report, made, ?_, ?_⟩
  · have onlyBake : mill.transitionIds.filter (fun id => mill.FedBy "flour" id) = ["bake"] := by
      decide
    rw [← onlyBake]
    exact ofPlace "flour" (by decide)
  · obtain ⟨next, removed, single, -⟩ := ofArc 0 _ rfl
    exact ⟨next, removed, single fed⟩
  · obtain ⟨next, removed, -, none⟩ := ofArc 2 _ rfl
    refine ⟨next, removed, none fun fedThrough => ?_⟩
    have other := (fedThrough.2.1 3 _ rfl).1 rfl
    exact absurd other (by decide)
  · exact places 1 _ rfl ⟨"bake", by decide, by decide⟩
  · exact arcs 0 0 _ rfl rfl fed

end Net

end GuardedNet
