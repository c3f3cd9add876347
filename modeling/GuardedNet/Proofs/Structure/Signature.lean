import GuardedNet.Proofs.Number.Saturation
import GuardedNet.Proofs.Structure.Correspondence
import GuardedNet.Proofs.Text.Sorted
import GuardedNet.Structure.Signature

/-!
# Signatures of isomorphic nets

A correspondence that passes its check keeps what a signature counts, as far as places declare as
many tokens as their images. The sums of tokens stop at the bounds, so that they can depend on the
order of the declarations. Main statement: where they do not, isomorphic nets have one signature
(`Correspondence.equivalent_of_isIsomorphism`); where they do, they can tell isomorphic nets apart
(`Correspondence.isIsomorphism_without_equivalence`).
-/

namespace GuardedNet

/-! ### Comparisons -/

namespace Signature

/-- Signatures without a difference are the same. -/
theorem differences_eq_nil_iff {s other : Signature} : s.differences other = [] ↔ s = other := by
  constructor
  · intro none
    simp only [differences, countDifference, List.append_eq_nil_iff, ite_eq_left_iff, imp_false,
      not_not, List.cons_ne_nil] at none
    obtain ⟨⟨⟨⟨⟨places, transitions⟩, arcs⟩, total⟩, placeProfiles⟩, transitionProfiles⟩ := none
    cases s
    cases other
    simp_all
  · rintro rfl
    simp [differences, countDifference]

theorem equivalent_iff {left right : Net} :
    (SignatureComparison.ofNets left right).equivalent = true ↔ ofNet left = ofNet right := by
  rw [SignatureComparison.equivalent, List.isEmpty_iff]
  exact differences_eq_nil_iff

end Signature

namespace Profile

theorem isSortedPair_iff {a b : Profile} :
    isSortedPair a b = true ↔ a.inputs < b.inputs ∨ a.inputs = b.inputs ∧
      (a.outputs < b.outputs ∨ a.outputs = b.outputs ∧ a.initial ≤ b.initial) := by
  unfold isSortedPair
  split
  · rw [decide_eq_true_iff]
    omega
  · split
    · rw [decide_eq_true_iff]
      omega
    · rw [decide_eq_true_iff]
      omega

/-- Sorted profiles do not show in which order they were found. -/
theorem sorted_eq_of_perm {profiles others : List Profile} (perm : profiles.Perm others) :
    profiles.mergeSort isSortedPair = others.mergeSort isSortedPair := by
  refine mergeSort_eq_of_perm ?_ ?_ ?_ perm
  · intro a b c ab bc
    rw [isSortedPair_iff] at *
    omega
  · intro a b
    rw [Bool.or_eq_true, isSortedPair_iff, isSortedPair_iff]
    omega
  · rintro ⟨inputs, outputs, initial⟩ _ ⟨inputs', outputs', initial'⟩ _ ab ba
    rw [isSortedPair_iff] at ab ba
    dsimp only at ab ba
    obtain rfl : inputs = inputs' := by omega
    obtain rfl : outputs = outputs' := by omega
    obtain rfl : initial = initial' := by omega
    rfl

end Profile

/-! ### Profiles by ids -/

namespace Net

/-- The terms of which the tokens of a transition's profile are the sum: for each place its declared
tokens times its arcs to the transition. -/
def inputTerms (net : Net) (transition : String) : List Int :=
  net.places.map fun place =>
    Number.clamp (Number.clamp (net.arcCount place.id transition) * place.initialTokens)

/-- The profile of the place with an id. -/
def placeProfile (net : Net) (id : String) : Profile :=
  ⟨net.arcsInto id, net.arcsFrom id, net.declaredTokens id⟩

/-- The profile of the transition with an id. -/
def transitionProfile (net : Net) (id : String) : Profile :=
  ⟨net.arcsInto id, net.arcsFrom id, Number.saturated (net.inputTerms id)⟩

theorem totalInitialTokens_eq (net : Net) :
    net.totalInitialTokens = Number.saturated (net.places.map Place.initialTokens) := by
  rw [totalInitialTokens, Number.saturated, List.foldl_map]

namespace WellFormed

variable {net : Net} (formed : net.WellFormed)
include formed

theorem declaredTokens_eq :
    net.places.map Place.initialTokens = (net.places.map (·.id)).map net.declaredTokens := by
  rw [List.map_map]
  exact List.map_congr_left fun place member => (formed.declaredTokens_id member).symm

theorem inputTerms_eq (transition : String) :
    net.inputTerms transition = (net.places.map (·.id)).map fun id =>
      Number.clamp (Number.clamp (net.arcCount id transition) * net.declaredTokens id) := by
  rw [inputTerms, List.map_map]
  refine List.map_congr_left fun place member => ?_
  rw [Function.comp_apply, formed.declaredTokens_id member]

theorem placeProfiles_eq :
    (net.places.zipIdx.map fun entry => Signature.placeProfile net entry.2 entry.1) =
      (net.places.map (·.id)).map net.placeProfile := by
  refine List.ext_getElem (by simp) fun p inside _ => ?_
  have here : p < net.places.length := by simpa using inside
  have named : net.placeId p = net.places[p].id := by simp [placeId, here]
  simp only [List.getElem_map, List.getElem_zipIdx, Nat.zero_add, Signature.placeProfile,
    placeProfile, formed.total_row_produced here, formed.total_row_consumed here, named,
    formed.declaredTokens_id (List.getElem_mem here)]

theorem zip_column {t : Nat} (inside : t < net.transitions.length) :
    List.zip (net.consumed.column t) net.places =
      net.places.map fun place => (net.arcCount place.id (net.transitionId t), place) := by
  have length : net.consumed.rows.length = net.places.length := by
    rw [formed.consumed, Document.length_rows_count]
    rfl
  rw [Table.column_eq_map_entry, length]
  refine List.ext_getElem (by simp) fun p both _ => ?_
  have here : p < net.places.length := by simpa using both
  have named : net.placeId p = net.places[p].id := by simp [placeId, here]
  simp only [List.getElem_zip, List.getElem_map, List.getElem_range,
    formed.entry_consumed here inside, named]

theorem transitionProfiles_eq :
    (List.range net.transitions.length).map (Signature.transitionProfile net) =
      (net.transitions.map (·.id)).map net.transitionProfile := by
  refine List.ext_getElem (by simp) fun t inside _ => ?_
  have here : t < net.transitions.length := by simpa using inside
  have named : net.transitionId t = net.transitions[t].id := by simp [transitionId, here]
  have terms : (Signature.transitionProfile net t).initial =
      Number.saturated (net.inputTerms (net.transitionId t)) := by
    rw [Signature.transitionProfile, formed.zip_column here, List.foldl_map, inputTerms,
      Number.saturated, List.foldl_map]
  rw [List.getElem_map, List.getElem_map, List.getElem_map, List.getElem_range, transitionProfile,
    ← named, ← terms, ← formed.columnTotal_consumed here, ← formed.columnTotal_produced here]
  rfl

end WellFormed

end Net

/-! ### Isomorphic nets -/

namespace Correspondence

theorem PairsOff.perm_map {mapping : Dictionary String} {left right : List String}
    (pairs : PairsOff mapping left right) (leftIds : left.Nodup) {β : Type} {f g : String → β}
    (agree : ∀ id image, Dictionary.get? id mapping = some image → f id = g image) :
    (left.map f).Perm (right.map g) := by
  have same : (Dictionary.keys mapping).map f = (Correspondence.images mapping).map g := by
    rw [Dictionary.keys, Correspondence.images, List.map_map, List.map_map]
    refine List.map_congr_left fun entry member => ?_
    exact agree _ _ ((Dictionary.get?_eq_some_iff (pairs.distinct leftIds)).2 member)
  exact ((pairs.keys.map f).symm.trans (.of_eq same)).trans (pairs.images.map g)

section

variable {c : Correspondence} {left right : Net} (leftFormed : left.WellFormed)
  (rightFormed : right.WellFormed) (preserves : c.Preserves left right)
include leftFormed rightFormed preserves

/-- As many arcs have an id for an end as have its image for the same end. -/
theorem count_end {pick : String × String → String} (picks : pick = Prod.fst ∨ pick = Prod.snd)
    {id image : String} (takes : c.Takes id image) :
    ((left.arcs.map Arc.ends).map pick).count id =
      ((right.arcs.map Arc.ends).map pick).count image := by
  have isImage := @image?_eq_some_iff c left right leftFormed preserves.places preserves.transitions
  have injective := @takes_injective c left right leftFormed rightFormed preserves.places
    preserves.transitions
  rw [← (preserves.arcs.map pick).count_eq, List.map_filterMap, List.count_filterMap, List.map_map,
    List.count, List.countP_map]
  refine List.countP_congr fun arc member => ?_
  obtain ⟨ends, found⟩ := exists_imageEnds? leftFormed preserves.places preserves.transitions member
  obtain ⟨source, target⟩ := imageEnds?_eq_some_iff.1 found
  rw [isImage] at source target
  have atEnd : c.Takes (pick arc.ends) (pick ends) := by
    rcases picks with rfl | rfl
    · exact source
    · exact target
  rw [found]
  simp only [Function.comp_apply, beq_iff_eq, Option.map_some, Option.some.injEq]
  constructor
  · rintro rfl
    exact Option.some.inj ((isImage.2 atEnd).symm.trans (isImage.2 takes))
  · rintro rfl
    exact injective atEnd takes

theorem arcCount_eq {s t s' t' : String} (source : c.Takes s s') (target : c.Takes t t') :
    left.arcCount s t = right.arcCount s' t' := by
  rw [← count_imageEnds? leftFormed rightFormed preserves.places preserves.transitions source
    target, preserves.arcs.count_eq]
  rfl

omit rightFormed in
theorem lengths_eq :
    left.places.length = right.places.length ∧
      left.transitions.length = right.transitions.length ∧
      left.arcs.length = right.arcs.length := by
  obtain ⟨places, transitions, arcs, -⟩ := preserves
  have same {mapping : Dictionary String} :
      (Dictionary.keys mapping).length = (images mapping).length := by
    simp [Dictionary.keys, images]
  refine ⟨?_, ?_, ?_⟩
  · simpa [places.keys.length_eq, places.images.length_eq] using @same c.places
  · simpa [transitions.keys.length_eq, transitions.images.length_eq] using @same c.transitions
  · simpa [length_imageEnds? leftFormed places transitions] using arcs.length_eq

end

/-- Every place is of the kind of its image, unless its initial value counts for no tokens. -/
def KeepsTokens (c : Correspondence) (left right : Net) : Prop :=
  ∀ place ∈ left.places, ∀ image ∈ right.places,
    Dictionary.get? place.id c.places = some image.id →
      place.kind = image.kind ∨ place.initial.asInt?.getD 0 = 0

section

variable {c : Correspondence} {left right : Net} (leftFormed : left.WellFormed)
  (rightFormed : right.WellFormed) (preserves : c.Preserves left right)
  (tokens : c.KeepsTokens left right)
include leftFormed rightFormed preserves tokens

theorem declaredTokens_eq {id image : String} (takes : Dictionary.get? id c.places = some image) :
    left.declaredTokens id = right.declaredTokens image := by
  obtain ⟨place, member, rfl⟩ := List.mem_map.1 ((preserves.places.domain id).2 ⟨_, takes⟩)
  obtain ⟨other, member', rfl⟩ :=
    List.mem_map.1 ((preserves.places.range leftFormed.placeIds image).2 ⟨_, takes⟩)
  rw [leftFormed.declaredTokens_id member, rightFormed.declaredTokens_id member']
  have initial := preserves.initial place member other member' takes
  have kinds := tokens place member other member' takes
  unfold Place.initialTokens
  rw [← initial]
  rcases kinds with same | zero
  · rw [same]
  · rw [zero]
    cases place.kind <;> cases other.kind <;> rfl

theorem placeProfile_eq {id image : String} (takes : Dictionary.get? id c.places = some image) :
    left.placeProfile id = right.placeProfile image := by
  have into := count_end leftFormed rightFormed preserves (Or.inr rfl) (Or.inl takes)
  have outOf := count_end leftFormed rightFormed preserves (Or.inl rfl) (Or.inl takes)
  have declared := declaredTokens_eq leftFormed rightFormed preserves tokens takes
  simp only [Net.placeProfile, Net.arcsInto, Net.arcsFrom, into, outOf, declared]

theorem perm_inputTerms {id image : String}
    (takes : Dictionary.get? id c.transitions = some image) :
    (left.inputTerms id).Perm (right.inputTerms image) := by
  rw [leftFormed.inputTerms_eq, rightFormed.inputTerms_eq]
  refine preserves.places.perm_map leftFormed.placeIds fun place other takesPlace => ?_
  rw [arcCount_eq leftFormed rightFormed preserves (Or.inl takesPlace) (Or.inr takes),
    declaredTokens_eq leftFormed rightFormed preserves tokens takesPlace]

/-- The places of isomorphic nets that keep their tokens have the same profiles. -/
theorem placeProfiles_eq :
    (Signature.ofNet left).placeProfiles = (Signature.ofNet right).placeProfiles := by
  refine Profile.sorted_eq_of_perm ?_
  change List.Perm (left.places.zipIdx.map fun entry => Signature.placeProfile left entry.2 entry.1)
    (right.places.zipIdx.map fun entry => Signature.placeProfile right entry.2 entry.1)
  rw [leftFormed.placeProfiles_eq, rightFormed.placeProfiles_eq]
  exact preserves.places.perm_map leftFormed.placeIds fun _ _ =>
    placeProfile_eq leftFormed rightFormed preserves tokens

theorem totalInitialTokens_eq (steady : Number.Steady (left.places.map Place.initialTokens)) :
    left.totalInitialTokens = right.totalInitialTokens := by
  rw [Net.totalInitialTokens_eq, Net.totalInitialTokens_eq]
  refine (Number.steady_iff.1 steady _ ?_).symm
  rw [leftFormed.declaredTokens_eq, rightFormed.declaredTokens_eq]
  exact (preserves.places.perm_map leftFormed.placeIds fun _ _ =>
    declaredTokens_eq leftFormed rightFormed preserves tokens).symm

theorem transitionProfiles_eq
    (steady : ∀ transition ∈ left.transitions, Number.Steady (left.inputTerms transition.id)) :
    (Signature.ofNet left).transitionProfiles = (Signature.ofNet right).transitionProfiles := by
  refine Profile.sorted_eq_of_perm ?_
  rw [leftFormed.transitionProfiles_eq, rightFormed.transitionProfiles_eq]
  refine preserves.transitions.perm_map leftFormed.transitionIds fun id image takes => ?_
  obtain ⟨transition, member, rfl⟩ :=
    List.mem_map.1 ((preserves.transitions.domain id).2 ⟨_, takes⟩)
  have into := count_end leftFormed rightFormed preserves (Or.inr rfl) (Or.inr takes)
  have outOf := count_end leftFormed rightFormed preserves (Or.inl rfl) (Or.inr takes)
  have terms := Number.steady_iff.1 (steady transition member) _
    (perm_inputTerms leftFormed rightFormed preserves tokens takes).symm
  simp only [Net.transitionProfile, Net.arcsInto, Net.arcsFrom, into, outOf, terms]

end

/-- Isomorphic nets have as many places, transitions and arcs. If places are also of the kinds of
their images, or else have no tokens to count, then the profiles of the places agree; and if none of
the sums of tokens depends on the order of its terms, then the signatures are the same. -/
theorem equivalent_of_isIsomorphism {d d' : Document} {left right : Net}
    (validLeft : Net.ofDocument d = .ok left) (validRight : Net.ofDocument d' = .ok right)
    {c : Correspondence} (passes : c.isIsomorphism left right = true) :
    let found := SignatureComparison.ofNets left right
    (found.left.placeCount = found.right.placeCount ∧
      found.left.transitionCount = found.right.transitionCount ∧
      found.left.arcCount = found.right.arcCount) ∧
    (c.KeepsTokens left right →
      found.left.placeProfiles = found.right.placeProfiles ∧
      (Number.Steady (left.places.map Place.initialTokens) →
        (∀ transition ∈ left.transitions, Number.Steady (left.inputTerms transition.id)) →
        found.equivalent = true)) := by
  intro found
  have leftFormed := Net.wellFormed_of_ofDocument validLeft
  have rightFormed := Net.wellFormed_of_ofDocument validRight
  have preserves := (isIsomorphism_iff_preserves leftFormed rightFormed).1 passes
  have lengths := lengths_eq leftFormed preserves
  refine ⟨lengths, fun tokens => ?_⟩
  have profiles := placeProfiles_eq leftFormed rightFormed preserves tokens
  refine ⟨profiles, fun total steady => Signature.equivalent_iff.2 ?_⟩
  have total := totalInitialTokens_eq leftFormed rightFormed preserves tokens total
  have transitions := transitionProfiles_eq leftFormed rightFormed preserves tokens steady
  obtain ⟨placeCount, transitionCount, arcCount⟩ := lengths
  unfold Signature.ofNet at profiles transitions ⊢
  simp only [Signature.mk.injEq]
  exact ⟨placeCount, transitionCount, arcCount, total, profiles, transitions⟩

/-- The exchange and the trade have one signature, though declared in different orders. -/
theorem equivalent_of_isIsomorphism_trade :
    let c : Correspondence := ⟨[("coin", "penny"), ("note", "bill")], [("change", "swap")]⟩
    ∃ left right, Net.ofDocument exchange = .ok left ∧ Net.ofDocument trade = .ok right ∧
      c.isIsomorphism left right = true ∧ c.KeepsTokens left right ∧
      (SignatureComparison.ofNets left right).equivalent = true := by
  intro c
  obtain ⟨left, right, validLeft, validRight, passes, tokens, total, steady⟩ :
      ∃ left right, Net.ofDocument exchange = .ok left ∧ Net.ofDocument trade = .ok right ∧
        c.isIsomorphism left right = true ∧ c.KeepsTokens left right ∧
        Number.Steady (left.places.map Place.initialTokens) ∧
        ∀ transition ∈ left.transitions, Number.Steady (left.inputTerms transition.id) := by
    refine ⟨_, _, rfl, rfl, by decide, ?_, by decide, by decide⟩
    unfold KeepsTokens
    decide
  refine ⟨left, right, validLeft, validRight, passes, tokens, ?_⟩
  exact ((equivalent_of_isIsomorphism validLeft validRight passes).2 tokens).2 total steady

/-- Three accounts in a given order. -/
def accounts (order : List (String × Int)) : Document where
  name := "accounts"
  version := "1"
  places := order.map fun account => ⟨account.1, .token, .int account.2, true, none⟩
  transitions := []
  arcs := []
  invariants := []

/-- Isomorphic nets with different signatures: a gift that exceeds the bounds before a debt is paid
is lost, while after it is not. -/
theorem isIsomorphism_without_equivalence :
    let sameNames : Correspondence :=
      ⟨[("cash", "cash"), ("debt", "debt"), ("gift", "gift")], []⟩
    ∃ giftFirst debtFirst,
      Net.ofDocument (accounts [("cash", Number.greatest), ("gift", 1), ("debt", -1)]) =
        .ok giftFirst ∧
      Net.ofDocument (accounts [("cash", Number.greatest), ("debt", -1), ("gift", 1)]) =
        .ok debtFirst ∧
      sameNames.isIsomorphism giftFirst debtFirst = true ∧
      sameNames.KeepsTokens giftFirst debtFirst ∧
      (SignatureComparison.ofNets giftFirst debtFirst).equivalent = false := by
  intro sameNames
  obtain ⟨giftFirst, debtFirst, validGift, validDebt, passes, tokens, differ⟩ :
      ∃ giftFirst debtFirst,
        Net.ofDocument (accounts [("cash", Number.greatest), ("gift", 1), ("debt", -1)]) =
          .ok giftFirst ∧
        Net.ofDocument (accounts [("cash", Number.greatest), ("debt", -1), ("gift", 1)]) =
          .ok debtFirst ∧
        sameNames.isIsomorphism giftFirst debtFirst = true ∧
        sameNames.KeepsTokens giftFirst debtFirst ∧
        giftFirst.totalInitialTokens ≠ debtFirst.totalInitialTokens := by
    refine ⟨_, _, rfl, rfl, by decide, ?_, by decide⟩
    unfold KeepsTokens
    decide
  refine ⟨giftFirst, debtFirst, validGift, validDebt, passes, tokens, ?_⟩
  rw [Bool.eq_false_iff]
  intro same
  exact differ (congrArg Signature.totalInitialTokens (Signature.equivalent_iff.1 same))

end Correspondence

end GuardedNet
