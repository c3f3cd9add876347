import Mathlib.Data.List.Perm.Subperm
import GuardedNet.Proofs.Dictionary
import GuardedNet.Proofs.Net.ById
import GuardedNet.Structure.Correspondence

/-!
# What the check of a correspondence decides

The check looks for ids without an image, for targets that are hit twice and for arcs that find
no arc left for them, and compares sizes. It looks neither for targets that are not hit nor for
arcs the other way round: both follow by counting. Main statement: a correspondence passes
exactly if it is a bijection on places and on transitions that keeps the number of arcs between
any two elements and the initial value of every place (`Correspondence.isIsomorphism_iff`).
-/

namespace GuardedNet

namespace Correspondence

/-! ### Mappings -/

/-- The mapping takes the ids on the left one to one onto those on the right. -/
structure IsBijection (mapping : Dictionary String) (left right : List String) : Prop where
  distinct : (Dictionary.keys mapping).Nodup
  domain : ∀ id, id ∈ left ↔ ∃ image, Dictionary.get? id mapping = some image
  range : ∀ image, image ∈ right ↔ ∃ id, Dictionary.get? id mapping = some image
  injective : ∀ {id other image}, Dictionary.get? id mapping = some image →
    Dictionary.get? other mapping = some image → id = other

/-- The images of a mapping, in the order of its entries. -/
def images (mapping : Dictionary String) : List String := mapping.map (·.2)

theorem length_preimage (mapping : Dictionary String) (target : String) :
    (preimage mapping target).length = (images mapping).count target := by
  rw [preimage, List.length_map, ← List.countP_eq_length_filter, images, List.count,
    List.countP_map]
  rfl

/-- A mapping has no faults exactly if it is defined on the left, leads from the left to the right
and has no image twice. -/
theorem mappingFaults_eq_nil_iff {kind : ElementKind} {left right : List String}
    {mapping : Dictionary String} :
    mappingFaults kind left right mapping = [] ↔
      left ⊆ Dictionary.keys mapping ∧
      (Dictionary.keys mapping ⊆ left ∧ images mapping ⊆ right) ∧ (images mapping).Nodup := by
  unfold mappingFaults
  rw [List.append_eq_nil_iff, List.append_eq_nil_iff, and_assoc]
  refine and_congr ?_ (and_congr ?_ ?_)
  · rw [List.map_eq_nil_iff, List.filter_eq_nil_iff]
    refine forall₂_congr fun id _ => ?_
    rw [← Dictionary.contains_iff]
    simp
  · simp only [List.flatMap_eq_nil_iff, List.append_eq_nil_iff, ite_eq_left_iff, reduceCtorEq,
      imp_false, not_not, List.contains_iff_mem]
    constructor
    · intro each
      refine ⟨fun id member => ?_, fun id member => ?_⟩
      · obtain ⟨entry, here, rfl⟩ := List.mem_map.1 member
        exact (each entry here).1
      · obtain ⟨entry, here, rfl⟩ := List.mem_map.1 member
        exact (each entry here).2
    · rintro ⟨sources, targets⟩ entry here
      exact ⟨sources (List.mem_map_of_mem here), targets (List.mem_map_of_mem here)⟩
  · rw [List.filterMap_eq_nil_iff, List.nodup_iff_count_le_one]
    have isTarget : ∀ target, target ∈
        Dictionary.keys (Dictionary.ofPairs (mapping.map fun entry => (entry.2, ()))) ↔
          target ∈ images mapping := by
      intro target
      rw [Dictionary.mem_keys_ofPairs, List.map_map]
      rfl
    constructor
    · intro each target
      by_cases hit : target ∈ images mapping
      · have single := each target ((isTarget target).2 hit)
        rw [← length_preimage]
        simpa using single
      · rw [List.count_eq_zero_of_not_mem hit]
        exact Nat.zero_le 1
    · intro each target _
      have single := each target
      rw [← length_preimage] at single
      simpa using single

/-- The keys and the images of a mapping are the ids on both sides, each once. -/
structure PairsOff (mapping : Dictionary String) (left right : List String) : Prop where
  keys : (Dictionary.keys mapping).Perm left
  images : (images mapping).Perm right

section

variable {mapping : Dictionary String} {left right : List String}

/-- Of lists of one length the left one is covered by the keys and the images are covered by the
right one, so that neither has anything to spare. -/
theorem pairsOff_iff (leftIds : left.Nodup) (rightIds : right.Nodup) {kind : ElementKind} :
    PairsOff mapping left right ↔
      mappingFaults kind left right mapping = [] ∧ left.length = right.length := by
  have sameLength : (Dictionary.keys mapping).length = (images mapping).length := by
    simp [Dictionary.keys, images]
  rw [mappingFaults_eq_nil_iff]
  constructor
  · rintro ⟨keys, images⟩
    refine ⟨⟨keys.symm.subset, ⟨keys.subset, images.subset⟩, images.nodup_iff.2 rightIds⟩, ?_⟩
    rw [← keys.length_eq, sameLength, images.length_eq]
  · rintro ⟨⟨covered, ⟨-, inside⟩, distinct⟩, sizes⟩
    have some : left.Subperm (Dictionary.keys mapping) := leftIds.subperm covered
    have atMost : (images mapping).Subperm right := distinct.subperm inside
    have fewer := some.length_le
    have fewer' := atMost.length_le
    exact ⟨(some.perm_of_length_le (by omega)).symm, atMost.perm_of_length_le (by omega)⟩

namespace PairsOff

variable (pairs : PairsOff mapping left right) (leftIds : left.Nodup)
include pairs leftIds

theorem distinct : (Dictionary.keys mapping).Nodup := pairs.keys.nodup_iff.2 leftIds

omit leftIds in
theorem domain (id : String) : id ∈ left ↔ ∃ image, Dictionary.get? id mapping = some image := by
  rw [← pairs.keys.mem_iff, Dictionary.mem_keys_iff]

theorem range (image : String) :
    image ∈ right ↔ ∃ id, Dictionary.get? id mapping = some image := by
  simp only [← pairs.images.mem_iff, Dictionary.get?_eq_some_iff (pairs.distinct leftIds)]
  simp [Correspondence.images]

theorem injective (rightIds : right.Nodup) {id other image : String}
    (here : Dictionary.get? id mapping = some image)
    (there : Dictionary.get? other mapping = some image) : id = other := by
  rw [Dictionary.get?_eq_some_iff (pairs.distinct leftIds)] at here there
  have apart := List.inj_on_of_nodup_map (pairs.images.nodup_iff.2 rightIds)
  exact congrArg Prod.fst (apart here there rfl)

theorem isBijection (rightIds : right.Nodup) : IsBijection mapping left right :=
  ⟨pairs.distinct leftIds, pairs.domain, pairs.range leftIds, pairs.injective leftIds rightIds⟩

end PairsOff

theorem pairsOff_of_isBijection (leftIds : left.Nodup) (rightIds : right.Nodup)
    (bijection : IsBijection mapping left right) : PairsOff mapping left right := by
  have reads (id image : String) :
      Dictionary.get? id mapping = some image ↔ (id, image) ∈ mapping :=
    Dictionary.get?_eq_some_iff bijection.distinct
  have distinctImages : (images mapping).Nodup := by
    refine List.Nodup.map_on ?_ (List.Nodup.of_map _ bijection.distinct)
    rintro ⟨id, image⟩ here ⟨other, image'⟩ there same
    obtain rfl : image = image' := same
    rw [bijection.injective ((reads _ _).2 here) ((reads _ _).2 there)]
  constructor
  · refine (List.perm_ext_iff_of_nodup bijection.distinct leftIds).2 fun id => ?_
    rw [bijection.domain, Dictionary.mem_keys_iff]
  · refine (List.perm_ext_iff_of_nodup distinctImages rightIds).2 fun image => ?_
    simp [bijection.range, reads, images]

end

/-! ### Arcs -/

/-- The correspondence takes an id to another, as a place or as a transition. -/
def Takes (c : Correspondence) (id image : String) : Prop :=
  Dictionary.get? id c.places = some image ∨ Dictionary.get? id c.transitions = some image

/-- The images of the ends of an arc. -/
def imageEnds? (c : Correspondence) (arc : Arc) : Option (String × String) :=
  match c.image? arc.source, c.image? arc.target with
  | some source, some target => some (source, target)
  | _, _ => none

theorem imageEnds?_eq_some_iff {c : Correspondence} {arc : Arc} {ends : String × String} :
    c.imageEnds? arc = some ends ↔
      c.image? arc.source = some ends.1 ∧ c.image? arc.target = some ends.2 := by
  unfold imageEnds?
  split
  · rename_i source target isSource isTarget
    rw [isSource, isTarget]
    simp [Prod.ext_iff]
  · rename_i missing
    refine ⟨fun found => (by cases found), fun found => ?_⟩
    exact absurd found.2 (missing _ _ found.1)

/-- No arc is missed exactly if the available arcs contain the images, each as often as it is
needed. -/
theorem arcFaults_eq_nil_iff (c : Correspondence) (available : List (String × String))
    (arcs : List Arc) :
    c.arcFaults available arcs = [] ↔ (arcs.filterMap c.imageEnds?).Subperm available := by
  induction arcs generalizing available with
  | nil => simp [arcFaults]
  | cons arc arcs ih =>
    rw [arcFaults]
    split
    · rename_i source target isSource isTarget
      have image : c.imageEnds? arc = some (source, target) :=
        imageEnds?_eq_some_iff.2 ⟨isSource, isTarget⟩
      rw [List.filterMap_cons_some image]
      split
      · rename_i there
        -- the arc that is used up stands in front of the rest
        rw [ih, ← List.subperm_cons (source, target)]
        exact (List.perm_cons_erase there).symm.subperm_left
      · rename_i absent
        refine ⟨fun none => (by cases none), fun some => ?_⟩
        exact absurd (some.subset (List.mem_cons_self ..)) absent
    · rename_i missing
      have none : c.imageEnds? arc = none := by
        cases image : c.imageEnds? arc with
        | none => rfl
        | some ends =>
          obtain ⟨isSource, isTarget⟩ := imageEnds?_eq_some_iff.1 image
          exact absurd isTarget (missing _ _ isSource)
      rw [List.filterMap_cons_none none]
      exact ih available

/-! ### The check -/

/-- Places and transitions are paired off, the images of the arcs on the left are the arcs on the
right in some order, and places have the initial values of their images. -/
structure Preserves (c : Correspondence) (left right : Net) : Prop where
  places : PairsOff c.places (left.places.map (·.id)) (right.places.map (·.id))
  transitions : PairsOff c.transitions (left.transitions.map (·.id)) (right.transitions.map (·.id))
  arcs : (left.arcs.filterMap c.imageEnds?).Perm (right.arcs.map Arc.ends)
  initial : ∀ place ∈ left.places, ∀ image ∈ right.places,
    Dictionary.get? place.id c.places = some image.id → place.initial = image.initial

theorem sizeFault_eq_nil_iff {kind : ElementKind} {left right : Nat} :
    sizeFault kind left right = [] ↔ left = right := by
  unfold sizeFault
  split <;> simp_all

section

variable {c : Correspondence} {left right : Net} (leftFormed : left.WellFormed)
  (rightFormed : right.WellFormed)

include rightFormed in
/-- A place has no fault exactly if it has the initial value of its image. -/
theorem initialFault_eq_nil_iff {place : Place} :
    c.initialFault right place = [] ↔ ∀ image ∈ right.places,
      Dictionary.get? place.id c.places = some image.id → place.initial = image.initial := by
  have distinct := List.inj_on_of_nodup_map rightFormed.placeIds
  unfold initialFault
  split
  · rename_i image found
    obtain ⟨id, taken, found⟩ := Option.bind_eq_some_iff.1 found
    have named : image.id = id := by simpa using List.find?_some found
    have member := List.mem_of_find?_eq_some found
    constructor
    · intro none other there takes
      have same : image = other := by
        apply distinct member there
        rw [named]
        exact Option.some.inj (taken.symm.trans takes)
      rw [← same]
      by_contra differ
      simp [differ] at none
    · intro each
      rw [if_pos (each image member (by rw [taken, named]))]
  · rename_i missing
    refine ⟨fun _ image member takes => ?_, fun _ => rfl⟩
    rw [takes] at missing
    exact absurd (List.find?_eq_none.1 missing image member) (by simp)

variable (places : PairsOff c.places (left.places.map (·.id)) (right.places.map (·.id)))
  (transitions : PairsOff c.transitions (left.transitions.map (·.id))
    (right.transitions.map (·.id)))
include leftFormed places transitions

/-- No id is in both mappings, so that it does not matter which is asked first. -/
theorem image?_eq_some_iff {id image : String} :
    c.image? id = some image ↔ c.Takes id image := by
  unfold image? Takes
  split
  · rename_i found
    have isPlace := (places.domain id).2 ⟨_, found⟩
    have notTransition : Dictionary.get? id c.transitions ≠ some image := fun taken =>
      leftFormed.idsApart id ((transitions.domain id).2 ⟨_, taken⟩) isPlace
    simp [found, notTransition]
  · rename_i missing
    simp [missing]

theorem exists_imageEnds? {arc : Arc} (member : arc ∈ left.arcs) :
    ∃ ends, c.imageEnds? arc = some ends := by
  have image : ∀ id, id ∈ left.places.map (·.id) ∨ id ∈ left.transitions.map (·.id) →
      ∃ image, c.image? id = some image := by
    rintro id (isPlace | isTransition)
    · obtain ⟨image, taken⟩ := (places.domain id).1 isPlace
      exact ⟨image, (image?_eq_some_iff leftFormed places transitions).2 (Or.inl taken)⟩
    · obtain ⟨image, taken⟩ := (transitions.domain id).1 isTransition
      exact ⟨image, (image?_eq_some_iff leftFormed places transitions).2 (Or.inr taken)⟩
  have ends := leftFormed.ends_cases member
  obtain ⟨source, isSource⟩ := image arc.source (by rcases ends with ends | ends <;> simp [ends])
  obtain ⟨target, isTarget⟩ := image arc.target (by rcases ends with ends | ends <;> simp [ends])
  exact ⟨(source, target), imageEnds?_eq_some_iff.2 ⟨isSource, isTarget⟩⟩

theorem length_imageEnds? : (left.arcs.filterMap c.imageEnds?).length = left.arcs.length := by
  rw [List.filterMap_length_eq_length]
  intro arc member
  obtain ⟨ends, image⟩ := exists_imageEnds? leftFormed places transitions member
  rw [image]
  rfl

end

/-- The check passes exactly if the correspondence preserves the net. -/
theorem isIsomorphism_iff_preserves {c : Correspondence} {left right : Net}
    (leftFormed : left.WellFormed) (rightFormed : right.WellFormed) :
    c.isIsomorphism left right = true ↔ c.Preserves left right := by
  rw [isIsomorphism, List.isEmpty_iff, faults]
  simp only [List.append_eq_nil_iff, and_assoc, sizeFault_eq_nil_iff, arcFaults_eq_nil_iff,
    List.flatMap_eq_nil_iff, initialFault_eq_nil_iff rightFormed]
  have placesIff := @pairsOff_iff c.places _ _ leftFormed.placeIds rightFormed.placeIds .place
  have transitionsIff :=
    @pairsOff_iff c.transitions _ _ leftFormed.transitionIds rightFormed.transitionIds .transition
  simp only [List.length_map] at placesIff transitionsIff
  constructor
  · rintro ⟨placeMap, transitionMap, placeCount, transitionCount, arcCount, arcs, initial⟩
    have places := placesIff.2 ⟨placeMap, placeCount⟩
    have transitions := transitionsIff.2 ⟨transitionMap, transitionCount⟩
    refine ⟨places, transitions, arcs.perm_of_length_le ?_, initial⟩
    rw [length_imageEnds? leftFormed places transitions, List.length_map]
    exact Nat.le_of_eq arcCount.symm
  · rintro ⟨places, transitions, arcs, initial⟩
    obtain ⟨placeMap, placeCount⟩ := placesIff.1 places
    obtain ⟨transitionMap, transitionCount⟩ := transitionsIff.1 transitions
    refine ⟨placeMap, transitionMap, placeCount, transitionCount, ?_, arcs.subperm, initial⟩
    rw [← length_imageEnds? leftFormed places transitions, arcs.length_eq, List.length_map]

/-! ### Numbers of arcs -/

section

variable {c : Correspondence} {left right : Net} (leftFormed : left.WellFormed)
  (rightFormed : right.WellFormed)
  (places : PairsOff c.places (left.places.map (·.id)) (right.places.map (·.id)))
  (transitions : PairsOff c.transitions (left.transitions.map (·.id))
    (right.transitions.map (·.id)))
include leftFormed rightFormed places transitions

/-- Neither two places, nor two transitions, nor a place and a transition have one image. -/
theorem takes_injective {id other image : String} (here : c.Takes id image)
    (there : c.Takes other image) : id = other := by
  have apart : ∀ {place transition}, Dictionary.get? place c.places = some image →
      Dictionary.get? transition c.transitions ≠ some image := by
    intro place transition isPlace isTransition
    exact rightFormed.idsApart image
      ((transitions.range leftFormed.transitionIds image).2 ⟨_, isTransition⟩)
      ((places.range leftFormed.placeIds image).2 ⟨_, isPlace⟩)
  rcases here with here | here <;> rcases there with there | there
  · exact places.injective leftFormed.placeIds rightFormed.placeIds here there
  · exact absurd there (apart here)
  · exact absurd here (apart there)
  · exact transitions.injective leftFormed.transitionIds rightFormed.transitionIds here there

/-- Between images lie the images of the arcs between the ids. -/
theorem count_imageEnds? {s t s' t' : String} (source : c.Takes s s') (target : c.Takes t t') :
    (left.arcs.filterMap c.imageEnds?).count (s', t') = left.arcCount s t := by
  have image := @image?_eq_some_iff c left right leftFormed places transitions
  have injective := @takes_injective c left right leftFormed rightFormed places transitions
  rw [List.count_filterMap, Net.arcCount, List.count, List.countP_map]
  refine List.countP_congr fun arc _ => ?_
  simp only [Function.comp_apply, beq_iff_eq, imageEnds?_eq_some_iff, image, Arc.ends,
    Prod.mk.injEq]
  constructor
  · rintro ⟨isSource, isTarget⟩
    exact ⟨injective isSource source, injective isTarget target⟩
  · rintro ⟨rfl, rfl⟩
    exact ⟨source, target⟩

/-- The images of the arcs are the arcs on the right exactly if there are as many between any two
images as between the ids, and none elsewhere. -/
theorem arcs_perm_iff :
    (left.arcs.filterMap c.imageEnds?).Perm (right.arcs.map Arc.ends) ↔
      (∀ s t s' t', c.Takes s s' → c.Takes t t' → left.arcCount s t = right.arcCount s' t') ∧
      ∀ arc ∈ right.arcs, ∃ origin ∈ left.arcs,
        c.Takes origin.source arc.source ∧ c.Takes origin.target arc.target := by
  have image := @image?_eq_some_iff c left right leftFormed places transitions
  have count := @count_imageEnds? c left right leftFormed rightFormed places transitions
  have isImage : ∀ ends, ends ∈ left.arcs.filterMap c.imageEnds? ↔
      ∃ origin ∈ left.arcs, c.Takes origin.source ends.1 ∧ c.Takes origin.target ends.2 := by
    intro ends
    simp only [List.mem_filterMap, imageEnds?_eq_some_iff, image]
  constructor
  · intro perm
    refine ⟨fun s t s' t' source target => ?_, fun arc member => ?_⟩
    · rw [← count source target, perm.count_eq]
      rfl
    · exact (isImage arc.ends).1 (perm.mem_iff.2 (List.mem_map_of_mem member))
  · rintro ⟨counts, covered⟩
    refine List.perm_iff_count.2 fun ends => ?_
    by_cases taken : ∃ s t, c.Takes s ends.1 ∧ c.Takes t ends.2
    · obtain ⟨s, t, source, target⟩ := taken
      exact (count source target).trans (counts s t _ _ source target)
    · -- neither side has an arc between ids that are not both images
      rw [List.count_eq_zero_of_not_mem, List.count_eq_zero_of_not_mem]
      · intro member
        obtain ⟨arc, there, rfl⟩ := List.mem_map.1 member
        obtain ⟨origin, -, ends⟩ := covered arc there
        exact taken ⟨_, _, ends⟩
      · intro member
        obtain ⟨origin, -, ends⟩ := (isImage ends).1 member
        exact taken ⟨_, _, ends⟩

end

/-- A correspondence between two nets passes the check exactly if it takes the places of the left
net one to one onto those of the right net, likewise the transitions, if there are as many arcs
between any two elements as between their images and no further arcs on the right, and if every
place has the initial value of its image. -/
theorem isIsomorphism_iff {d d' : Document} {left right : Net}
    (validLeft : Net.ofDocument d = .ok left) (validRight : Net.ofDocument d' = .ok right)
    (c : Correspondence) :
    c.isIsomorphism left right = true ↔
      IsBijection c.places (left.places.map (·.id)) (right.places.map (·.id)) ∧
      IsBijection c.transitions (left.transitions.map (·.id)) (right.transitions.map (·.id)) ∧
      ((∀ s t s' t', c.Takes s s' → c.Takes t t' → left.arcCount s t = right.arcCount s' t') ∧
        ∀ arc ∈ right.arcs, ∃ origin ∈ left.arcs,
          c.Takes origin.source arc.source ∧ c.Takes origin.target arc.target) ∧
      ∀ place ∈ left.places, ∀ image ∈ right.places,
        Dictionary.get? place.id c.places = some image.id → place.initial = image.initial := by
  have leftFormed := Net.wellFormed_of_ofDocument validLeft
  have rightFormed := Net.wellFormed_of_ofDocument validRight
  rw [isIsomorphism_iff_preserves leftFormed rightFormed]
  constructor
  · rintro ⟨places, transitions, arcs, initial⟩
    exact ⟨places.isBijection leftFormed.placeIds rightFormed.placeIds,
      transitions.isBijection leftFormed.transitionIds rightFormed.transitionIds,
      (arcs_perm_iff leftFormed rightFormed places transitions).1 arcs, initial⟩
  · rintro ⟨onPlaces, onTransitions, arcs, initial⟩
    have places := pairsOff_of_isBijection leftFormed.placeIds rightFormed.placeIds onPlaces
    have transitions :=
      pairsOff_of_isBijection leftFormed.transitionIds rightFormed.transitionIds onTransitions
    exact ⟨places, transitions, (arcs_perm_iff leftFormed rightFormed places transitions).2 arcs,
      initial⟩

/-- Two pennies for a bill: the exchange with other names, declared in another order. -/
def trade : Document where
  name := "trade"
  version := "1"
  places := [⟨"bill", .token, .int 0, true, none⟩, ⟨"penny", .token, .int 3, true, none⟩]
  transitions := [{ id := "swap", guard := none, rate := 1.0 }]
  arcs := [⟨"swap", "bill", [], none⟩, ⟨"penny", "swap", [], none⟩, ⟨"penny", "swap", [], none⟩]
  invariants := []

/-- The exchange is the trade by other names, and the names may not be crossed: two arcs leave the
coins and none leaves the bills. -/
theorem isIsomorphism_iff_trade :
    let c : Correspondence := ⟨[("coin", "penny"), ("note", "bill")], [("change", "swap")]⟩
    let crossed : Correspondence := ⟨[("coin", "bill"), ("note", "penny")], [("change", "swap")]⟩
    ∃ left right, Net.ofDocument exchange = .ok left ∧ Net.ofDocument trade = .ok right ∧
      c.isIsomorphism left right = true ∧
      left.arcCount "coin" "change" = right.arcCount "penny" "swap" ∧
      crossed.isIsomorphism left right = false := by
  intro c crossed
  obtain ⟨left, right, validLeft, validRight, passes, apart⟩ :
      ∃ left right, Net.ofDocument exchange = .ok left ∧ Net.ofDocument trade = .ok right ∧
        c.isIsomorphism left right = true ∧
        left.arcCount "coin" "change" ≠ right.arcCount "bill" "swap" :=
    ⟨_, _, rfl, rfl, by decide, by decide⟩
  obtain ⟨-, -, ⟨counts, -⟩, -⟩ := (isIsomorphism_iff validLeft validRight c).1 passes
  refine ⟨left, right, validLeft, validRight, passes, ?_, ?_⟩
  · exact counts "coin" "change" "penny" "swap" (Or.inl rfl) (Or.inr rfl)
  · rw [Bool.eq_false_iff]
    intro passes
    obtain ⟨-, -, ⟨counts, -⟩, -⟩ := (isIsomorphism_iff validLeft validRight crossed).1 passes
    exact apart (counts "coin" "change" "bill" "swap" (Or.inl rfl) (Or.inr rfl))

end Correspondence

end GuardedNet
