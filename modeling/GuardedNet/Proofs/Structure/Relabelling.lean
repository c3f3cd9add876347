import Mathlib.Data.Set.Function
import GuardedNet.Proofs.Net.Faults
import GuardedNet.Proofs.Structure.Signature

/-!
# Signatures of relabelled nets

New ids for the places and transitions of a document, and its lists in any other order. Such a
document is sound again (`Document.Relabels.sound`), and the ids and their new ids are a
correspondence that preserves the net (`Document.Relabels.preserves`). Main statement: without
negative numbers of tokens no sum of a signature depends on the order of its terms, so that the
signature stays the same (`Document.Relabels.signature_eq`).
-/

namespace GuardedNet

/-- The place with a new id. -/
def Place.renamed (rename : String → String) (place : Place) : Place :=
  { place with id := rename place.id }

/-- The arc between the new ids of its ends. -/
def Arc.renamed (rename : String → String) (arc : Arc) : Arc :=
  { arc with source := rename arc.source, target := rename arc.target }

namespace Document

/-- The ids of the places and the transitions. -/
def ids (d : Document) : List String := d.placeIds ++ d.transitionIds

/-- The second document has the places, transitions and arcs of the first by new ids, in any order.
Guards and conditions may be rewritten for the new ids. -/
structure Relabels (d : Document) (rename : String → String) (d' : Document) : Prop where
  places : d'.places.Perm (d.places.map (Place.renamed rename))
  transitions : d'.transitionIds.Perm (d.transitionIds.map rename)
  arcs : d'.arcs.Perm (d.arcs.map (Arc.renamed rename))
  invariants : d'.invariantIds = d.invariantIds

/-- New ids for the elements of a document: no two have one, and none is empty. -/
structure Renames (d : Document) (rename : String → String) : Prop where
  injective : Set.InjOn rename {id | id ∈ d.ids}
  nonempty : ∀ id ∈ d.ids, rename id ≠ ""

namespace Relabels

variable {d d' : Document} {rename : String → String} (relabels : d.Relabels rename d')
include relabels

theorem placeIds : d'.placeIds.Perm (d.placeIds.map rename) := by
  have ids := relabels.places.map (·.id)
  rw [List.map_map] at ids
  rw [Document.placeIds, Document.placeIds, List.map_map]
  exact ids

theorem exists_place {image : Place} (member : image ∈ d'.places) :
    ∃ place ∈ d.places, place.renamed rename = image :=
  List.mem_map.1 (relabels.places.mem_iff.1 member)

section

variable (renames : d.Renames rename)
include renames

/-- A relabelled document is sound again. -/
theorem sound (sound : d.Sound) : d'.Sound := by
  have fresh : ∀ ids ⊆ d.ids, ids.Nodup → (ids.map rename).Nodup ∧ "" ∉ ids.map rename := by
    intro ids among distinct
    constructor
    · exact distinct.map_on fun a here b there => renames.injective (among here) (among there)
    · intro empty
      obtain ⟨id, here, isEmpty⟩ := List.mem_map.1 empty
      exact renames.nonempty id (among here) isEmpty
  have places := fresh d.placeIds (List.subset_append_left _ _) sound.placeIds.1
  have transitions := fresh d.transitionIds (List.subset_append_right _ _) sound.transitionIds.1
  constructor
  · rwa [relabels.placeIds.nodup_iff, relabels.placeIds.mem_iff]
  · rwa [relabels.transitions.nodup_iff, relabels.transitions.mem_iff]
  · rw [relabels.invariants]
    exact sound.invariantIds
  · intro id isTransition isPlace
    rw [relabels.transitions.mem_iff, List.mem_map] at isTransition
    rw [relabels.placeIds.mem_iff, List.mem_map] at isPlace
    obtain ⟨transition, here, rfl⟩ := isTransition
    obtain ⟨place, there, same⟩ := isPlace
    have one := renames.injective (List.mem_append_left _ there) (List.mem_append_right _ here) same
    exact sound.apart transition here (one ▸ there)
  · -- only the id of a transition is kept, so that its image is found by the new id
    intro arc member
    obtain ⟨origin, here, rfl⟩ := List.mem_map.1 (relabels.arcs.mem_iff.1 member)
    obtain ⟨place, isPlace, transition, isTransition, ends, keyed⟩ := sound.arcs origin here
    obtain ⟨image, isImage, named⟩ : ∃ image ∈ d'.transitions, image.id = rename transition.id :=
      List.mem_map.1 (relabels.transitions.mem_iff.2 (List.mem_map_of_mem
        (List.mem_map_of_mem isTransition)))
    refine ⟨place.renamed rename, relabels.places.mem_iff.2 (List.mem_map_of_mem isPlace), image,
      isImage, ?_, keyed⟩
    have renamedEnds : (origin.renamed rename).ends =
      (rename origin.ends.1, rename origin.ends.2) := rfl
    rw [named, renamedEnds]
    rcases ends with ends | ends
    · exact Or.inl (by rw [ends]; rfl)
    · exact Or.inr (by rw [ends]; rfl)

end

end Relabels

/-- The ids of a document with their new ids. -/
def correspondence (d : Document) (rename : String → String) : Correspondence :=
  ⟨d.placeIds.map fun id => (id, rename id), d.transitionIds.map fun id => (id, rename id)⟩

end Document

namespace Correspondence

theorem pairsOff_map {ids images : List String} {rename : String → String}
    (perm : images.Perm (ids.map rename)) :
    PairsOff (ids.map fun id => (id, rename id)) ids images := by
  constructor
  · rw [Dictionary.keys, List.map_map]
    exact .of_eq (List.map_id ids)
  · rw [Correspondence.images, List.map_map]
    exact perm.symm

theorem get?_map_iff {ids : List String} (distinct : ids.Nodup) {rename : String → String}
    {id image : String} :
    Dictionary.get? id (ids.map fun id => (id, rename id)) = some image ↔
      id ∈ ids ∧ rename id = image := by
  have keys : (Dictionary.keys (ids.map fun id => (id, rename id))).Nodup := by
    simpa [Dictionary.keys, Function.comp_def] using distinct
  rw [Dictionary.get?_eq_some_iff keys]
  simp

end Correspondence

namespace Document.Relabels

open Correspondence

variable {net net' : Net} {rename : String → String}
  (relabels : net.document.Relabels rename net'.document) (formed : net.WellFormed)
include relabels formed

/-- The images of the arcs are the arcs with new ids. -/
theorem filterMap_imageEnds? :
    net.arcs.filterMap (net.document.correspondence rename).imageEnds? =
      net.arcs.map fun arc => (arc.renamed rename).ends := by
  have places : PairsOff (net.document.correspondence rename).places (net.places.map (·.id))
    (net'.places.map (·.id)) := pairsOff_map relabels.placeIds
  have transitions : PairsOff (net.document.correspondence rename).transitions
    (net.transitions.map (·.id)) (net'.transitions.map (·.id)) := pairsOff_map relabels.transitions
  have place : ∀ id ∈ net.places.map (·.id),
      (net.document.correspondence rename).image? id = some (rename id) := by
    intro id isPlace
    rw [image?_eq_some_iff formed places transitions]
    exact Or.inl ((get?_map_iff formed.placeIds).2 ⟨isPlace, rfl⟩)
  have transition : ∀ id ∈ net.transitions.map (·.id),
      (net.document.correspondence rename).image? id = some (rename id) := by
    intro id isTransition
    rw [image?_eq_some_iff formed places transitions]
    exact Or.inr ((get?_map_iff formed.transitionIds).2 ⟨isTransition, rfl⟩)
  rw [← List.filterMap_eq_map]
  apply List.filterMap_congr
  intro arc member
  rw [Function.comp_apply, imageEnds?_eq_some_iff]
  rcases formed.ends_cases member with ⟨source, target⟩ | ⟨source, target⟩
  · exact ⟨place _ source, transition _ target⟩
  · exact ⟨transition _ source, place _ target⟩

variable (renames : net.document.Renames rename)
include renames

/-- A place and the place with its new id differ in nothing else. -/
theorem renamed_eq {place image : Place} (member : place ∈ net.places)
    (member' : image ∈ net'.places)
    (takes : Dictionary.get? place.id (net.document.correspondence rename).places =
      some image.id) : place.renamed rename = image := by
  obtain ⟨isPlace, named⟩ := (get?_map_iff formed.placeIds).1 takes
  obtain ⟨origin, here, rfl⟩ := relabels.exists_place member'
  have sameId : place.id = origin.id := by
    apply renames.injective
    · exact List.mem_append_left _ isPlace
    · exact List.mem_append_left _ (List.mem_map_of_mem here)
    · exact named
  rw [List.inj_on_of_nodup_map formed.placeIds member here sameId]

/-- The ids and their new ids are a correspondence that preserves the net. -/
theorem preserves : (net.document.correspondence rename).Preserves net net' where
  places := pairsOff_map relabels.placeIds
  transitions := pairsOff_map relabels.transitions
  arcs := by
    have ends := relabels.arcs.map Arc.ends
    rw [List.map_map] at ends
    rw [relabels.filterMap_imageEnds? formed]
    exact ends.symm
  initial place member image member' takes := by
    rw [← relabels.renamed_eq formed renames member member' takes]
    rfl

theorem keepsTokens : (net.document.correspondence rename).KeepsTokens net net' := by
  intro place member image member' takes
  rw [← relabels.renamed_eq formed renames member member' takes]
  exact Or.inl rfl

end Document.Relabels

/-! ### Signatures -/

/-- A net whose places all declare a number of tokens that is not negative. -/
def Net.HasNoDebt (net : Net) : Prop := ∀ place ∈ net.places, 0 ≤ place.initialTokens

theorem Net.steady_inputTerms {net : Net} (noDebt : net.HasNoDebt) (transition : String) :
    Number.Steady (net.inputTerms transition) := by
  apply Number.steady_of_nonneg
  intro term member
  obtain ⟨place, here, rfl⟩ := List.mem_map.1 member
  have count := Number.clamp_nonneg (Int.natCast_nonneg (net.arcCount place.id transition))
  exact Number.clamp_nonneg (Int.mul_nonneg count (noDebt place here))

namespace Document.Relabels

/-- A net without negative numbers of tokens may be relabelled at will: by new ids for its places
and transitions and with its lists in any order it is a net again, with the same signature. -/
theorem signature_eq {d d' : Document} {net : Net} (valid : Net.ofDocument d = .ok net)
    (noDebt : net.HasNoDebt) {rename : String → String} (renames : d.Renames rename)
    (relabels : d.Relabels rename d') :
    ∃ net', Net.ofDocument d' = .ok net' ∧ Signature.ofNet net = Signature.ofNet net' ∧
      (SignatureComparison.ofNets net net').equivalent = true ∧
      (SignatureComparison.ofNets net net').differences = [] := by
  have sound := relabels.sound renames (Net.exists_ofDocument_iff.1 ⟨net, valid⟩)
  obtain ⟨net', valid'⟩ := Net.exists_ofDocument_iff.2 sound
  have formed := Net.wellFormed_of_ofDocument valid
  have formed' := Net.wellFormed_of_ofDocument valid'
  obtain rfl := Net.document_of_ofDocument valid
  obtain rfl := Net.document_of_ofDocument valid'
  have preserves := relabels.preserves formed renames
  have tokens := relabels.keepsTokens formed renames
  -- terms of one sign reach the bound in every order or in none
  have steady : Number.Steady (net.places.map Place.initialTokens) := by
    apply Number.steady_of_nonneg
    intro term member
    obtain ⟨place, here, rfl⟩ := List.mem_map.1 member
    exact noDebt place here
  have total := Correspondence.totalInitialTokens_eq formed formed' preserves tokens steady
  have places := Correspondence.placeProfiles_eq formed formed' preserves tokens
  have transitions := Correspondence.transitionProfiles_eq formed formed' preserves tokens
    fun transition _ => net.steady_inputTerms noDebt transition.id
  obtain ⟨placeCount, transitionCount, arcCount⟩ := Correspondence.lengths_eq formed preserves
  have same : Signature.ofNet net = Signature.ofNet net' := by
    unfold Signature.ofNet at places transitions ⊢
    simp only [Signature.mk.injEq]
    exact ⟨placeCount, transitionCount, arcCount, total, places, transitions⟩
  exact ⟨net', valid', same, Signature.equivalent_iff.2 same,
    Signature.differences_eq_nil_iff.2 same⟩

end Document.Relabels

/-- As much gold as can be counted, some iron, and a transition that melts both. -/
def smelter : Document where
  name := "smelter"
  version := "1"
  places := [⟨"gold", .token, .int Number.greatest, true, none⟩,
    ⟨"iron", .token, .int 7, true, none⟩]
  transitions := [{ id := "melt", guard := none, rate := 1.0 }]
  arcs := [⟨"gold", "melt", [], none⟩, ⟨"gold", "melt", [], none⟩, ⟨"iron", "melt", [], none⟩,
    ⟨"melt", "iron", [], none⟩]
  invariants := []

/-- The two metals exchange their ids. -/
def alchemy (id : String) : String :=
  if id = "gold" then "iron" else if id = "iron" then "gold" else "cast"

/-- The smelter after the exchange, declared backwards. -/
def alloy : Document :=
  { smelter with
    places := (smelter.places.map (Place.renamed alchemy)).reverse
    transitions := [{ id := "cast", guard := none, rate := 1.0 }]
    arcs := (smelter.arcs.map (Arc.renamed alchemy)).reverse }

/-- The exchange is not noticed, though the tokens add up to more than can be counted. -/
theorem Document.Relabels.signature_eq_smelter :
    ∃ net, Net.ofDocument smelter = .ok net ∧ net.HasNoDebt ∧ smelter.Renames alchemy ∧
      smelter.Relabels alchemy alloy ∧
      ∃ net', Net.ofDocument alloy = .ok net' ∧ net'.totalInitialTokens = Number.greatest ∧
        (SignatureComparison.ofNets net net').equivalent = true := by
  obtain ⟨net, valid, noDebt, full⟩ : ∃ net, Net.ofDocument smelter = .ok net ∧ net.HasNoDebt ∧
      net.totalInitialTokens = Number.greatest := by
    refine ⟨_, rfl, ?_, by decide⟩
    unfold Net.HasNoDebt
    decide
  have renames : smelter.Renames alchemy := by
    have injective : ∀ a ∈ smelter.ids, ∀ b ∈ smelter.ids, alchemy a = alchemy b → a = b := by
      decide
    exact ⟨fun a here b there same => injective a here b there same, by decide⟩
  have relabels : smelter.Relabels alchemy alloy :=
    ⟨List.reverse_perm _, .refl _, List.reverse_perm _, rfl⟩
  obtain ⟨net', valid', same, equivalent, -⟩ := signature_eq valid noDebt renames relabels
  refine ⟨net, valid, noDebt, renames, relabels, net', valid', ?_, equivalent⟩
  rw [← full]
  exact (congrArg Signature.totalInitialTokens same).symm

end GuardedNet
