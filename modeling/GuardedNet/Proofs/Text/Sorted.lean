import Mathlib.Data.String.Basic
import GuardedNet.Text.Sorted

/-!
# Sorting forgets the order

A sorted list depends on its items alone, not on the order in which they were given
(`mergeSort_eq_of_perm`), for every order in which items that do not come after one another are
the same. Texts and sequences of texts have such orders. Among texts in increasing order a text
can be found by halves (`Text.bisect?_eq_some_iff`).
-/

namespace GuardedNet

/-- Two lists with the same items give one sorted list. -/
theorem mergeSort_eq_of_perm {α : Type} {le : α → α → Bool}
    (trans : ∀ a b c, le a b = true → le b c = true → le a c = true)
    (total : ∀ a b, (le a b || le b a) = true) {items others : List α}
    (antisymm : ∀ a ∈ items, ∀ b ∈ others, le a b = true → le b a = true → a = b)
    (perm : items.Perm others) : items.mergeSort le = others.mergeSort le := by
  refine List.Perm.eq_of_pairwise (fun a b here there => ?_)
    (List.pairwise_mergeSort trans total items) (List.pairwise_mergeSort trans total others) ?_
  · exact antisymm a ((List.mergeSort_perm ..).mem_iff.1 here) b
      ((List.mergeSort_perm ..).mem_iff.1 there)
  · exact (List.mergeSort_perm ..).trans (perm.trans (List.mergeSort_perm ..).symm)

namespace Text

theorem isSortedPair_iff {a b : String} : isSortedPair a b = true ↔ a ≤ b := by
  rw [isSortedPair, Bool.not_eq_true', decide_eq_false_iff_not, not_lt]

theorem isSortedPair_trans (a b c : String) (ab : isSortedPair a b = true)
    (bc : isSortedPair b c = true) : isSortedPair a c = true := by
  rw [isSortedPair_iff] at *
  exact ab.trans bc

theorem isSortedPair_total (a b : String) : (isSortedPair a b || isSortedPair b a) = true := by
  rw [Bool.or_eq_true, isSortedPair_iff, isSortedPair_iff]
  exact le_total a b

/-- The order of texts in a sorted list does not depend on the order before. -/
theorem sorted_eq_of_perm {texts others : List String} (perm : texts.Perm others) :
    sorted texts = sorted others := by
  refine mergeSort_eq_of_perm isSortedPair_trans isSortedPair_total ?_ perm
  intro a _ b _ ab ba
  rw [isSortedPair_iff] at ab ba
  exact le_antisymm ab ba

/-- Distinct texts are sorted into strictly increasing order. -/
theorem pairwise_sorted {texts : List String} (distinct : texts.Nodup) :
    (sorted texts).Pairwise (· < ·) := by
  have ordered := List.pairwise_mergeSort isSortedPair_trans isSortedPair_total texts
  have distinct : (sorted texts).Nodup := (List.mergeSort_perm texts _).nodup_iff.2 distinct
  refine (ordered.and distinct).imp ?_
  rintro a b ⟨ab, apart⟩
  exact lt_of_le_of_ne (isSortedPair_iff.1 ab) apart

/-- Of two sequences the first texts decide, if they differ. -/
theorem isSortedListPair_cons {a b : String} {as bs : List String} :
    isSortedListPair (a :: as) (b :: bs) = true ↔
      a < b ∨ a = b ∧ isSortedListPair as bs = true := by
  rw [isSortedListPair]
  split
  · rename_i same
    subst same
    exact ⟨fun later => Or.inr ⟨rfl, later⟩,
      fun either => either.elim (fun less => absurd less (lt_irrefl a)) (·.2)⟩
  · rename_i differ
    rw [decide_eq_true_iff]
    exact ⟨Or.inl, fun either => either.elim id fun same => absurd same.1 differ⟩

theorem isSortedListPair_total (a b : List String) :
    (isSortedListPair a b || isSortedListPair b a) = true := by
  induction a generalizing b with
  | nil => rfl
  | cons first a ih =>
    cases b with
    | nil => rfl
    | cons other b =>
      rw [Bool.or_eq_true, isSortedListPair_cons, isSortedListPair_cons]
      rcases lt_trichotomy first other with less | rfl | more
      · exact Or.inl (Or.inl less)
      · rcases Bool.or_eq_true_iff.1 (ih b) with later | later
        · exact Or.inl (Or.inr ⟨rfl, later⟩)
        · exact Or.inr (Or.inr ⟨rfl, later⟩)
      · exact Or.inr (Or.inl more)

theorem isSortedListPair_trans (a b c : List String) (ab : isSortedListPair a b = true)
    (bc : isSortedListPair b c = true) : isSortedListPair a c = true := by
  induction a generalizing b c with
  | nil => rfl
  | cons first a ih =>
    cases b with
    | nil => cases ab
    | cons second b =>
      cases c with
      | nil => cases bc
      | cons third c =>
        rw [isSortedListPair_cons] at ab bc ⊢
        rcases ab with less | ⟨rfl, ab⟩
        · rcases bc with less' | ⟨rfl, -⟩
          · exact Or.inl (less.trans less')
          · exact Or.inl less
        · rcases bc with less' | ⟨rfl, bc⟩
          · exact Or.inl less'
          · exact Or.inr ⟨rfl, ih b c ab bc⟩

theorem isSortedListPair_antisymm {a b : List String} (ab : isSortedListPair a b = true)
    (ba : isSortedListPair b a = true) : a = b := by
  induction a generalizing b with
  | nil =>
    cases b with
    | nil => rfl
    | cons other b => cases ba
  | cons first a ih =>
    cases b with
    | nil => cases ab
    | cons other b =>
      rw [isSortedListPair_cons] at ab ba
      rcases ab with less | ⟨rfl, ab⟩
      · rcases ba with more | ⟨rfl, -⟩
        · exact absurd more (lt_asymm less)
        · exact absurd less (lt_irrefl _)
      · rcases ba with more | ⟨-, ba⟩
        · exact absurd more (lt_irrefl _)
        · rw [ih ab ba]

/-! ### Searching by halves -/

/-- Halves the texts from `base` on, of which there are `size`, until one is left, and goes on with
the upper half unless the text comes before all of it. -/
def halve (texts : List String) (text : String) (base size : Nat) : Nat :=
  if 1 < size then
    if text < texts[base + size / 2]?.getD "" then halve texts text base (size - size / 2)
    else halve texts text (base + size / 2) (size - size / 2)
  else base
termination_by size

/-- The position of a text among texts in increasing order, searched for by halves. -/
def bisect? (texts : List String) (text : String) : Option Nat :=
  let found := halve texts text 0 texts.length
  if texts[found]? = some text then some found else none

/-- Where the text is among those left, it is the last that is left. -/
theorem halve_eq {texts : List String} (ordered : texts.Pairwise (· < ·)) {text : String}
    {base size i : Nat} (inside : base + size ≤ texts.length) (here : texts[i]? = some text)
    (least : base ≤ i) (most : i < base + size) : halve texts text base size = i := by
  obtain ⟨iInside, atI⟩ := List.getElem?_eq_some_iff.1 here
  have increasing := List.pairwise_iff_getElem.1 ordered
  fun_induction halve texts text base size with
  | case1 base size large before ih =>
    have middleInside : base + size / 2 < texts.length := by omega
    rw [List.getElem?_eq_getElem middleInside, Option.getD_some] at before
    -- the text does not stand in the upper half, whose first text it comes before
    have below : i < base + size / 2 := by
      refine Nat.lt_of_not_le fun above => ?_
      rcases Nat.lt_or_eq_of_le above with above | same
      · have after := increasing _ _ middleInside iInside above
        rw [atI] at after
        exact lt_asymm before after
      · subst same
        rw [atI] at before
        exact lt_irrefl _ before
    exact ih (by omega) least (by omega)
  | case2 base size large before ih =>
    have middleInside : base + size / 2 < texts.length := by omega
    rw [List.getElem?_eq_getElem middleInside, Option.getD_some] at before
    have above : base + size / 2 ≤ i := by
      refine Nat.le_of_not_lt fun below => before ?_
      have after := increasing _ _ iInside middleInside below
      rwa [atI] at after
    exact ih (by omega) above (by omega)
  | case3 base size small => omega

/-- A search by halves finds a text exactly where it stands. -/
theorem bisect?_eq_some_iff {texts : List String} (ordered : texts.Pairwise (· < ·))
    {text : String} {i : Nat} : bisect? texts text = some i ↔ texts[i]? = some text := by
  unfold bisect?
  constructor
  · intro found
    dsimp only at found
    split at found
    · rename_i here
      rwa [← Option.some.inj found]
    · cases found
  · intro here
    have inside := (List.getElem?_eq_some_iff.1 here).1
    have found : halve texts text 0 texts.length = i :=
      halve_eq ordered (by omega) here (Nat.zero_le i) (by omega)
    rw [found, if_pos here]

end Text

end GuardedNet
