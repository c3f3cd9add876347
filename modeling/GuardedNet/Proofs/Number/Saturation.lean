import Mathlib.Algebra.BigOperators.Group.List.Basic
import Mathlib.Algebra.Order.Ring.Int
import GuardedNet.Number.Bounds

/-!
# Sums that stop at the bounds

A sum that is clamped after every term can depend on the order of the terms: what is lost at one
bound is not made up for by later terms of the other sign. Main statement: the order does not
matter exactly if the terms have one sign, or those of either sign together stay within the
bounds (`Number.steady_iff`), and then the sum is the exact one, clamped once.
-/

namespace GuardedNet.Number

/-- The sum of integers, clamped after each of them. -/
def saturated (terms : List Int) : Int :=
  terms.foldl (fun total term => clamp (total + term)) 0

/-- The sum of the positive terms. -/
def gains (terms : List Int) : Int := (terms.map (max · 0)).sum

/-- The sum of the negative terms. -/
def losses (terms : List Int) : Int := (terms.map (min · 0)).sum

/-- The terms have one sign, or those of either sign together stay within the bounds. -/
def Steady (terms : List Int) : Prop :=
  gains terms = 0 ∨ losses terms = 0 ∨ gains terms ≤ greatest ∧ least ≤ losses terms

instance (terms : List Int) : Decidable (Steady terms) :=
  inferInstanceAs (Decidable (_ ∨ _ ∨ _))

@[simp] theorem gains_cons (term : Int) (terms : List Int) :
    gains (term :: terms) = max term 0 + gains terms := by
  simp [gains]

@[simp] theorem losses_cons (term : Int) (terms : List Int) :
    losses (term :: terms) = min term 0 + losses terms := by
  simp [losses]

theorem gains_nonneg (terms : List Int) : 0 ≤ gains terms := by
  induction terms with
  | nil => exact Int.le_refl 0
  | cons term terms ih =>
    rw [gains_cons]
    omega

theorem losses_nonpos (terms : List Int) : losses terms ≤ 0 := by
  induction terms with
  | nil => exact Int.le_refl 0
  | cons term terms ih =>
    rw [losses_cons]
    omega

theorem Steady.perm {terms order : List Int} (steady : Steady terms) (perm : order.Perm terms) :
    Steady order := by
  have sameGains : gains order = gains terms := (perm.map _).sum_eq
  have sameLosses : losses order = losses terms := (perm.map _).sum_eq
  rwa [Steady, sameGains, sameLosses]

theorem steady_of_nonneg {terms : List Int} (nonneg : ∀ term ∈ terms, 0 ≤ term) :
    Steady terms := by
  refine Or.inr (Or.inl ?_)
  induction terms with
  | nil => rfl
  | cons term terms ih =>
    have first := nonneg term (List.mem_cons_self ..)
    have rest := ih fun other member => nonneg other (List.mem_cons_of_mem _ member)
    rw [losses_cons, rest]
    omega

theorem clamp_nonneg {n : Int} (nonneg : 0 ≤ n) : 0 ≤ clamp n := by
  unfold clamp least greatest
  omega

/-- From any bounded start the clamped sum is the exact one clamped once, if there are no gains, or
no losses, or neither leads out of the bounds. -/
theorem foldl_clamp {terms : List Int} {start : Int} (fits : Fits start)
    (steady : gains terms = 0 ∨ losses terms = 0 ∨
      start + gains terms ≤ greatest ∧ least ≤ start + losses terms) :
    terms.foldl (fun total term => clamp (total + term)) start =
      clamp (start + (gains terms + losses terms)) := by
  induction terms generalizing start with
  | nil =>
    simp only [List.foldl_nil, gains, losses, List.map_nil, List.sum_nil, clamp, least, greatest,
      Fits] at fits ⊢
    omega
  | cons term terms ih =>
    have up := gains_nonneg terms
    have down := losses_nonpos terms
    rw [gains_cons, losses_cons] at steady ⊢
    rw [List.foldl_cons, ih]
    all_goals simp only [clamp, least, greatest, Fits] at fits steady ⊢
    all_goals omega

/-- The clamped sum of steady terms is the exact one, clamped once. -/
theorem saturated_eq {terms : List Int} (steady : Steady terms) :
    saturated terms = clamp (gains terms + losses terms) := by
  rw [saturated, foldl_clamp (by decide), Int.zero_add]
  rwa [Int.zero_add, Int.zero_add]

theorem fits_clamp (n : Int) : Fits (clamp n) := by
  simp only [Fits, clamp, least, greatest]
  omega

/-- Terms of one sign and then terms of one sign are clamped twice at most. -/
theorem saturated_append {front back : List Int} (frontSign : gains front = 0 ∨ losses front = 0)
    (backSign : gains back = 0 ∨ losses back = 0) :
    saturated (front ++ back) =
      clamp (clamp (gains front + losses front) + (gains back + losses back)) := by
  have first : saturated front = clamp (gains front + losses front) :=
    saturated_eq (frontSign.imp_right Or.inl)
  rw [saturated, List.foldl_append]
  change back.foldl _ (saturated front) = _
  rw [first]
  exact foldl_clamp (fits_clamp _) (backSign.imp_right Or.inl)

theorem sums_filter (terms : List Int) :
    gains (terms.filter fun term => decide (0 ≤ term)) = gains terms ∧
      losses (terms.filter fun term => decide (0 ≤ term)) = 0 ∧
      gains (terms.filter fun term => !decide (0 ≤ term)) = 0 ∧
      losses (terms.filter fun term => !decide (0 ≤ term)) = losses terms := by
  induction terms with
  | nil => exact ⟨rfl, rfl, rfl, rfl⟩
  | cons term terms ih =>
    obtain ⟨ups, noDowns, noUps, downs⟩ := ih
    by_cases sign : 0 ≤ term
    · simp [sign, ups, noDowns, noUps, downs]
    · have below : max term 0 = 0 := by omega
      simp [sign, below, ups, noDowns, noUps, downs]

/-- The clamped sum is the same in every order exactly if the terms are steady. -/
theorem steady_iff {terms : List Int} :
    Steady terms ↔ ∀ order, order.Perm terms → saturated order = saturated terms := by
  constructor
  · intro steady order perm
    rw [saturated_eq steady, saturated_eq (steady.perm perm), gains, losses, gains, losses,
      (perm.map _).sum_eq, (perm.map _).sum_eq]
  · intro same
    let ups := terms.filter fun term => decide (0 ≤ term)
    let downs := terms.filter fun term => !decide (0 ≤ term)
    obtain ⟨upGains, upLosses, downGains, downLosses⟩ :
      gains ups = gains terms ∧ losses ups = 0 ∧ gains downs = 0 ∧ losses downs = losses terms :=
      sums_filter terms
    have perm : (ups ++ downs).Perm terms := List.filter_append_perm _ _
    -- the terms of one sign first, then those of the other, and the other way round
    have upsFirst := saturated_append (Or.inr upLosses) (Or.inl downGains)
    have downsFirst := saturated_append (Or.inl downGains) (Or.inr upLosses)
    have both : saturated (ups ++ downs) = saturated (downs ++ ups) := by
      rw [same _ perm, same _ (List.perm_append_comm.trans perm)]
    rw [upsFirst, downsFirst, upGains, upLosses, downGains, downLosses] at both
    have up := gains_nonneg terms
    have down := losses_nonpos terms
    simp only [Steady, clamp, least, greatest] at both ⊢
    omega

end GuardedNet.Number
