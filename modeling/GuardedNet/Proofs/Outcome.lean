/-!
# Computations that can fail

How to take apart a computation that is made of parts, a fold that may end early, and a scan that
stops at the first item that fails (`FirstFailing`).
-/

namespace GuardedNet

/-- A computation in two parts succeeds when both parts do. -/
theorem bind_eq_ok {ε α β : Type} {first : Except ε α} {next : α → Except ε β} {result : β} :
    (first >>= next) = .ok result ↔ ∃ middle, first = .ok middle ∧ next middle = .ok result := by
  cases first <;> simp [bind, Except.bind]

/-- A computation in two parts fails when the first part does, or the second after it. -/
theorem bind_eq_error {ε α β : Type} {first : Except ε α} {next : α → Except ε β} {cause : ε} :
    (first >>= next) = .error cause ↔
      first = .error cause ∨ ∃ middle, first = .ok middle ∧ next middle = .error cause := by
  cases first <;> simp [bind, Except.bind]

/-- A computation in two parts succeeds when the first part does and the second never fails. -/
theorem exists_ok_bind {ε α β : Type} {first : Except ε α} {next : α → Except ε β}
    (start : ∃ middle, first = .ok middle) (goOn : ∀ middle, ∃ result, next middle = .ok result) :
    ∃ result, (first >>= next) = .ok result := by
  obtain ⟨middle, rfl⟩ := start
  exact goOn middle

/-- The result is good, or the failure is bad in the way allowed. -/
def Ends {ε α : Type} (good : α → Prop) (bad : ε → Prop) : Except ε α → Prop
  | .ok result => good result
  | .error cause => bad cause

namespace Ends

variable {ε α β : Type} {good good' : α → Prop} {bad : ε → Prop} {goodNext : β → Prop}

/-- What is known of the first part is given to the second. -/
theorem bind {first : Except ε α} {next : α → Except ε β} (start : Ends good bad first)
    (goOn : ∀ a, good a → Ends goodNext bad (next a)) : Ends goodNext bad (first >>= next) := by
  cases first with
  | error cause => exact start
  | ok a => exact goOn a start

theorem imp {bad' : ε → Prop} {outcome : Except ε α} (ends : Ends good bad outcome)
    (onGood : ∀ a, good a → good' a) (onBad : ∀ cause, bad cause → bad' cause) :
    Ends good' bad' outcome := by
  cases outcome with
  | error cause => exact onBad cause ends
  | ok a => exact onGood a ends

theorem mono {outcome : Except ε α} (weaker : ∀ a, good a → good' a)
    (ends : Ends good bad outcome) : Ends good' bad outcome :=
  ends.imp weaker fun _ same => same

theorem any (outcome : Except ε α) : Ends (fun _ => True) (fun _ => True) outcome := by
  cases outcome <;> trivial

end Ends

/-- A rule for folds that may end early: what each element keeps, all of them keep, and what
holds of every early end holds of the fold's. -/
theorem foldlM_rule {α β ε : Type} {f : β → α → Except ε β} (holds : List α → β → Prop)
    {ends : ε → Prop} {whole : List α}
    (step : ∀ done x rest b, whole = done ++ x :: rest → holds done b →
      (∀ b', f b x = .ok b' → holds (done ++ [x]) b') ∧ ∀ r, f b x = .error r → ends r)
    {b : β} (start : holds [] b) :
    (∀ b', whole.foldlM f b = .ok b' → holds whole b') ∧
      ∀ r, whole.foldlM f b = .error r → ends r := by
  suffices onwards : ∀ rest done b, whole = done ++ rest → holds done b →
      (∀ b', rest.foldlM f b = .ok b' → holds whole b') ∧
        ∀ r, rest.foldlM f b = .error r → ends r from onwards whole [] b rfl start
  intro rest
  induction rest with
  | nil =>
    intro done b split here
    refine ⟨fun b' same => ?_, fun r same => by cases same⟩
    obtain rfl := Except.ok.inj same
    rw [split, List.append_nil]
    exact here
  | cons x rest ih =>
    intro done b split here
    obtain ⟨goes, stops⟩ := step done x rest b split here
    rw [List.foldlM_cons]
    cases next : f b x with
    | error r =>
      refine ⟨fun b' same => (by cases same), fun r' same => ?_⟩
      obtain rfl := Except.error.inj same
      exact stops r next
    | ok b' =>
      exact ih (done ++ [x]) b' (by rw [split, List.append_assoc]; rfl) (goes b' next)

/-! ### The first failure -/

/-- The item is the first that fails: those before it are good and it is not. -/
def FirstFailing {α : Type} (good : α → Prop) (items : List α) (item : α) : Prop :=
  ∃ front rest, items = front ++ item :: rest ∧ (∀ earlier ∈ front, good earlier) ∧ ¬good item

namespace FirstFailing

variable {α : Type} {good : α → Prop} {items : List α} {item : α}

theorem not_nil : ¬FirstFailing good [] item := by
  rintro ⟨front, rest, whole, -⟩
  exact List.append_ne_nil_of_right_ne_nil front (List.cons_ne_nil item rest) whole.symm

/-- The first that fails is at the front or behind a good item. -/
theorem cons_iff {x : α} {xs : List α} :
    FirstFailing good (x :: xs) item ↔
      (¬good x ∧ item = x) ∨ good x ∧ FirstFailing good xs item := by
  constructor
  · rintro ⟨front, rest, whole, before, fails⟩
    cases front with
    | nil =>
      obtain ⟨rfl, -⟩ := List.cons.inj whole
      exact Or.inl ⟨fails, rfl⟩
    | cons y front =>
      obtain ⟨rfl, later⟩ := List.cons.inj whole
      obtain ⟨here, before⟩ := List.forall_mem_cons.1 before
      exact Or.inr ⟨here, front, rest, later, before, fails⟩
  · rintro (⟨fails, rfl⟩ | ⟨here, front, rest, rfl, before, fails⟩)
    · exact ⟨[], xs, rfl, fun _ member => absurd member List.not_mem_nil, fails⟩
    · exact ⟨x :: front, rest, rfl, List.forall_mem_cons.2 ⟨here, before⟩, fails⟩

/-- The first that fails is in the first part, or in the second if all of the first are good. -/
theorem append_iff {xs ys : List α} :
    FirstFailing good (xs ++ ys) item ↔
      FirstFailing good xs item ∨ (∀ x ∈ xs, good x) ∧ FirstFailing good ys item := by
  induction xs with
  | nil => simp [not_nil]
  | cons x xs ih =>
    rw [List.cons_append, cons_iff, cons_iff, ih, List.forall_mem_cons]
    by_cases here : good x <;> simp [here]

theorem not_forall (first : FirstFailing good items item) : ¬∀ x ∈ items, good x := by
  obtain ⟨front, rest, rfl, -, fails⟩ := first
  exact fun all => fails (all item (by simp))

theorem unique {other : α} (first : FirstFailing good items item)
    (first' : FirstFailing good items other) : item = other := by
  induction items with
  | nil => exact absurd first not_nil
  | cons x xs ih =>
    rcases cons_iff.1 first with ⟨fails, rfl⟩ | ⟨here, later⟩
    · rcases cons_iff.1 first' with ⟨-, rfl⟩ | ⟨here, -⟩
      · rfl
      · exact absurd here fails
    · rcases cons_iff.1 first' with ⟨fails, -⟩ | ⟨-, later'⟩
      · exact absurd here fails
      · exact ih later later'

/-- The first that fails, by its position. -/
theorem iff_getElem? :
    FirstFailing good items item ↔ ∃ i : Nat, items[i]? = some item ∧ ¬good item ∧
      ∀ j < i, ∀ earlier, items[j]? = some earlier → good earlier := by
  constructor
  · rintro ⟨front, rest, rfl, before, fails⟩
    refine ⟨front.length, by simp, fails, fun j less earlier there => ?_⟩
    rw [List.getElem?_append_left less] at there
    exact before earlier (List.mem_of_getElem? there)
  · rintro ⟨i, here, fails, before⟩
    obtain ⟨inside, rfl⟩ := List.getElem?_eq_some_iff.1 here
    refine ⟨items.take i, items.drop (i + 1), by simp, fun earlier member => ?_, fails⟩
    obtain ⟨j, less, rfl⟩ := List.mem_take_iff_getElem.1 member
    have bounds := Nat.lt_min.1 less
    exact before j bounds.1 _ (List.getElem?_eq_getElem bounds.2)

end FirstFailing

/-- Doing the same with each item succeeds when it does for each. -/
theorem mapM_eq_ok_iff {ε α β : Type} {f : α → Except ε β} {items : List α} {results : List β} :
    items.mapM f = .ok results ↔ items.map f = results.map .ok := by
  induction items generalizing results with
  | nil => cases results <;> simp [pure, Except.pure]
  | cons item items ih =>
    rw [List.mapM_cons, bind_eq_ok]
    simp only [bind_eq_ok, ih]
    cases results with
    | nil => simp [pure, Except.pure]
    | cons result results => simp [pure, Except.pure]

/-- Doing the same with each item stops at the first for which it fails. -/
theorem mapM_eq_error_iff {ε α β : Type} {f : α → Except ε β} {items : List α} {cause : ε} :
    items.mapM f = .error cause ↔
      ∃ item, FirstFailing (fun x => ∃ y, f x = .ok y) items item ∧ f item = .error cause := by
  induction items with
  | nil => simp [FirstFailing.not_nil, pure, Except.pure]
  | cons x xs ih =>
    rw [List.mapM_cons, bind_eq_error]
    simp only [FirstFailing.cons_iff, bind_eq_error, ih]
    cases here : f x with
    | error own =>
      constructor
      · rintro (same | ⟨_, impossible, _⟩)
        · exact ⟨x, Or.inl ⟨by simp, rfl⟩, here.trans same⟩
        · cases impossible
      · rintro ⟨item, ⟨-, rfl⟩ | ⟨⟨y, impossible⟩, -⟩, fails⟩
        · exact Or.inl (here.symm.trans fails)
        · cases impossible
    | ok y => simp [pure, Except.pure]

theorem exists_ok_mapM {ε α β : Type} {f : α → Except ε β} {items : List α}
    (all : ∀ item ∈ items, ∃ result, f item = .ok result) :
    ∃ results, items.mapM f = .ok results := by
  cases outcome : items.mapM f with
  | ok results => exact ⟨results, rfl⟩
  | error cause =>
    obtain ⟨item, first, -⟩ := mapM_eq_error_iff.1 outcome
    exact absurd all first.not_forall

/-- Each item leads to the result at its position. -/
theorem getElem?_of_mapM {ε α β : Type} {f : α → Except ε β} {items : List α} {results : List β}
    (done : items.mapM f = .ok results) {i : Nat} {item : α} (here : items[i]? = some item) :
    ∃ result, f item = .ok result ∧ results[i]? = some result := by
  have same := congrArg (·[i]?) (mapM_eq_ok_iff.1 done)
  simp only [List.getElem?_map, here, Option.map_some] at same
  obtain ⟨result, there, made⟩ := Option.map_eq_some_iff.1 same.symm
  exact ⟨result, made.symm, there⟩

/-- Doing something with each item that never fails gives all results. -/
theorem mapM_eq_some_map {α β : Type} {attempt : α → Option β} {result : α → β} {items : List α}
    (all : ∀ a ∈ items, attempt a = some (result a)) :
    items.mapM attempt = some (items.map result) := by
  induction items with
  | nil => rfl
  | cons a items ih =>
    have first := all a (List.mem_cons_self ..)
    have rest := ih fun b member => all b (List.mem_cons_of_mem _ member)
    simp [List.mapM_cons, first, rest]

/-- A fold that may fail is a plain fold as long as no step fails, where each step may rely on
what the steps before have kept. -/
theorem foldlM_eq_some_foldl {α β : Type} {attempt : β → α → Option β} {step : β → α → β}
    (holds : β → Prop) {items : List α}
    (keeps : ∀ b, holds b → ∀ a ∈ items, attempt b a = some (step b a) ∧ holds (step b a))
    {start : β} (first : holds start) :
    items.foldlM attempt start = some (items.foldl step start) := by
  induction items generalizing start with
  | nil => rfl
  | cons a items ih =>
    obtain ⟨done, kept⟩ := keeps start first a (List.mem_cons_self ..)
    rw [List.foldlM_cons, done, List.foldl_cons]
    exact ih (fun b known other member => keeps b known other (List.mem_cons_of_mem _ member)) kept

end GuardedNet
