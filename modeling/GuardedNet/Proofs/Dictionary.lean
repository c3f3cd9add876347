import Mathlib.Data.List.Nodup
import GuardedNet.Dictionary

/-!
# Look-ups in dictionaries

A dictionary as a finite map: its keys are those that can be read, and among distinct keys a key
reads what any entry with it holds (`Dictionary.get?_eq_some_iff`).
-/

namespace GuardedNet.Dictionary

variable {α : Type} {entries : Dictionary α} {key : String} {value : α}

theorem mem_of_get? (found : get? key entries = some value) : (key, value) ∈ entries := by
  induction entries with
  | nil => simp at found
  | cons entry entries ih =>
    rw [get?_cons] at found
    split at found
    · rename_i same
      obtain rfl := Option.some.inj found
      subst same
      exact List.mem_cons_self ..
    · exact List.mem_cons_of_mem _ (ih found)

/-- The keys are those that can be read. -/
theorem mem_keys_iff : key ∈ keys entries ↔ ∃ value, get? key entries = some value := by
  constructor
  · intro member
    induction entries with
    | nil => simp [keys] at member
    | cons entry entries ih =>
      rw [get?_cons]
      by_cases same : entry.1 = key
      · exact ⟨entry.2, if_pos same⟩
      · rw [if_neg same]
        apply ih
        simpa [keys, Ne.symm same] using member
  · rintro ⟨value, found⟩
    exact List.mem_map.2 ⟨_, mem_of_get? found, rfl⟩

theorem contains_iff : contains key entries = true ↔ key ∈ keys entries := by
  rw [contains, Option.isSome_iff_exists, mem_keys_iff]

/-- Among distinct keys, a key reads what any entry with it holds. -/
theorem get?_eq_some_iff (distinct : (keys entries).Nodup) :
    get? key entries = some value ↔ (key, value) ∈ entries := by
  induction entries with
  | nil => simp
  | cons entry entries ih =>
    obtain ⟨first, rest⟩ := List.nodup_cons.1 distinct
    rw [get?_cons, List.mem_cons]
    split
    · rename_i same
      subst same
      have absent : (entry.1, value) ∉ entries := fun member =>
        first (List.mem_map.2 ⟨_, member, rfl⟩)
      simp [absent, Prod.ext_iff, eq_comm]
    · rename_i other
      rw [ih rest, Prod.ext_iff]
      simp [Ne.symm other]

/-- Of two dictionaries, one behind the other, the first counts. -/
theorem get?_append (key : String) (entries later : Dictionary α) :
    get? key (entries ++ later) = (get? key entries).or (get? key later) := by
  induction entries with
  | nil => rfl
  | cons entry entries ih =>
    rw [List.cons_append, get?_cons, get?_cons, ih]
    split <;> rfl

theorem mem_keys_write {other : String} :
    other ∈ keys (write key value entries) ↔ other = key ∨ other ∈ keys entries := by
  rw [mem_keys_iff, mem_keys_iff, get?_write]
  by_cases same : other = key <;> simp [same]

/-- A dictionary made of pairs has their keys. -/
theorem mem_keys_ofPairs {pairs : List (String × α)} :
    key ∈ keys (ofPairs pairs) ↔ key ∈ pairs.map (·.1) := by
  have onto : ∀ start : Dictionary α,
      key ∈ keys (pairs.foldl (fun entries pair => write pair.1 pair.2 entries) start) ↔
        key ∈ pairs.map (·.1) ∨ key ∈ keys start := by
    induction pairs with
    | nil => simp
    | cons pair pairs ih =>
      intro start
      rw [List.foldl_cons, ih, mem_keys_write, List.map_cons, List.mem_cons, or_left_comm, or_assoc]
  rw [ofPairs, onto]
  simp [keys]

end GuardedNet.Dictionary
