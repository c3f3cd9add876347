/-!
# Dictionaries

Entries with text keys, kept in increasing order of the keys. Main statement: a key reads
back what was last written at it, and writing leaves the other keys alone (`get?_write`).
-/

namespace GuardedNet

/-- Entries with text keys. -/
abbrev Dictionary (α : Type) := List (String × α)

namespace Dictionary

variable {α : Type}

/-- The value of the first entry with the given key. -/
def get? (key : String) : Dictionary α → Option α
  | [] => none
  | (k, v) :: rest => if k = key then some v else get? key rest

/-- Whether an entry has the given key. -/
def contains (key : String) (entries : Dictionary α) : Bool := (get? key entries).isSome

/-- Replaces the value of the first entry with the given key. -/
def replace (key : String) (value : α) : Dictionary α → Dictionary α
  | [] => []
  | (k, v) :: rest => if k = key then (k, value) :: rest else (k, v) :: replace key value rest

/-- Inserts an entry before the first one with a greater key. -/
def insert (key : String) (value : α) : Dictionary α → Dictionary α
  | [] => [(key, value)]
  | (k, v) :: rest =>
    if key < k then (key, value) :: (k, v) :: rest else (k, v) :: insert key value rest

/-- Sets the value at a key: in its own place when the key is present, and else where the
order of the keys puts it. -/
def write (key : String) (value : α) (entries : Dictionary α) : Dictionary α :=
  if contains key entries then replace key value entries else insert key value entries

/-- The dictionary with the given entries; of two entries with one key the later counts. -/
def ofPairs (pairs : List (String × α)) : Dictionary α :=
  pairs.foldl (fun entries pair => write pair.1 pair.2 entries) []

/-- The keys in order. -/
def keys (entries : Dictionary α) : List String := entries.map (·.1)

@[simp] theorem get?_nil (key : String) : get? key ([] : Dictionary α) = none := rfl

theorem get?_cons (key k : String) (v : α) (rest : Dictionary α) :
    get? key ((k, v) :: rest) = if k = key then some v else get? key rest := rfl

theorem get?_replace (key other : String) (value : α) (entries : Dictionary α) :
    get? other (replace key value entries) =
      if other = key ∧ contains key entries = true then some value else get? other entries := by
  induction entries with
  | nil => simp [replace, contains]
  | cons entry rest ih =>
    obtain ⟨k, v⟩ := entry
    by_cases isKey : k = key
    · subst isKey
      by_cases isOther : k = other
      · subst isOther
        simp [replace, get?_cons, contains]
      · have notOther : ¬other = k := fun same => isOther same.symm
        simp [replace, get?_cons, isOther, notOther]
    · by_cases isOther : k = other
      · subst isOther
        simp [replace, get?_cons, isKey]
      · simp only [replace, isKey, if_false, get?_cons, isOther, contains] at ih ⊢
        exact ih

theorem get?_insert (key other : String) (value : α) (entries : Dictionary α)
    (absent : contains key entries = false) :
    get? other (insert key value entries) =
      if other = key then some value else get? other entries := by
  induction entries with
  | nil =>
    by_cases isOther : key = other
    · simp [insert, get?_cons, isOther]
    · have notOther : ¬other = key := fun same => isOther same.symm
      simp [insert, get?_cons, isOther, notOther]
  | cons entry rest ih =>
    obtain ⟨k, v⟩ := entry
    have notKey : ¬k = key := by
      intro same
      simp [contains, get?_cons, same] at absent
    have absentRest : contains key rest = false := by
      simpa [contains, get?_cons, notKey] using absent
    by_cases before : key < k
    · by_cases isOther : key = other
      · subst isOther
        simp [insert, before, get?_cons]
      · have notOther : ¬other = key := fun same => isOther same.symm
        simp [insert, before, get?_cons, isOther, notOther]
    · by_cases isOther : k = other
      · subst isOther
        simp [insert, before, get?_cons, notKey]
      · simp [insert, before, get?_cons, isOther, ih absentRest]

/-- A key reads back what was last written at it, and writing leaves the other keys alone. -/
theorem get?_write (key other : String) (value : α) (entries : Dictionary α) :
    get? other (write key value entries) =
      if other = key then some value else get? other entries := by
  unfold write
  split
  · rename_i present
    rw [get?_replace]
    simp [present]
  · rename_i absent
    exact get?_insert key other value entries (by simpa using absent)

end Dictionary

end GuardedNet
