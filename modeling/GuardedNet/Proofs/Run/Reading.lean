import Mathlib.Data.List.Induction
import GuardedNet.Proofs.Run.Transfer

/-!
# What guards read of keyed entries

A guard reads an entry of a data place by indexing its value with one key after the other, and a
keyed arc adds to the entry that its keys lead to. Main statement: after a transfer the keys read
the new amount, and before it they read the amount that the transfer starts from, if no key before
the last is missing and the entry has an integer view (`Guard.indexAlong_adjustEntry`). A missing
key reads as zero, which is no map to read further keys in (`Guard.indexAlong_without_map`).
-/

namespace GuardedNet

/-! ### Missing entries -/

namespace Value

/-- No proper part of the path leads to a missing entry. -/
def FoundAlong (path : List String) (value : Value) : Prop :=
  ∀ front, front <+: path → front ≠ path → (value.read? front).isSome = true

theorem foundAlong_nil (value : Value) : value.FoundAlong [] := by
  intro front before proper
  exact absurd (List.prefix_nil.1 before) proper

theorem foundAlong_singleton (key : String) (value : Value) : value.FoundAlong [key] := by
  intro front before proper
  cases front with
  | nil => rfl
  | cons other front =>
    obtain ⟨rfl, later⟩ := List.cons_prefix_cons.1 before
    exact absurd (congrArg _ (List.prefix_nil.1 later)) proper

/-- Nothing is missing along a path whose first key is found if nothing is missing from there. -/
theorem foundAlong_cons_iff {key : String} {path : List String} {entries : List (String × Value)}
    {slot : Value} (found : Dictionary.get? key entries = some slot) :
    (map entries).FoundAlong (key :: path) ↔ slot.FoundAlong path := by
  constructor
  · intro along front before proper
    have here := along (key :: front) ((List.prefix_cons_inj key).2 before)
      fun same => proper (List.cons.inj same).2
    rw [read?_cons, found] at here
    exact here
  · intro along front before proper
    cases front with
    | nil => rfl
    | cons other front =>
      obtain ⟨rfl, later⟩ := List.cons_prefix_cons.1 before
      rw [read?_cons, found]
      exact along front later fun same => proper (same ▸ rfl)

/-- Something is missing along a path whose first key is missing, if more keys follow. -/
theorem not_foundAlong {key next : String} {path : List String} {entries : List (String × Value)}
    (missing : Dictionary.get? key entries = none) :
    ¬(map entries).FoundAlong (key :: next :: path) := by
  intro along
  have here := along [key] ⟨next :: path, rfl⟩ (by simp)
  rw [read?_cons, missing] at here
  cases here

end Value

namespace Guard

/-! ### One key after the other -/

/-- What a value yields when it is indexed with one position after the other. -/
def indexAlong (positions : List Value) (value : Value) : Except EvalError Value :=
  positions.foldlM indexValue value

/-- The positions stand for the keys of a path. -/
def StandFor (positions : List Value) (path : List String) : Prop :=
  positions.map Value.asKey? = path.map some

theorem standFor_cons_iff {positions : List Value} {key : String} {path : List String} :
    StandFor positions (key :: path) ↔ ∃ position rest, positions = position :: rest ∧
      position.asKey? = some key ∧ StandFor rest path := by
  rw [StandFor, List.map_cons, List.map_eq_cons_iff]
  rfl

@[simp] theorem indexAlong_nil (value : Value) : indexAlong [] value = .ok value := rfl

theorem indexAlong_cons_map {position : Value} {key : String} (stands : position.asKey? = some key)
    (positions : List Value) (entries : List (String × Value)) :
    indexAlong (position :: positions) (.map entries) =
      indexAlong positions ((Dictionary.get? key entries).getD (.int 0)) := by
  rw [indexAlong, List.foldlM_cons, indexValue, stands]
  rfl

/-- Keys read the entry that they lead to, and the last one reads zero if it is missing. A key
that is missing before the last also reads as zero, and the next one cannot be read in that. -/
theorem indexAlong_eq {path : List String} {value : Value} (along : value.MapsAlong path)
    {positions : List Value} (stand : StandFor positions path) :
    (value.FoundAlong path →
      indexAlong positions value = .ok ((value.read? path).getD (.int 0))) ∧
    (¬value.FoundAlong path → value.read? path = none ∧
      indexAlong positions value = .error (.typeMismatch "[]" "cannot index into int")) := by
  induction path generalizing value positions with
  | nil =>
    obtain rfl := List.map_eq_nil_iff.1 stand
    refine ⟨fun _ => ?_, fun missing => absurd (Value.foundAlong_nil value) missing⟩
    rw [Value.read?_nil, indexAlong_nil, Option.getD_some]
  | cons key path ih =>
    obtain ⟨entries, rfl, slots⟩ := Value.mapsAlong_cons_iff.1 along
    obtain ⟨position, rest, rfl, stands, later⟩ := standFor_cons_iff.1 stand
    rw [indexAlong_cons_map stands, Value.read?_cons]
    cases found : Dictionary.get? key entries with
    | some slot =>
      rw [Value.foundAlong_cons_iff found]
      exact ih (slots slot found) later
    | none =>
      cases path with
      | nil =>
        obtain rfl := List.map_eq_nil_iff.1 later
        exact ⟨fun _ => rfl, fun missing => absurd (Value.foundAlong_singleton key _) missing⟩
      | cons next path =>
        obtain ⟨position, rest, rfl, -, -⟩ := standFor_cons_iff.1 later
        exact ⟨fun whole => absurd whole (Value.not_foundAlong found), fun _ => ⟨rfl, rfl⟩⟩

theorem indexAlong_of_read? {path : List String} {value entry : Value}
    (found : value.read? path = some entry) {positions : List Value}
    (stand : StandFor positions path) : indexAlong positions value = .ok entry := by
  induction path generalizing value positions with
  | nil =>
    obtain rfl := List.map_eq_nil_iff.1 stand
    rw [Value.read?_nil] at found
    rw [indexAlong_nil, Option.some.inj found]
  | cons key path ih =>
    obtain ⟨position, rest, rfl, stands, later⟩ := standFor_cons_iff.1 stand
    cases value with
    | map entries =>
      rw [Value.read?_cons] at found
      obtain ⟨slot, here, found⟩ := Option.bind_eq_some_iff.1 found
      rw [indexAlong_cons_map stands, here]
      exact ih found later
    | _ => cases found

/-! ### Terms -/

/-- The value of a key of an arc in a guard: what it is bound to, or else the key as a text. -/
def keyValue (bindings : Dictionary Value) (key : String) : Value :=
  (Dictionary.get? key bindings).getD (.str key)

/-- The term for a key of an arc in a guard. -/
def keyTerm (bindings : Dictionary Value) (key : String) : Term :=
  if Dictionary.contains key bindings then .ident key else .str key

/-- The term that indexes a name with keys one after the other. -/
def indexTerm (bindings : Dictionary Value) (name : String) (keys : List String) : Term :=
  keys.foldl (fun target key => .index target (keyTerm bindings key)) (.ident name)

theorem standFor_keyValue {bindings : Dictionary Value} {keys : List String}
    (resolve : ∀ key ∈ keys, KeyResolves bindings key) :
    StandFor (keys.map (keyValue bindings)) (resolvedPath bindings keys) := by
  rw [StandFor, resolvedPath, List.map_map, List.map_map]
  refine List.map_congr_left fun key member => ?_
  have scalar := resolve key member
  rw [Function.comp_apply, Function.comp_apply, keyValue, resolvedKey]
  cases found : Dictionary.get? key bindings with
  | none => rfl
  | some bound =>
    have isKey : bound.asKey?.isSome = true := by rw [bound.isSome_asKey?, scalar bound found]
    obtain ⟨name, same⟩ := Option.isSome_iff_exists.1 isKey
    simp [same]

theorem evalWithin_keyTerm {bindings : Dictionary Value} {scope : Scope} {key : String}
    (agree : ∀ bound, Dictionary.get? key bindings = some bound →
      Dictionary.get? key scope.bindings = some bound) (room : Nat) :
    (keyTerm bindings key).evalWithin scope (room + 1) = .ok (keyValue bindings key) := by
  rw [keyTerm, keyValue, Dictionary.contains]
  cases found : Dictionary.get? key bindings with
  | none => simp [Term.evalWithin]
  | some bound => simp [Term.evalWithin, agree bound found]

/-- A name indexed with keys has the value that the keys read, as long as the term is not too
deep. -/
theorem evalWithin_indexTerm {bindings : Dictionary Value} {scope : Scope} {name : String}
    {value : Value} (named : Dictionary.get? name scope.bindings = some value)
    {keys : List String} (agree : ∀ key ∈ keys, ∀ bound,
      Dictionary.get? key bindings = some bound → Dictionary.get? key scope.bindings = some bound)
    {room : Nat} (shallow : keys.length < room) :
    (indexTerm bindings name keys).evalWithin scope room =
      indexAlong (keys.map (keyValue bindings)) value := by
  obtain ⟨room, rfl⟩ := Nat.exists_eq_succ_of_ne_zero (Nat.ne_of_gt (Nat.zero_lt_of_lt shallow))
  -- the last key is the outermost index
  induction keys using List.reverseRecOn generalizing room with
  | nil => simp [indexTerm, Term.evalWithin, named]
  | append_singleton front key ih =>
    rw [List.length_append, List.length_singleton] at shallow
    obtain ⟨room, rfl⟩ := Nat.exists_eq_succ_of_ne_zero (n := room) (by omega)
    have inner := ih (fun other member => agree other (List.mem_append_left _ member)) room
      (by omega)
    have last := evalWithin_keyTerm (agree key (by simp)) room
    rw [indexTerm, List.foldl_append, List.foldl_cons, List.foldl_nil, ← indexTerm,
      Term.evalWithin, inner, last, List.map_append, indexAlong, indexAlong, List.foldlM_append]
    simp only [List.map_cons, List.map_nil, List.foldlM_cons, List.foldlM_nil, bind_pure]
    rfl

/-! ### Reading and writing -/

/-- Whatever a transfer adds to, its keys read the new amount afterwards. Before it, if none of
the keys but the last is missing, they read the entry, or zero if it is missing, whose integer view
is what the transfer starts from; without an integer view it starts from zero. If another key is
missing it starts from zero too, and the keys cannot be read. A guard that indexes a name with the
keys has the value that they read. -/
theorem indexAlong_adjustEntry {bindings : Dictionary Value} {change : Int} {keys : List String}
    {before after : Value} (adjusted : adjustEntry bindings change keys before = .ok after) :
    (∀ positions, StandFor positions (resolvedPath bindings keys) →
      indexAlong positions after =
        .ok (.int (before.amountAt (resolvedPath bindings keys) + change)) ∧
      (before.FoundAlong (resolvedPath bindings keys) →
        ∃ found, indexAlong positions before = .ok found ∧
          found = (before.read? (resolvedPath bindings keys)).getD (.int 0) ∧
          before.amountAt (resolvedPath bindings keys) = found.asInt?.getD 0) ∧
      (¬before.FoundAlong (resolvedPath bindings keys) →
        before.amountAt (resolvedPath bindings keys) = 0 ∧
        indexAlong positions before = .error (.typeMismatch "[]" "cannot index into int"))) ∧
    StandFor (keys.map (keyValue bindings)) (resolvedPath bindings keys) ∧
    ∀ (scope : Scope) (name : String) (value : Value),
      Dictionary.get? name scope.bindings = some value →
      (∀ key ∈ keys, ∀ bound, Dictionary.get? key bindings = some bound →
        Dictionary.get? key scope.bindings = some bound) →
      keys.length < maxDepth →
      (indexTerm bindings name keys).eval scope =
        indexAlong (keys.map (keyValue bindings)) value := by
  obtain ⟨resolve, along, -⟩ := exists_adjustEntry_iff.1 ⟨after, adjusted⟩
  refine ⟨fun positions stand => ⟨?_, fun whole => ?_, fun gap => ?_⟩, standFor_keyValue resolve,
    fun scope name value named agree shallow => evalWithin_indexTerm named agree shallow⟩
  · exact indexAlong_of_read? (read?_adjustEntry adjusted) stand
  · refine ⟨_, (indexAlong_eq along stand).1 whole, rfl, ?_⟩
    rw [Value.amountAt, Value.viewAt]
    cases before.read? (resolvedPath bindings keys) <;> rfl
  · obtain ⟨missing, fails⟩ := (indexAlong_eq along stand).2 gap
    refine ⟨?_, fails⟩
    rw [Value.amountAt, Value.viewAt, missing]
    rfl

/-- An allowance that is written as a text, for a spender who is known by a number. -/
theorem indexAlong_adjustEntry_allowance :
    let bindings : Dictionary Value := [("owner", .str "alice"), ("spender", .int 7)]
    let keys := ["owner", "spender"]
    let before : Value := .map [("alice", .map [("7", .str "3")])]
    let after : Value := .map [("alice", .map [("7", .int 5)])]
    adjustEntry bindings 2 keys before = .ok after ∧
      before.FoundAlong (resolvedPath bindings keys) ∧
      indexAlong [.str "alice", .str "7"] before = .ok (.str "3") ∧
      (indexTerm bindings "allowances" keys).eval ⟨("allowances", after) :: bindings, []⟩ =
        .ok (.int 5) := by
  intro bindings keys before after
  have adjusted : adjustEntry bindings 2 keys before = .ok after := rfl
  obtain ⟨reads, stand, terms⟩ := indexAlong_adjustEntry adjusted
  have whole : before.FoundAlong (resolvedPath bindings keys) :=
    (Value.foundAlong_cons_iff rfl).2 (Value.foundAlong_singleton _ _)
  refine ⟨adjusted, whole, ?_, ?_⟩
  · obtain ⟨found, read, rfl, -⟩ := (reads [.str "alice", .str "7"] rfl).2.1 whole
    exact read
  · rw [terms _ "allowances" after rfl (by decide) (by decide)]
    exact (reads _ stand).1

/-- Where a map is missing on the way a transfer makes one, but the keys cannot be read before;
and a truth value, to which a transfer adds as if it were zero, reads as itself. -/
theorem indexAlong_without_map :
    (adjustEntry [] 5 ["alice", "bob"] (.map []) =
        .ok (.map [("alice", .map [("bob", .int 5)])]) ∧
      ¬∃ found, indexAlong [.str "alice", .str "bob"] (.map []) = .ok found) ∧
    adjustEntry [] 5 ["alice"] (.map [("alice", .bool true)]) = .ok (.map [("alice", .int 5)]) ∧
      ¬∃ found, indexAlong [.str "alice"] (.map [("alice", .bool true)]) = .ok found ∧
        found.asInt? = some 0 := by
  refine ⟨⟨rfl, ?_⟩, rfl, ?_⟩
  · rintro ⟨found, read⟩
    cases read
  · rintro ⟨found, read, view⟩
    obtain rfl := Except.ok.inj read
    cases view

end Guard

end GuardedNet
