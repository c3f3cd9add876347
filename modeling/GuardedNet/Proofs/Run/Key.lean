import GuardedNet.Proofs.Text.Delimited
import GuardedNet.Run.Marking

/-!
# Keys of markings

The key of a marking lists the number of tokens of every place and then the data. Main
statement: two markings of one net have one key exactly when every place holds the same in both
(`Marking.key_eq_iff`).
-/

namespace GuardedNet.Marking

/-- The marking holds one cell for each place of the net. -/
def Over (net : Net) (m : Marking) : Prop := m.length = net.places.length

/-! ### Tokens -/

/-- The part of a key for one place. -/
private def tokenPart (place : Place) (cell : Cell) : String :=
  sized place.id ++ "=" ++ Number.intText cell.tokens ++ ";"

private theorem toList_tokenPart (place : Place) (cell : Cell) :
    (tokenPart place cell).toList =
      (sized place.id).toList ++ '=' :: (Number.intChars cell.tokens ++ [';']) := by
  simp [tokenPart, Number.intText, String.toList_append, List.append_assoc]

/-- The parts for the places give the numbers of tokens and end where they end. -/
private theorem tokens_eq_of_tokenParts {places : List Place} {m m' : Marking}
    (sized : m.length = places.length) (sized' : m'.length = places.length) {r s : List Char}
    (same : (List.zipWith tokenPart places m).flatMap String.toList ++ r =
      (List.zipWith tokenPart places m').flatMap String.toList ++ s) :
    m.map (·.tokens) = m'.map (·.tokens) ∧ r = s := by
  induction places generalizing m m' with
  | nil =>
    obtain rfl := List.length_eq_zero_iff.1 sized
    obtain rfl := List.length_eq_zero_iff.1 sized'
    exact ⟨rfl, same⟩
  | cons place places ih =>
    obtain ⟨cell, cells, rfl⟩ := List.exists_cons_of_length_eq_add_one sized
    obtain ⟨cell', cells', rfl⟩ := List.exists_cons_of_length_eq_add_one sized'
    simp only [List.zipWith_cons_cons, List.flatMap_cons, toList_tokenPart, List.append_assoc,
      List.cons_append, List.nil_append, List.append_cancel_left_eq, List.cons.injEq,
      true_and] at same
    obtain ⟨count, rest⟩ := Number.intChars_append_inj
      ((Text.stopsAt_cons ..).2 (by decide)) ((Text.stopsAt_cons ..).2 (by decide)) same
    obtain ⟨counts, ends⟩ := ih (Nat.succ.inj sized) (Nat.succ.inj sized') (List.cons.inj rest).2
    exact ⟨by rw [List.map_cons, List.map_cons, count, counts], ends⟩

/-! ### Data -/

/-- The part of a key for one data place. -/
private def dataPart (entry : Nat × Value) : String :=
  "#" ++ Number.natText entry.1 ++ ":" ++ sized entry.2.render ++ ";"

private theorem toList_dataPart (entry : Nat × Value) :
    (dataPart entry).toList =
      '#' :: (Nat.toDigits 10 entry.1 ++ ':' :: (Nat.toDigits 10 entry.2.render.utf8ByteSize ++
        ':' :: (entry.2.chars ++ [';']))) := by
  simp [dataPart, sized, Number.natText, Value.render, String.toList_append, List.append_assoc]

private theorem entries_eq_of_dataParts {entries entries' : List (Nat × Value)}
    (same : (entries.map dataPart).flatMap String.toList =
      (entries'.map dataPart).flatMap String.toList) : entries = entries' := by
  induction entries generalizing entries' with
  | nil =>
    cases entries' with
    | nil => rfl
    | cons entry' rest' => simp [toList_dataPart] at same
  | cons entry rest ih =>
    cases entries' with
    | nil => simp [toList_dataPart] at same
    | cons entry' rest' =>
      simp only [List.map_cons, List.flatMap_cons, toList_dataPart, List.append_assoc,
        List.cons_append, List.nil_append, List.cons.injEq, true_and] at same
      -- position, size and value in turn, each ended by a character that is no digit
      obtain ⟨position, tail⟩ := Number.toDigits_append_inj
        ((Text.stopsAt_cons ..).2 (by decide)) ((Text.stopsAt_cons ..).2 (by decide)) same
      obtain ⟨-, tail⟩ := Number.toDigits_append_inj ((Text.stopsAt_cons ..).2 (by decide))
        ((Text.stopsAt_cons ..).2 (by decide)) (List.cons.inj tail).2
      obtain ⟨value, tail⟩ := Value.chars_append_inj ((Text.stopsAt_cons ..).2 (by decide))
        ((Text.stopsAt_cons ..).2 (by decide)) (List.cons.inj tail).2
      rw [ih (List.cons.inj tail).2, Prod.ext position value]

/-- The data of the cells, the first of which has the given position. -/
private def dataFrom (position : Nat) (m : Marking) : List (Nat × Value) :=
  (m.zipIdx position).filterMap fun (cell, index) => cell.data.map fun value => (index, value)

private theorem dataFrom_cons (position : Nat) (cell : Cell) (cells : Marking) :
    dataFrom position (cell :: cells) =
      (cell.data.map fun value => (position, value)).toList ++ dataFrom (position + 1) cells := by
  obtain ⟨count, data⟩ := cell
  cases data <;> rfl

private theorem le_of_mem_dataFrom {position : Nat} {m : Marking} {entry : Nat × Value}
    (member : entry ∈ dataFrom position m) : position ≤ entry.1 := by
  induction m generalizing position with
  | nil => cases member
  | cons cell cells ih =>
    rw [dataFrom_cons] at member
    rcases List.mem_append.1 member with here | later
    · cases held : cell.data with
      | none => simp [held] at here
      | some value =>
        simp only [held, Option.map_some, Option.toList_some, List.mem_singleton] at here
        exact Nat.le_of_eq (congrArg Prod.fst here).symm
    · exact Nat.le_of_succ_le (ih later)

/-- Numbers of tokens and data make up a marking. -/
private theorem eq_of_tokens_of_dataFrom {position : Nat} {m m' : Marking}
    (tokens : m.map (·.tokens) = m'.map (·.tokens))
    (data : dataFrom position m = dataFrom position m') : m = m' := by
  induction m generalizing position m' with
  | nil => exact (List.map_eq_nil_iff.1 tokens.symm).symm
  | cons cell cells ih =>
    obtain ⟨cell', cells', rfl, count, counts⟩ := List.map_eq_cons_iff.1 tokens.symm
    -- an entry of a later cell has a later position
    have later : ∀ (rest : Marking) (value : Value),
        (position, value) ∉ dataFrom (position + 1) rest := fun rest value member =>
      absurd (le_of_mem_dataFrom member) (Nat.not_succ_le_self position)
    obtain ⟨count₁, value₁⟩ := cell
    obtain ⟨count₂, value₂⟩ := cell'
    obtain rfl : count₂ = count₁ := count
    rw [dataFrom_cons, dataFrom_cons] at data
    cases value₁ with
    | none =>
      cases value₂ with
      | none => rw [ih counts.symm (by simpa using data)]
      | some value₂ =>
        have front : dataFrom (position + 1) cells = (position, value₂) :: _ := data
        exact absurd (front ▸ List.mem_cons_self ..) (later cells value₂)
    | some value₁ =>
      cases value₂ with
      | none =>
        have front : dataFrom (position + 1) cells' = (position, value₁) :: _ := data.symm
        exact absurd (front ▸ List.mem_cons_self ..) (later cells' value₁)
      | some value₂ =>
        simp only [Option.map_some, Option.toList_some, List.cons_append, List.nil_append,
          List.cons.injEq, Prod.mk.injEq, true_and] at data
        rw [ih counts.symm data.2, data.1]

/-! ### Keys -/

private theorem toList_key (net : Net) (m : Marking) :
    (m.key net).toList = (List.zipWith tokenPart net.places m).flatMap String.toList ++
      ((dataFrom 0 m).map dataPart).flatMap String.toList := by
  rw [key, String.toList_append, String.toList_join, String.toList_join]
  rfl

/-- Two markings of one net with one key are the same. -/
theorem key_inj {net : Net} {m m' : Marking} (sized : Over net m) (sized' : Over net m')
    (same : m.key net = m'.key net) : m = m' := by
  have chars := congrArg String.toList same
  rw [toList_key, toList_key] at chars
  obtain ⟨tokens, rest⟩ := tokens_eq_of_tokenParts sized sized' chars
  exact eq_of_tokens_of_dataFrom tokens (entries_eq_of_dataParts rest)

/-- Markings of one net are the same if every place holds the same tokens and the same data. -/
theorem ext_of_over {net : Net} {m m' : Marking} (sized : Over net m) (sized' : Over net m')
    (same : ∀ p, m.tokens p = m'.tokens p ∧ m.data? p = m'.data? p) : m = m' := by
  have cell_ext : ∀ cell cell' : Cell, cell.tokens = cell'.tokens → cell.data = cell'.data →
      cell = cell' := by
    rintro ⟨_, _⟩ ⟨_, _⟩ rfl rfl
    rfl
  refine List.ext_getElem (sized.trans sized'.symm) fun p inside inside' => ?_
  obtain ⟨tokens, data⟩ := same p
  apply cell_ext
  · simpa [Marking.tokens, inside, inside'] using tokens
  · simpa [data?, inside, inside'] using data

/-- The keys of two markings of one net agree exactly when every place holds the same number of
tokens and the same data in both, whatever numbers, values and ids these are. Values are told
apart by the texts that show them. -/
theorem key_eq_iff {net : Net} {m m' : Marking} (sized : Over net m) (sized' : Over net m') :
    (m.key net = m'.key net ↔ ∀ p, m.tokens p = m'.tokens p ∧ m.data? p = m'.data? p) ∧
      ∀ v w : Value, v.render = w.render ↔ v = w := by
  refine ⟨⟨fun same p => ?_, fun same => ?_⟩, fun v w => ⟨Value.render_inj, fun same => ?_⟩⟩
  · rw [key_inj sized sized' same]
    exact ⟨rfl, rfl⟩
  · rw [ext_of_over sized sized' same]
  · rw [same]

/-- A place whose id looks like a part of a key, and a place for a list of texts. -/
def diary : Document where
  name := "diary"
  version := "1"
  places := [⟨"1:a=1;", .token, .int 1, true, none⟩, ⟨"lines", .data, .list [], true, none⟩]
  transitions := []
  arcs := []
  invariants := []

/-- Two lines are told from one line with the marks between them in its text. -/
theorem key_eq_iff_diary :
    let two : Marking := [⟨1, none⟩, ⟨0, some (.list [.str "a", .str "b"])⟩]
    let one : Marking := [⟨1, none⟩, ⟨0, some (.list [.str "a\", \"b"])⟩]
    ∃ net, Net.ofDocument diary = .ok net ∧ Over net two ∧ Over net one ∧
      two.key net ≠ one.key net := by
  intro two one
  obtain ⟨net, valid, overTwo, overOne⟩ :
      ∃ net, Net.ofDocument diary = .ok net ∧ Over net two ∧ Over net one := ⟨_, rfl, rfl, rfl⟩
  refine ⟨net, valid, overTwo, overOne, fun same => ?_⟩
  have data := (((key_eq_iff overTwo overOne).1.1 same) 1).2
  revert data
  decide

end GuardedNet.Marking
