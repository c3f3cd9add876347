import GuardedNet.Value

/-!
# Delimited text

A number in front of a character that is no digit, a quoted text in front of anything, and a
value in front of a character that is no digit can be told from the text after them. Main
statement: two values with such texts after them agree as soon as the characters do
(`Value.chars_append_inj`).
-/

namespace GuardedNet

namespace Text

/-- No character of the given class stands at the front. -/
def StopsAt (isPart : Char → Bool) (cs : List Char) : Prop :=
  ∀ c ∈ cs.head?, isPart c = false

@[simp] theorem stopsAt_nil (isPart : Char → Bool) : StopsAt isPart [] := by
  simp [StopsAt]

@[simp] theorem stopsAt_cons (isPart : Char → Bool) (c : Char) (cs : List Char) :
    StopsAt isPart (c :: cs) ↔ isPart c = false := by
  simp [StopsAt]

/-- Two runs of one class end where the class ends. -/
theorem append_inj_of_stopsAt {isPart : Char → Bool} {xs ys r s : List Char}
    (left : ∀ c ∈ xs, isPart c = true) (right : ∀ c ∈ ys, isPart c = true)
    (stopsLeft : StopsAt isPart r) (stopsRight : StopsAt isPart s)
    (same : xs ++ r = ys ++ s) : xs = ys ∧ r = s := by
  induction xs generalizing ys with
  | nil =>
    cases ys with
    | nil => exact ⟨rfl, same⟩
    | cons y ys =>
      rw [List.nil_append, List.cons_append] at same
      subst same
      rw [stopsAt_cons] at stopsLeft
      have part := right y (List.mem_cons_self ..)
      rw [stopsLeft] at part
      cases part
  | cons x xs ih =>
    cases ys with
    | nil =>
      rw [List.nil_append, List.cons_append] at same
      subst same
      rw [stopsAt_cons] at stopsRight
      have part := left x (List.mem_cons_self ..)
      rw [stopsRight] at part
      cases part
    | cons y ys =>
      rw [List.cons_append, List.cons_append, List.cons.injEq] at same
      obtain ⟨rfl, same⟩ := same
      obtain ⟨rfl, rest⟩ := ih (fun c member => left c (List.mem_cons_of_mem _ member))
        (fun c member => right c (List.mem_cons_of_mem _ member)) same
      exact ⟨rfl, rest⟩

end Text

/-! ### Numbers -/

namespace Number

/-- Every digit is the character of a number below the base. -/
theorem exists_digitChar_of_mem_toDigits {base n : Nat} (positional : 1 < base) {c : Char}
    (member : c ∈ Nat.toDigits base n) : ∃ k < base, c = Nat.digitChar k := by
  induction n using Nat.strongRecOn with
  | ind n ih =>
    rw [Nat.toDigits_eq_if positional] at member
    split at member
    · rename_i small
      exact ⟨n, small, List.mem_singleton.1 member⟩
    · rename_i large
      rcases List.mem_append.1 member with front | last
      · exact ih (n / base) (Nat.div_lt_self (by omega) positional) front
      · exact ⟨n % base, Nat.mod_lt _ (by omega), List.mem_singleton.1 last⟩

theorem digitChar_inj {j k : Nat} (small : j < 16) (small' : k < 16)
    (same : Nat.digitChar j = Nat.digitChar k) : j = k := by
  have all : ∀ j < 16, ∀ k < 16, Nat.digitChar j = Nat.digitChar k → j = k := by decide
  exact all j small k small' same

/-- Digits in a base up to sixteen determine the number. -/
theorem toDigits_inj {base : Nat} (large : 1 < base) (small : base ≤ 16) {m n : Nat}
    (same : Nat.toDigits base m = Nat.toDigits base n) : m = n := by
  induction m using Nat.strongRecOn generalizing n with
  | ind m ih =>
    rw [Nat.toDigits_eq_if large, Nat.toDigits_eq_if large (n := n)] at same
    split at same <;> split at same
    · exact digitChar_inj (by omega) (by omega) (List.singleton_inj.1 same)
    -- one digit cannot be the digits of a quotient and one digit more
    · have lengths := congrArg List.length same
      have positive := Nat.length_toDigits_pos (b := base) (n := n / base)
      simp only [List.length_append, List.length_singleton] at lengths
      omega
    · have lengths := congrArg List.length same
      have positive := Nat.length_toDigits_pos (b := base) (n := m / base)
      simp only [List.length_append, List.length_singleton] at lengths
      omega
    · obtain ⟨front, last⟩ := List.append_inj' same rfl
      have quotient : m / base = n / base :=
        ih (m / base) (Nat.div_lt_self (by omega) large) front
      have lastLeft := Nat.mod_lt m (show base > 0 by omega)
      have lastRight := Nat.mod_lt n (show base > 0 by omega)
      have remainder : m % base = n % base :=
        digitChar_inj (by omega) (by omega) (List.singleton_inj.1 last)
      rw [← Nat.div_add_mod m base, ← Nat.div_add_mod n base, quotient, remainder]

/-- A decimal number can be told from a text after it that does not start with a digit. -/
theorem toDigits_append_inj {m n : Nat} {r s : List Char}
    (stopsLeft : Text.StopsAt Char.isDigit r) (stopsRight : Text.StopsAt Char.isDigit s)
    (same : Nat.toDigits 10 m ++ r = Nat.toDigits 10 n ++ s) : m = n ∧ r = s := by
  have digits : ∀ k, ∀ c ∈ Nat.toDigits 10 k, c.isDigit = true := fun _ _ member =>
    Nat.isDigit_of_mem_toDigits (by decide) (by decide) member
  obtain ⟨front, rest⟩ := Text.append_inj_of_stopsAt (digits m) (digits n) stopsLeft stopsRight same
  exact ⟨toDigits_inj (by decide) (by decide) front, rest⟩

/-- The decimal form of a natural number starts with a digit. -/
theorem toDigits_eq_cons (n : Nat) :
    ∃ c cs, Nat.toDigits 10 n = c :: cs ∧ c.isDigit = true := by
  obtain ⟨c, cs, front⟩ := List.exists_cons_of_ne_nil (Nat.toDigits_ne_nil (n := n) (b := 10))
  refine ⟨c, cs, front, ?_⟩
  exact Nat.isDigit_of_mem_toDigits (b := 10) (n := n) (by decide) (by decide)
    (front ▸ List.mem_cons_self ..)

/-- The decimal form of an integer starts with a digit or a minus sign. -/
theorem intChars_eq_cons (n : Int) :
    ∃ c cs, intChars n = c :: cs ∧ (c.isDigit = true ∨ c = '-') := by
  cases n with
  | ofNat n =>
    obtain ⟨c, cs, front, digit⟩ := toDigits_eq_cons n
    exact ⟨c, cs, front, Or.inl digit⟩
  | negSucc n => exact ⟨'-', _, rfl, Or.inr rfl⟩

theorem toDigits_append_ne_minus (n : Nat) (cs ds : List Char) :
    Nat.toDigits 10 n ++ cs ≠ '-' :: ds := by
  intro equal
  obtain ⟨c, front, digits, digit⟩ := toDigits_eq_cons n
  rw [digits, List.cons_append, List.cons.injEq] at equal
  rw [equal.1] at digit
  exact absurd digit (by decide)

/-- A decimal integer can be told from a text after it that does not start with a digit. -/
theorem intChars_append_inj {m n : Int} {r s : List Char}
    (stopsLeft : Text.StopsAt Char.isDigit r) (stopsRight : Text.StopsAt Char.isDigit s)
    (same : intChars m ++ r = intChars n ++ s) : m = n ∧ r = s := by
  cases m with
  | ofNat m =>
    cases n with
    | ofNat n =>
      obtain ⟨rfl, rest⟩ := toDigits_append_inj stopsLeft stopsRight same
      exact ⟨rfl, rest⟩
    | negSucc n => exact absurd same (toDigits_append_ne_minus m r _)
  | negSucc m =>
    cases n with
    | ofNat n => exact absurd same.symm (toDigits_append_ne_minus n s _)
    | negSucc n =>
      obtain ⟨equal, rest⟩ := toDigits_append_inj stopsLeft stopsRight (List.cons.inj same).2
      exact ⟨congrArg Int.negSucc (Nat.succ.inj equal), rest⟩

end Number

/-! ### Quoted text -/

namespace Text

/-- The only mark that is escaped within double quotation marks. -/
private abbrev isDoubleMark (c : Char) : Bool := c == '"'

/-- The character that a backslash and the given one stand for. -/
private def shortEscape (c : Char) : Char :=
  if c = 'n' then '\n'
  else if c = 'r' then '\r'
  else if c = 't' then '\t'
  else if c = '0' then Char.ofNat 0
  else c

/-- A character is written as itself, as a backslash with one character that determines it,
or by its code point. -/
private theorem escapeChar_cases (c : Char) :
    (escapeChar isDoubleMark c = [c] ∧ c ≠ '\\' ∧ c ≠ '"') ∨
    (∃ x, escapeChar isDoubleMark c = ['\\', x] ∧ x ≠ 'u' ∧ c = shortEscape x) ∨
    escapeChar isDoubleMark c = codePointEscape c := by
  unfold escapeChar
  by_cases isMark : (c == '\\' || isDoubleMark c) = true
  · rw [if_pos isMark]
    have marks : c = '\\' ∨ c = '"' := by simpa [isDoubleMark] using isMark
    refine Or.inr (Or.inl ⟨c, rfl, ?_, ?_⟩)
    all_goals rcases marks with rfl | rfl <;> decide
  rw [if_neg isMark]
  have plain : c ≠ '\\' ∧ c ≠ '"' := by simpa [isDoubleMark] using isMark
  split
  · rename_i isShort
    exact Or.inr (Or.inl ⟨'n', rfl, by decide, by simpa [shortEscape] using isShort⟩)
  split
  · rename_i isShort
    exact Or.inr (Or.inl ⟨'r', rfl, by decide, by simpa [shortEscape] using isShort⟩)
  split
  · rename_i isShort
    exact Or.inr (Or.inl ⟨'t', rfl, by decide, by simpa [shortEscape] using isShort⟩)
  split
  · rename_i isShort
    refine Or.inr (Or.inl ⟨'0', rfl, by decide, ?_⟩)
    apply Char.toNat_inj.1
    simpa [shortEscape] using isShort
  split
  · exact Or.inl ⟨rfl, plain⟩
  · exact Or.inr (Or.inr rfl)

/-- No digit in base sixteen is the brace that ends an escape by code point. -/
private theorem hexDigits_ne_brace {n : Nat} {c : Char} (member : c ∈ hexDigits n) :
    (c != '}') = true := by
  have all : ∀ k < 16, (Nat.digitChar k != '}') = true := by decide
  obtain ⟨k, small, rfl⟩ := Number.exists_digitChar_of_mem_toDigits (by decide) member
  exact all k small

private theorem codePointEscape_append_inj {c d : Char} {r s : List Char}
    (same : codePointEscape c ++ r = codePointEscape d ++ s) : c = d ∧ r = s := by
  simp only [codePointEscape, List.append_assoc, List.cons_append, List.nil_append,
    List.cons.injEq, true_and] at same
  obtain ⟨digits, rest⟩ := append_inj_of_stopsAt (fun _ => hexDigits_ne_brace)
    (fun _ => hexDigits_ne_brace) (by simp) (by simp) same
  refine ⟨Char.toNat_inj.1 ?_, (List.cons.inj rest).2⟩
  exact Number.toDigits_inj (by decide) (by decide) digits

/-- The form of a character can be told from any text after it. -/
private theorem escapeChar_append_inj {c d : Char} {r s : List Char}
    (same : escapeChar isDoubleMark c ++ r = escapeChar isDoubleMark d ++ s) :
    c = d ∧ r = s := by
  rcases escapeChar_cases c with ⟨written, plain, -⟩ | ⟨x, written, notCode, short⟩ | written <;>
    rcases escapeChar_cases d with
      ⟨written', plain', -⟩ | ⟨y, written', notCode', short'⟩ | written'
  all_goals rw [written, written'] at same
  · simpa using same
  · exact absurd (List.cons.inj same).1 plain
  · exact absurd (List.cons.inj same).1 plain
  · exact absurd (List.cons.inj same).1.symm plain'
  · obtain ⟨rfl, rest⟩ := List.cons.inj (List.cons.inj same).2
    exact ⟨short.trans short'.symm, rest⟩
  · exact absurd (List.cons.inj (List.cons.inj same).2).1 notCode
  · exact absurd (List.cons.inj same).1.symm plain'
  · exact absurd (List.cons.inj (List.cons.inj same).2).1.symm notCode'
  · exact codePointEscape_append_inj same

/-- No character is written with a quotation mark in front. -/
private theorem escapeChar_append_ne_mark (c : Char) (r s : List Char) :
    escapeChar isDoubleMark c ++ r ≠ '"' :: s := by
  intro same
  rcases escapeChar_cases c with ⟨written, -, plain⟩ | ⟨x, written, -, -⟩ | written
  all_goals rw [written] at same
  · exact plain (List.cons.inj same).1
  · exact absurd (List.cons.inj same).1 (by decide)
  · exact absurd (List.cons.inj same).1 (by decide)

/-- A text in double quotation marks can be told from any text after it. -/
theorem quoteWith_append_inj {cs ds r s : List Char}
    (same : quoteWith (fun c => c == '"') cs ++ r = quoteWith (fun c => c == '"') ds ++ s) :
    cs = ds ∧ r = s := by
  simp only [quoteWith, List.cons_append, List.append_assoc, List.nil_append,
    List.cons.injEq, true_and] at same
  induction cs generalizing ds with
  | nil =>
    cases ds with
    | nil => exact ⟨rfl, (List.cons.inj same).2⟩
    | cons d ds =>
      rw [List.flatMap_cons, List.append_assoc] at same
      exact absurd same.symm (escapeChar_append_ne_mark d _ _)
  | cons c cs ih =>
    cases ds with
    | nil =>
      rw [List.flatMap_cons, List.append_assoc] at same
      exact absurd same (escapeChar_append_ne_mark c _ _)
    | cons d ds =>
      rw [List.flatMap_cons, List.flatMap_cons, List.append_assoc, List.append_assoc] at same
      obtain ⟨rfl, tails⟩ := escapeChar_append_inj same
      obtain ⟨rfl, rest⟩ := ih tails
      exact ⟨rfl, rest⟩

end Text

/-! ### Values -/

namespace Value

open Text (StopsAt)

/-- What the characters of a value start with, by its kind. -/
private def isOpening (c : Char) : Value → Bool
  | .bool b => c == (if b then 't' else 'f')
  | .int _ => c.isDigit || c == '-'
  | .str _ => c == '"'
  | .list _ => c == '['
  | .map _ => c == '{'

private theorem chars_eq_cons (v : Value) : ∃ c cs, chars v = c :: cs ∧ isOpening c v = true := by
  cases v with
  | bool b => cases b <;> exact ⟨_, _, rfl, by decide⟩
  | int n =>
    obtain ⟨c, cs, front, opening⟩ := Number.intChars_eq_cons n
    exact ⟨c, cs, front, by simpa [isOpening] using opening⟩
  | str s => exact ⟨'"', _, rfl, rfl⟩
  | list items => exact ⟨'[', _, rfl, rfl⟩
  | map entries => exact ⟨'{', _, rfl, rfl⟩

/-- Values with one opening character in common are of one kind. -/
private theorem kind_eq_of_isOpening {c : Char} {v w : Value} (opens : isOpening c v = true)
    (opens' : isOpening c w = true) : kind v = kind w := by
  have digits : ∀ d ∈ ['t', 'f', '"', '[', '{', '-'], Char.isDigit d = false := by
    simp [Char.isDigit]
  cases v <;> cases w <;> simp only [isOpening] at opens opens' <;> grind [kind]

private theorem kind_eq_of_chars_append {v w : Value} {r s : List Char}
    (same : chars v ++ r = chars w ++ s) : kind v = kind w := by
  obtain ⟨c, cs, front, opening⟩ := chars_eq_cons v
  obtain ⟨d, ds, front', opening'⟩ := chars_eq_cons w
  rw [front, front', List.cons_append, List.cons_append, List.cons.injEq] at same
  exact kind_eq_of_isOpening opening (same.1 ▸ opening')

private theorem chars_append_ne_closing (v : Value) {close : Char} (closes : close ∈ [']', '}'])
    (r s : List Char) : chars v ++ r ≠ close :: s := by
  intro same
  obtain ⟨c, cs, front, opening⟩ := chars_eq_cons v
  rw [front, List.cons_append, List.cons.injEq] at same
  have digits : ∀ d ∈ [']', '}'], Char.isDigit d = false := by simp [Char.isDigit]
  cases v <;> simp only [isOpening] at opening <;> grind

/-- The parts of a list after the first one, each behind a comma. -/
private def commaTail : List (List Char) → List Char
  | [] => []
  | part :: rest => ',' :: ' ' :: (part ++ commaTail rest)

private theorem commaSeparated_cons (part : List Char) (rest : List (List Char)) :
    commaSeparated (part :: rest) = part ++ commaTail rest := by
  induction rest generalizing part with
  | nil => simp [commaSeparated, commaTail]
  | cons next rest ih => rw [commaSeparated, ih, commaTail]; simp

section Parts

variable {α : Type} {f : α → List Char} {close : Char}

/-- The part can be told from a text after it that does not start with a digit. -/
private def PartInj (f : α → List Char) (a : α) : Prop :=
  ∀ b r s, StopsAt Char.isDigit r → StopsAt Char.isDigit s → f a ++ r = f b ++ s →
    a = b ∧ r = s

private theorem stopsAt_commaTail (parts : List (List Char)) (r : List Char)
    (closes : close.isDigit = false) : StopsAt Char.isDigit (commaTail parts ++ close :: r) := by
  cases parts with
  | nil => simpa [commaTail] using closes
  | cons part rest => simp [commaTail]

private theorem commaTail_append_inj (closes : close.isDigit = false) (notComma : close ≠ ',')
    {as bs : List α} (parts : ∀ a ∈ as, PartInj f a) {r s : List Char}
    (same : commaTail (as.map f) ++ close :: r = commaTail (bs.map f) ++ close :: s) :
    as = bs ∧ r = s := by
  induction as generalizing bs with
  | nil =>
    cases bs with
    | nil => exact ⟨rfl, (List.cons.inj same).2⟩
    | cons b bs => exact absurd (List.cons.inj same).1 notComma
  | cons a as ih =>
    cases bs with
    | nil => exact absurd (List.cons.inj same).1.symm notComma
    | cons b bs =>
      simp only [List.map_cons, commaTail, List.cons_append, List.append_assoc, List.cons.injEq,
        true_and] at same
      obtain ⟨rfl, tails⟩ := parts a (List.mem_cons_self ..) b _ _
        (stopsAt_commaTail _ r closes) (stopsAt_commaTail _ s closes) same
      obtain ⟨rfl, rest⟩ := ih (fun a member => parts a (List.mem_cons_of_mem _ member)) tails
      exact ⟨rfl, rest⟩

/-- Parts between commas can be told from each other and from a text after the closing
character. -/
private theorem commaSeparated_append_inj (closes : close.isDigit = false) (notComma : close ≠ ',')
    (opening : ∀ a r s, f a ++ r ≠ close :: s) {as bs : List α} (parts : ∀ a ∈ as, PartInj f a)
    {r s : List Char}
    (same : commaSeparated (as.map f) ++ close :: r = commaSeparated (bs.map f) ++ close :: s) :
    as = bs ∧ r = s := by
  cases as with
  | nil =>
    cases bs with
    | nil => exact ⟨rfl, (List.cons.inj same).2⟩
    | cons b bs =>
      rw [List.map_cons, commaSeparated_cons, List.append_assoc] at same
      exact absurd same.symm (opening b _ _)
  | cons a as =>
    cases bs with
    | nil =>
      rw [List.map_cons, commaSeparated_cons, List.append_assoc] at same
      exact absurd same (opening a _ _)
    | cons b bs =>
      rw [List.map_cons, List.map_cons, commaSeparated_cons, commaSeparated_cons,
        List.append_assoc, List.append_assoc] at same
      obtain ⟨rfl, tails⟩ := parts a (List.mem_cons_self ..) b _ _
        (stopsAt_commaTail _ r closes) (stopsAt_commaTail _ s closes) same
      obtain ⟨rfl, rest⟩ := commaTail_append_inj closes notComma
        (fun a member => parts a (List.mem_cons_of_mem _ member)) tails
      exact ⟨rfl, rest⟩

end Parts

/-- The characters of one entry of a map. -/
private def entryText (entry : String × Value) : List Char :=
  Text.quoteWith (fun c => c == '"') entry.1.toList ++ ':' :: ' ' :: chars entry.2

private theorem itemChars_eq_map (items : List Value) : itemChars items = items.map chars := by
  induction items with
  | nil => rfl
  | cons v vs ih => rw [itemChars, ih, List.map_cons]

private theorem entryChars_eq_map (entries : List (String × Value)) :
    entryChars entries = entries.map entryText := by
  induction entries with
  | nil => rfl
  | cons entry rest ih => rw [entryChars, ih, List.map_cons]; rfl

/-- An entry can be told from the text after it if its value can. -/
private theorem partInj_entryText {entry : String × Value} (value : PartInj chars entry.2) :
    PartInj entryText entry := by
  intro other r s stopsLeft stopsRight same
  simp only [entryText, List.append_assoc, List.cons_append] at same
  obtain ⟨key, tails⟩ := Text.quoteWith_append_inj same
  obtain ⟨equal, rest⟩ :=
    value other.2 r s stopsLeft stopsRight (List.cons.inj (List.cons.inj tails).2).2
  exact ⟨Prod.ext (String.toList_inj.1 key) equal, rest⟩

mutual

private theorem partInj_chars : ∀ v : Value, PartInj chars v
  | .bool a => by
    intro w r s _ _ same
    have kinds := kind_eq_of_chars_append same
    cases w with
    | bool b => cases a <;> cases b <;> simp_all [chars]
    | _ => simp [kind] at kinds
  | .int m => by
    intro w r s stopsLeft stopsRight same
    have kinds := kind_eq_of_chars_append same
    cases w with
    | int n =>
      obtain ⟨rfl, rest⟩ := Number.intChars_append_inj stopsLeft stopsRight same
      exact ⟨rfl, rest⟩
    | _ => simp [kind] at kinds
  | .str a => by
    intro w r s _ _ same
    have kinds := kind_eq_of_chars_append same
    cases w with
    | str b =>
      obtain ⟨texts, rest⟩ := Text.quoteWith_append_inj same
      exact ⟨congrArg str (String.toList_inj.1 texts), rest⟩
    | _ => simp [kind] at kinds
  | .list as => by
    intro w r s _ _ same
    have kinds := kind_eq_of_chars_append same
    cases w with
    | list bs =>
      simp only [chars, itemChars_eq_map, List.cons_append, List.append_assoc, List.nil_append,
        List.cons.injEq, true_and] at same
      obtain ⟨rfl, rest⟩ := commaSeparated_append_inj (by decide) (by decide)
        (fun v => chars_append_ne_closing v (by simp)) (partInj_items as) same
      exact ⟨rfl, rest⟩
    | _ => simp [kind] at kinds
  | .map as => by
    intro w r s _ _ same
    have kinds := kind_eq_of_chars_append same
    cases w with
    | map bs =>
      simp only [chars, entryChars_eq_map, List.cons_append, List.append_assoc, List.nil_append,
        List.cons.injEq, true_and] at same
      obtain ⟨rfl, rest⟩ := commaSeparated_append_inj (by decide) (by decide)
        (fun entry r s => by simp [entryText, Text.quoteWith])
        (fun entry member => partInj_entryText (partInj_entries as entry member)) same
      exact ⟨rfl, rest⟩
    | _ => simp [kind] at kinds

private theorem partInj_items : ∀ (items : List Value), ∀ v ∈ items, PartInj chars v
  | v :: _, _, .head _ => partInj_chars v
  | _ :: vs, w, .tail _ member => partInj_items vs w member

private theorem partInj_entries :
    ∀ (entries : List (String × Value)), ∀ entry ∈ entries, PartInj chars entry.2
  | (_, v) :: _, _, .head _ => partInj_chars v
  | _ :: rest, entry, .tail _ member => partInj_entries rest entry member

end

/-- A value can be told from a text after it that does not start with a digit. -/
theorem chars_append_inj {v w : Value} {r s : List Char} (stopsLeft : StopsAt Char.isDigit r)
    (stopsRight : StopsAt Char.isDigit s) (same : chars v ++ r = chars w ++ s) : v = w ∧ r = s :=
  partInj_chars v w r s stopsLeft stopsRight same

/-- The text that shows a value determines the value. -/
theorem render_inj {v w : Value} (same : v.render = w.render) : v = w := by
  have chars : v.chars ++ [] = w.chars ++ [] := by rw [String.ofList_injective same]
  exact (chars_append_inj (Text.stopsAt_nil _) (Text.stopsAt_nil _) chars).1

end Value

end GuardedNet
