import GuardedNet.Net.Drawing
import GuardedNet.Proofs.Net.Faults

/-!
# Drawings can be read back

A line of a drawing is code with quoted strings in it. A reader that only knows about quotation
marks and backslashes finds the same code and the same strings in it whatever the names, guards,
keys and values of the net are made of. Main statement: the drawing of a net has one line for each
element between its fixed lines, and each line reads back what was put into it
(`Net.drawing_exact`).
-/

namespace GuardedNet

namespace Drawing

/-- A part of a line: code, or the content of a quoted string. -/
inductive Piece where
  | code (text : String)
  | string (text : String)
deriving DecidableEq

/-! ### The reader -/

/-- Takes a line apart at the quotation marks that no backslash escapes, where `part` is what has
been read since the last of them. There is no result if a string is not closed, or nothing follows
a backslash. -/
def scan : (quoted escaped : Bool) → (part : List Char) → List Char → Option (List Piece)
  | quoted, escaped, part, [] =>
    if quoted || escaped then none else some [.code (String.ofList part)]
  | quoted, true, part, c :: cs => scan quoted false (part ++ [c]) cs
  | quoted, false, part, c :: cs =>
    if c = '\\' then scan quoted true (part ++ [c]) cs
    else if c = '"' then
      (scan (!quoted) false [] cs).map fun pieces =>
        (if quoted then .string (String.ofList part) else .code (String.ofList part)) :: pieces
    else scan quoted false (part ++ [c]) cs

/-- Replaces a backslash with a quotation mark, a backslash or an `n` after it by what they stand
for; a backslash before anything else has no meaning. -/
def unescape : List Char → Option (List Char)
  | [] => some []
  | '\\' :: '"' :: cs => (unescape cs).map ('"' :: ·)
  | '\\' :: '\\' :: cs => (unescape cs).map ('\\' :: ·)
  | '\\' :: 'n' :: cs => (unescape cs).map ('\n' :: ·)
  | c :: cs => if c = '\\' then none else (unescape cs).map (c :: ·)

/-- A piece with the content that its string stands for. -/
def Piece.decode : Piece → Option Piece
  | .code text => some (.code text)
  | .string text => (unescape text.toList).map fun content => .string (String.ofList content)

/-- The pieces of a line, strings with the content that they stand for. -/
def readLine (line : List Char) : Option (List Piece) :=
  (scan false false [] line).bind fun pieces => pieces.mapM Piece.decode

/-! ### The writer -/

/-- A piece with its string as it is written. -/
def Piece.encode : Piece → Piece
  | .code text => .code text
  | .string text => .string (escapeLabel text)

/-- The characters of a piece with its string as it is written. -/
def Piece.chars : Piece → List Char
  | .code text => text.toList
  | .string text => '"' :: ((escapeLabel text).toList ++ ['"'])

/-- The characters of a line. -/
def write (pieces : List Piece) : List Char := pieces.flatMap Piece.chars

/-- Code without quotation marks, backslashes and line ends. -/
def IsPlain (code : String) : Prop :=
  (code.toList.all fun c => c != '\\' && c != '"' && c != '\n') = true

instance (code : String) : Decidable (IsPlain code) := inferInstanceAs (Decidable (_ = true))

/-- Plain code, and strings with code before and after each of them. -/
inductive IsLine : List Piece → Prop
  | last {code : String} : IsPlain code → IsLine [.code code]
  | more {code content : String} {rest : List Piece} : IsPlain code → IsLine rest →
      IsLine (.code code :: .string content :: rest)

/-! ### Strings -/

theorem toList_escapeLabel (s : String) :
    (escapeLabel s).toList = s.toList.flatMap escapeLabelChar := by
  simp [escapeLabel]

theorem escapeLabel_append (s t : String) :
    escapeLabel (s ++ t) = escapeLabel s ++ escapeLabel t := by
  apply String.toList_injective
  simp [toList_escapeLabel]

/-- A character is written as itself, or with a backslash in front. -/
theorem escapeLabelChar_cases (c : Char) :
    (escapeLabelChar c = [c] ∧ c ≠ '\\' ∧ c ≠ '"' ∧ c ≠ '\n') ∨
      (c = '"' ∧ escapeLabelChar c = ['\\', '"']) ∨
      (c = '\\' ∧ escapeLabelChar c = ['\\', '\\']) ∨
      c = '\n' ∧ escapeLabelChar c = ['\\', 'n'] := by
  by_cases mark : c = '"'
  · subst mark
    exact Or.inr (Or.inl ⟨rfl, rfl⟩)
  by_cases backslash : c = '\\'
  · subst backslash
    exact Or.inr (Or.inr (Or.inl ⟨rfl, rfl⟩))
  by_cases lineEnd : c = '\n'
  · subst lineEnd
    exact Or.inr (Or.inr (Or.inr ⟨rfl, rfl⟩))
  · exact Or.inl ⟨by simp [escapeLabelChar, mark, backslash, lineEnd], backslash, mark, lineEnd⟩

/-- Taking the escapes back gives the text. -/
theorem unescape_escapeLabel (s : String) :
    unescape (escapeLabel s).toList = some s.toList := by
  rw [toList_escapeLabel]
  induction s.toList with
  | nil => rfl
  | cons c cs ih =>
    rw [List.flatMap_cons]
    rcases escapeLabelChar_cases c with ⟨shown, backslash, -⟩ | ⟨rfl, shown⟩ | ⟨rfl, shown⟩ |
      ⟨rfl, shown⟩
    · simp [shown, unescape, backslash, ih]
    all_goals simp [shown, unescape, ih]

/-- No line ends within a string. -/
theorem newline_not_mem_escapeLabel (s : String) : '\n' ∉ (escapeLabel s).toList := by
  rw [toList_escapeLabel, List.mem_flatMap]
  rintro ⟨c, -, member⟩
  rcases escapeLabelChar_cases c with ⟨shown, -, -, lineEnd⟩ | ⟨-, shown⟩ | ⟨-, shown⟩ | ⟨-, shown⟩
  · rw [shown, List.mem_singleton] at member
    exact lineEnd member.symm
  all_goals simp [shown] at member

/-- No character of an escaped text closes its string. -/
theorem scan_escaped (s part rest : List Char) :
    scan true false part (s.flatMap escapeLabelChar ++ rest) =
      scan true false (part ++ s.flatMap escapeLabelChar) rest := by
  induction s generalizing part with
  | nil => simp
  | cons c cs ih =>
    have one : ∀ rest, scan true false part (escapeLabelChar c ++ rest) =
        scan true false (part ++ escapeLabelChar c) rest := by
      intro rest
      rcases escapeLabelChar_cases c with ⟨shown, backslash, mark, -⟩ | ⟨-, shown⟩ | ⟨-, shown⟩ |
        ⟨-, shown⟩
      · simp [shown, scan, backslash, mark]
      all_goals simp [shown, scan]
    rw [List.flatMap_cons, List.append_assoc, one, ih, List.append_assoc]

/-! ### Lines -/

theorem IsPlain.append {code other : String} (plain : IsPlain code) (plain' : IsPlain other) :
    IsPlain (code ++ other) := by
  unfold IsPlain at *
  rw [String.toList_append, List.all_append, plain, plain']
  rfl

theorem isPlain_natText (n : Nat) : IsPlain (Number.natText n) := by
  unfold IsPlain Number.natText
  rw [String.toList_ofList, List.all_eq_true]
  intro c member
  have digit := Nat.isDigit_of_mem_toDigits (by decide) (by decide) member
  simp only [Bool.and_eq_true, bne_iff_ne]
  refine ⟨⟨?_, ?_⟩, ?_⟩
  all_goals
    rintro rfl
    exact absurd digit (by decide)

/-- Plain code neither opens nor closes a string. -/
theorem scan_plain {code : String} (plain : IsPlain code) (rest : List Char) :
    scan false false [] (code.toList ++ rest) = scan false false code.toList rest := by
  suffices onwards : ∀ cs part, (cs.all fun c => c != '\\' && c != '"' && c != '\n') = true →
      scan false false part (cs ++ rest) = scan false false (part ++ cs) rest by
    exact onwards code.toList [] plain
  intro cs
  induction cs with
  | nil => intro part _; simp
  | cons c cs ih =>
    intro part plain
    simp only [List.all_cons, Bool.and_eq_true, bne_iff_ne] at plain
    obtain ⟨⟨⟨backslash, mark⟩, -⟩, plain⟩ := plain
    have later := ih (part ++ [c]) (by simpa using plain)
    simpa [scan, backslash, mark] using later

/-- The reader finds the pieces of a line, with strings as they are written. -/
theorem scan_write {pieces : List Piece} (line : IsLine pieces) :
    scan false false [] (write pieces) = some (pieces.map Piece.encode) := by
  induction line with
  | last plain =>
    have scanned := scan_plain plain []
    simpa [write, Piece.chars, Piece.encode, scan] using scanned
  | @more code content rest plain later ih =>
    -- The code up to the mark that opens the string, then its content up to the one that closes it.
    have whole : write (.code code :: .string content :: rest) = code.toList ++
        '"' :: (content.toList.flatMap escapeLabelChar ++ '"' :: write rest) := by
      simp [write, Piece.chars, toList_escapeLabel]
    rw [whole, scan_plain plain]
    simp [scan, scan_escaped, ih, Piece.encode, escapeLabel]

theorem mapM_decode (pieces : List Piece) :
    (pieces.map Piece.encode).mapM Piece.decode = some pieces := by
  induction pieces with
  | nil => rfl
  | cons piece pieces ih =>
    have first : piece.encode.decode = some piece := by
      cases piece with
      | code text => rfl
      | string text => simp [Piece.encode, Piece.decode, unescape_escapeLabel]
    rw [List.map_cons, List.mapM_cons, first, ih]
    rfl

/-- A line reads back what was written into it. -/
theorem readLine_write {pieces : List Piece} (line : IsLine pieces) :
    readLine (write pieces) = some pieces := by
  rw [readLine, scan_write line, Option.bind_some, mapM_decode]

/-- No line ends within a line. -/
theorem newline_not_mem_write {pieces : List Piece} (line : IsLine pieces) :
    '\n' ∉ write pieces := by
  have notPlain : ∀ code, IsPlain code → '\n' ∉ code.toList := by
    intro code plain member
    have each := List.all_eq_true.1 plain '\n' member
    exact absurd each (by decide)
  induction line with
  | last plain => simpa [write, Piece.chars] using notPlain _ plain
  | @more code content rest plain later ih =>
    have inString := newline_not_mem_escapeLabel content
    have inCode := notPlain code plain
    simpa [write, Piece.chars, inCode, inString] using ih

/-- Lines with their line ends come apart at the line ends. -/
theorem splitOn_lines {lines : List (List Char)} (whole : ∀ line ∈ lines, '\n' ∉ line) :
    (lines.flatMap (· ++ ['\n'])).splitOn '\n' = lines ++ [[]] := by
  induction lines with
  | nil => rfl
  | cons line lines ih =>
    obtain ⟨first, later⟩ := List.forall_mem_cons.1 whole
    have apart : ∀ c ∈ line, (c == '\n') = false := by
      intro c member
      rw [beq_eq_false_iff_ne]
      exact fun same => first (same ▸ member)
    rw [List.flatMap_cons, List.append_assoc, List.cons_append, List.nil_append, List.splitOn,
      List.splitOnP_append_cons_of_forall_mem apart '\n' (beq_self_eq_true _), ← List.splitOn,
      ih later, List.cons_append]

end Drawing

/-! ### The lines of a net -/

/-- What a place is labelled with: its id and, on a second line, its initial value. -/
def Place.caption (place : Place) : String := place.id ++ "\n" ++ place.initial.render

/-- What a transition is labelled with: its id and, on a second line, its guard in brackets. -/
def Transition.caption (transition : Transition) : String :=
  match transition.guard with
  | some guard => transition.id ++ "\n[" ++ guard ++ "]"
  | none => transition.id

namespace Document

open Drawing (Piece)

/-- The name in a drawing of the element with the id. -/
def node (d : Document) (id : String) : String :=
  match d.placeIndex? id, d.transitionIndex? id with
  | some p, _ => Net.placeNode p
  | none, some t => Net.transitionNode t
  | none, none => ""

/-- The line of a place or a transition. -/
def nodePieces (node caption shape colour : String) : List Piece :=
  [.code ("    " ++ node ++ " [label="), .string caption,
   .code (", shape=" ++ shape ++ ", style=filled, fillcolor="), .string colour, .code "];"]

/-- The line of an arc. -/
def arcPieces (d : Document) (arc : Arc) : List Piece :=
  let ends := "    " ++ d.node arc.source ++ " -> " ++ d.node arc.target
  if arc.isKeyed then
    [.code (ends ++ " [label="), .string ("[" ++ "][".intercalate arc.keys ++ "]"),
     .code ", style=dashed];"]
  else [.code (ends ++ ";")]

/-- The lines of a drawing: three to begin with, one for each place, transition and arc in their
order, and one to end with. -/
def drawn (d : Document) : List (List Piece) :=
  [[.code "digraph ", .string d.name, .code " \x7b"],
   [.code "    rankdir=LR;"],
   [.code "    node [fontname=", .string "Helvetica", .code "];"]]
    ++ d.places.zipIdx.map (fun (place, p) =>
      nodePieces (Net.placeNode p) place.caption "circle" "#e3f2fd")
    ++ d.transitions.zipIdx.map (fun (transition, t) =>
      nodePieces (Net.transitionNode t) transition.caption "box" "#ffe0b2")
    ++ d.arcs.map d.arcPieces
    ++ [[.code "\x7d"]]

end Document

namespace Net

open Drawing Document

theorem isPlain_placeNode (p : Nat) : IsPlain (placeNode p) :=
  IsPlain.append (by decide) (isPlain_natText p)

theorem isPlain_transitionNode (t : Nat) : IsPlain (transitionNode t) :=
  IsPlain.append (by decide) (isPlain_natText t)

theorem isPlain_node (d : Document) (id : String) : IsPlain (d.node id) := by
  unfold node
  split
  · exact isPlain_placeNode _
  · exact isPlain_transitionNode _
  · decide

theorem isLine_nodePieces {node shape : String} (plainNode : IsPlain node)
    (plainShape : IsPlain shape) (caption colour : String) :
    IsLine (nodePieces node caption shape colour) := by
  have opening : IsPlain ("    " ++ node ++ " [label=") :=
    (IsPlain.append (by decide) plainNode).append (by decide)
  have middle : IsPlain (", shape=" ++ shape ++ ", style=filled, fillcolor=") :=
    (IsPlain.append (by decide) plainShape).append (by decide)
  exact .more opening (.more middle (.last (by decide)))

theorem isLine_arcPieces (d : Document) (arc : Arc) : IsLine (d.arcPieces arc) := by
  have ends : IsPlain ("    " ++ d.node arc.source ++ " -> " ++ d.node arc.target) :=
    ((IsPlain.append (by decide) (isPlain_node d _)).append (by decide)).append (isPlain_node d _)
  unfold arcPieces
  split
  · exact .more (ends.append (by decide)) (.last (by decide))
  · exact .last (ends.append (by decide))

theorem isLine_drawn (d : Document) : ∀ pieces ∈ d.drawn, IsLine pieces := by
  intro pieces member
  simp only [drawn, List.mem_append, List.mem_cons, List.mem_map, List.not_mem_nil, or_false]
    at member
  rcases member with ((((rfl | rfl | rfl) | ⟨entry, -, rfl⟩) | ⟨entry, -, rfl⟩) | ⟨arc, -, rfl⟩) |
    rfl
  · exact .more (by decide) (.last (by decide))
  · exact .last (by decide)
  · exact .more (by decide) (.last (by decide))
  · exact isLine_nodePieces (isPlain_placeNode _) (by decide) _ _
  · exact isLine_nodePieces (isPlain_transitionNode _) (by decide) _ _
  · exact isLine_arcPieces d arc
  · exact .last (by decide)

/-- A label is its caption with escapes: the line end and the brackets in it are written as
those in an id would be. -/
theorem drawingLabel_place (place : Place) :
    place.drawingLabel = escapeLabel place.caption := by
  rw [Place.caption, escapeLabel_append, escapeLabel_append]
  rfl

theorem drawingLabel_transition (transition : Transition) :
    transition.drawingLabel = escapeLabel transition.caption := by
  unfold Transition.drawingLabel Transition.caption
  cases transition.guard with
  | none => rfl
  | some guard =>
    dsimp only
    rw [escapeLabel_append, escapeLabel_append, escapeLabel_append]
    rfl

theorem toList_placeLine (p : Nat) (place : Place) :
    (placeLine p place).toList =
      write (nodePieces (placeNode p) place.caption "circle" "#e3f2fd") := by
  have colour : escapeLabel "#e3f2fd" = "#e3f2fd" := by decide
  simp [placeLine, drawingLabel_place, write, nodePieces, Piece.chars, colour]

theorem toList_transitionLine (t : Nat) (transition : Transition) :
    (transitionLine t transition).toList =
      write (nodePieces (transitionNode t) transition.caption "box" "#ffe0b2") := by
  have colour : escapeLabel "#ffe0b2" = "#ffe0b2" := by decide
  simp [transitionLine, drawingLabel_transition, write, nodePieces, Piece.chars, colour]

section Arcs

variable {d : Document}

theorem node_of_placeIndex? {id : String} {p : Nat} (known : d.placeIndex? id = some p) :
    d.node id = placeNode p := by
  simp [node, known]

variable (apart : ∀ id ∈ d.transitionIds, id ∉ d.placeIds)
include apart

theorem node_of_transitionIndex? {id : String} {t : Nat} (known : d.transitionIndex? id = some t) :
    d.node id = transitionNode t := by
  obtain ⟨transition, here, named⟩ := exists_of_findIdx?_id known
  have member : id ∈ d.transitionIds :=
    List.mem_map.2 ⟨transition, List.mem_of_getElem? here, named⟩
  have noPlace : d.placeIndex? id = none :=
    Document.placeIndex?_eq_none_iff.2 (apart id member)
  simp [node, noPlace, known]

theorem toList_arcLine {arc : Arc} {flow : Flow} (joins : d.Joins arc flow) :
    (arcLine flow arc).toList = write (d.arcPieces arc) := by
  have ends : (if flow.isInput then
        placeNode flow.place ++ " -> " ++ transitionNode flow.transition
      else transitionNode flow.transition ++ " -> " ++ placeNode flow.place) =
      d.node arc.source ++ " -> " ++ d.node arc.target := by
    rw [← node_of_placeIndex? joins.place, ← node_of_transitionIndex? apart joins.transition]
    cases flow.isInput <;> rfl
  have label : escapeLabel ("[" ++ "][".intercalate arc.keys ++ "]") =
      "[" ++ escapeLabel ("][".intercalate arc.keys) ++ "]" := by
    rw [escapeLabel_append, escapeLabel_append]
    rfl
  unfold arcLine arcPieces Arc.isKeyed
  dsimp only
  rw [ends]
  cases arc.keys.isEmpty <;> simp [write, Piece.chars, label, Text.joined]

theorem map_toList_arcLine {arcs : List Arc} {flows : List Flow}
    (joins : List.Forall₂ d.Joins arcs flows) :
    (List.zipWith arcLine flows arcs).map String.toList = (arcs.map d.arcPieces).map write := by
  induction joins with
  | nil => rfl
  | cons first _ ih =>
    rw [List.zipWith_cons_cons, List.map_cons, List.map_cons, List.map_cons, ih,
      toList_arcLine apart first]

end Arcs

/-- A net is drawn by writing the lines of its document. -/
theorem map_toList_drawingLines {net : Net} (formed : net.WellFormed) :
    net.drawingLines.map String.toList = net.document.drawn.map write := by
  have apart : ∀ id ∈ net.document.transitionIds, id ∉ net.document.placeIds := formed.idsApart
  have font : escapeLabel "Helvetica" = "Helvetica" := by decide
  have places := List.map_congr_left fun (entry : Place × Nat) (_ : entry ∈ net.places.zipIdx) =>
    toList_placeLine entry.2 entry.1
  have transitions := List.map_congr_left
    fun (entry : Transition × Nat) (_ : entry ∈ net.transitions.zipIdx) =>
      toList_transitionLine entry.2 entry.1
  have arcs := map_toList_arcLine apart formed.joins
  simp only [drawingLines, drawn, List.map_append, List.map_map, Function.comp_def] at arcs ⊢
  rw [places, transitions, arcs]
  simp [write, Piece.chars, font, name, Net.places, Net.transitions, Net.arcs]

/-- A drawing has a line for each place, each transition and each arc, and four more. Each reads
back as the line that belongs there. -/
theorem drawing_exact {d : Document} {net : Net} (valid : ofDocument d = .ok net) :
    ∃ lines : List (List Char), net.drawing.toList.splitOn '\n' = lines ++ [[]] ∧
      lines.length = d.places.length + d.transitions.length + d.arcs.length + 4 ∧
      lines.map readLine = d.drawn.map some := by
  have written := map_toList_drawingLines (wellFormed_of_ofDocument valid)
  rw [document_of_ofDocument valid] at written
  refine ⟨d.drawn.map write, ?_, ?_, ?_⟩
  · have whole : ∀ line ∈ d.drawn.map write, '\n' ∉ line := by
      intro line member
      obtain ⟨pieces, isDrawn, rfl⟩ := List.mem_map.1 member
      exact newline_not_mem_write (isLine_drawn d pieces isDrawn)
    rw [← splitOn_lines whole, ← written]
    simp [drawing, Text.lines, String.toList_join, List.flatMap_map]
  · simp [drawn]
    omega
  · rw [List.map_map]
    refine List.map_congr_left fun pieces isDrawn => ?_
    exact readLine_write (isLine_drawn d pieces isDrawn)

/-- A net whose texts end strings, escape marks and start lines. -/
def riddle : Document where
  name := "a \"net\"\n"
  version := "1"
  places := [⟨"in\\", .data, .str "\"\\n", false, none⟩, ⟨"out", .token, .int 2, false, none⟩]
  transitions := [{ id := "\"];", guard := some "x\n[\"\\\"]", rate := 1.0 },
    { id := "\\n", guard := none, rate := 1.0 }]
  arcs := [⟨"in\\", "\"];", ["\"", "]["], none⟩, ⟨"\\n", "out", [], none⟩]
  invariants := []

/-- The initial value has escapes of its own, which stay. -/
theorem drawing_exact_riddle :
    ∃ (net : Net) (lines : List (List Char)), ofDocument riddle = .ok net ∧
      net.drawing.toList.splitOn '\n' = lines ++ [[]] ∧ lines.length = 10 ∧
      lines.map readLine = [
        some [.code "digraph ", .string "a \"net\"\n", .code " \x7b"],
        some [.code "    rankdir=LR;"],
        some [.code "    node [fontname=", .string "Helvetica", .code "];"],
        some [.code "    place_0 [label=", .string "in\\\n\"\\\"\\\\n\"",
          .code ", shape=circle, style=filled, fillcolor=", .string "#e3f2fd", .code "];"],
        some [.code "    place_1 [label=", .string "out\n2",
          .code ", shape=circle, style=filled, fillcolor=", .string "#e3f2fd", .code "];"],
        some [.code "    trans_0 [label=", .string "\"];\n[x\n[\"\\\"]]",
          .code ", shape=box, style=filled, fillcolor=", .string "#ffe0b2", .code "];"],
        some [.code "    trans_1 [label=", .string "\\n",
          .code ", shape=box, style=filled, fillcolor=", .string "#ffe0b2", .code "];"],
        some [.code "    place_0 -> trans_0 [label=", .string "[\"][][]",
          .code ", style=dashed];"],
        some [.code "    trans_1 -> place_1;"],
        some [.code "\x7d"]] := by
  obtain ⟨lines, apart, count, read⟩ := drawing_exact (d := riddle) rfl
  exact ⟨_, lines, rfl, apart, count, read.trans (by decide)⟩

end Net

end GuardedNet
