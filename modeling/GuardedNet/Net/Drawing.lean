import GuardedNet.Net.Basic

/-!
# Drawings of a net

The graph of a net in the DOT language: places as circles, transitions as boxes, arcs with
keys dashed. Labels are quoted so that no name can end its string.
-/

namespace GuardedNet

/-- One character of a label. -/
def escapeLabelChar (c : Char) : List Char :=
  if c == '"' then ['\\', '"']
  else if c == '\\' then ['\\', '\\']
  else if c == '\n' then ['\\', 'n']
  else [c]

/-- A text as part of a label. -/
def escapeLabel (s : String) : String := String.ofList (s.toList.flatMap escapeLabelChar)

/-- The label of a place: its id and, on a second line, its initial value. -/
def Place.drawingLabel (place : Place) : String :=
  escapeLabel place.id ++ "\\n" ++ escapeLabel place.initial.render

/-- The label of a transition: its id and, on a second line, its guard in brackets. -/
def Transition.drawingLabel (transition : Transition) : String :=
  match transition.guard with
  | some guard => escapeLabel transition.id ++ "\\n[" ++ escapeLabel guard ++ "]"
  | none => escapeLabel transition.id

namespace Net

/-- The name of a place in a drawing. -/
def placeNode (index : Nat) : String := "place_" ++ Number.natText index

/-- The name of a transition in a drawing. -/
def transitionNode (index : Nat) : String := "trans_" ++ Number.natText index

/-- The line of a place. -/
def placeLine (index : Nat) (place : Place) : String :=
  "    " ++ placeNode index ++ " [label=\"" ++ place.drawingLabel
    ++ "\", shape=circle, style=filled, fillcolor=\"#e3f2fd\"];"

/-- The line of a transition. -/
def transitionLine (index : Nat) (transition : Transition) : String :=
  "    " ++ transitionNode index ++ " [label=\"" ++ transition.drawingLabel
    ++ "\", shape=box, style=filled, fillcolor=\"#ffe0b2\"];"

/-- The line of an arc. -/
def arcLine (flow : Flow) (arc : Arc) : String :=
  let place := placeNode flow.place
  let transition := transitionNode flow.transition
  let ends :=
    if flow.isInput then place ++ " -> " ++ transition else transition ++ " -> " ++ place
  if arc.keys.isEmpty then "    " ++ ends ++ ";"
  else "    " ++ ends ++ " [label=\"[" ++ escapeLabel (Text.joined "][" arc.keys)
    ++ "]\", style=dashed];"

/-- The lines of the drawing of a net. -/
def drawingLines (net : Net) : List String :=
  ["digraph \"" ++ escapeLabel net.name ++ "\" \x7b",
   "    rankdir=LR;",
   "    node [fontname=\"Helvetica\"];"]
    ++ net.places.zipIdx.map (fun (place, index) => placeLine index place)
    ++ net.transitions.zipIdx.map (fun (transition, index) => transitionLine index transition)
    ++ List.zipWith arcLine net.flows net.arcs
    ++ ["\x7d"]

/-- The drawing of a net. -/
def drawing (net : Net) : String := Text.lines net.drawingLines

end Net

end GuardedNet
