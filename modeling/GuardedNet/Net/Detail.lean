import GuardedNet.Net.Basic

/-!
# Detailed texts

Values, elements and nets on one line with all that they hold, for tracing.
-/

namespace GuardedNet

namespace Value

mutual

/-- A value with the names of its kinds. -/
def detail : Value → String
  | .bool b => "Bool(" ++ Text.ofBool b ++ ")"
  | .int n => "Int(" ++ Number.intText n ++ ")"
  | .str s => "Str(" ++ Text.quoted s ++ ")"
  | .list items => "List(" ++ Text.bracketed (itemDetails items) ++ ")"
  | .map entries => "Map(" ++ Text.braced (entryDetails entries) ++ ")"

/-- Each item with the names of its kinds. -/
def itemDetails : List Value → List String
  | [] => []
  | v :: vs => v.detail :: itemDetails vs

/-- Each entry with the names of its kinds. -/
def entryDetails : List (String × Value) → List String
  | [] => []
  | (k, v) :: rest => (Text.quoted k ++ ": " ++ v.detail) :: entryDetails rest

end

end Value

/-- A kind of place. -/
def PlaceKind.detail : PlaceKind → String
  | .token => "Token"
  | .data => "Data"

/-- A place with all its fields. -/
def Place.detail (place : Place) : String :=
  Text.record "Place"
    [("id", Text.quoted place.id), ("kind", place.kind.detail), ("initial", place.initial.detail),
     ("exported", Text.ofBool place.exported),
     ("capacity", Text.optional (place.capacity.map Number.intText))]

/-- A transition with all its fields. -/
def Transition.detail (transition : Transition) : String :=
  Text.record "Transition"
    [("id", Text.quoted transition.id),
     ("guard", Text.optional (transition.guard.map Text.quoted)),
     ("rate", Number.detailedStyle.text transition.rate)]

/-- An arc with all its fields. -/
def Arc.detail (arc : Arc) : String :=
  Text.record "Arc"
    [("source", Text.quoted arc.source), ("target", Text.quoted arc.target),
     ("keys", Text.bracketed (arc.keys.map Text.quoted)),
     ("value", Text.optional (arc.value.map Text.quoted))]

/-- An invariant with all its fields. -/
def Invariant.detail (invariant : Invariant) : String :=
  Text.record "Invariant"
    [("id", Text.quoted invariant.id), ("expression", Text.quoted invariant.expression)]

/-- A net with all that its document holds. -/
def Net.detail (net : Net) : String :=
  Text.record "Model"
    [("name", Text.quoted net.name), ("version", Text.quoted net.document.version),
     ("places", Text.bracketed (net.places.map Place.detail)),
     ("transitions", Text.bracketed (net.transitions.map Transition.detail)),
     ("arcs", Text.bracketed (net.arcs.map Arc.detail)),
     ("invariants", Text.bracketed (net.document.invariants.map Invariant.detail))]

end GuardedNet
