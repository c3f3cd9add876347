import GuardedNet.Ron.Numeral
import GuardedNet.Ron.Read

/-!
# Looking into RON documents

Decoders for the parts of records, and what may stand in a field that nobody asks for.
-/

namespace GuardedNet.Ron

mutual

/-- Whether a document can be passed over. -/
def isSkippable : Ron → Bool
  | .numeral text => isAnyNumber text
  | .present part => part.isSkippable
  | .list items => areSkippable items
  | .map entries => entriesSkippable entries
  | .tuple _ items => areSkippable items
  | .record _ fields => fieldsSkippable fields
  | _ => true

/-- Whether all items can be passed over. -/
def areSkippable : List Ron → Bool
  | [] => true
  | r :: rs => r.isSkippable && areSkippable rs

/-- Whether all entries can be passed over. -/
def entriesSkippable : List (Ron × Ron) → Bool
  | [] => true
  | (k, r) :: rest => k.isSkippable && r.isSkippable && entriesSkippable rest

/-- Whether all fields can be passed over. -/
def fieldsSkippable : List (String × Ron) → Bool
  | [] => true
  | (_, r) :: rest => r.isSkippable && fieldsSkippable rest

end

/-- A truth value. -/
def bool? : Ron → Option Bool
  | .bool b => some b
  | _ => none

/-- A bounded integer. -/
def int? : Ron → Option Int
  | .numeral text => boundedOf? text
  | _ => none

/-- A number as a double. -/
def float? : Ron → Option Float
  | .numeral text => doubleOf? text
  | _ => none

/-- Whether a document is what is not a number, with a minus sign. -/
def isMinusNaN : Ron → Bool
  | .numeral text => isNegatedNaN text
  | _ => false

/-- A string. -/
def text? : Ron → Option String
  | .str s => some s
  | _ => none

/-- A list of parts that all decode. -/
def list? {α : Type} (decode : Ron → Option α) : Ron → Option (List α)
  | .list items => items.mapM decode
  | _ => none

/-- An optional part, which says whether it is there unless the dialect spares it that. -/
def optional? {α : Type} (dialect : Dialect) (decode : Ron → Option α) :
    Ron → Option (Option α)
  | .absent => some none
  | .present part => (decode part).map some
  | part => if dialect.implicitSome then (decode part).map some else none

/-- The fields of a record in the order of `names`; its own name may be left out unless the
dialect forbids it. No known field may stand twice, and unknown ones are passed over. -/
def record? (dialect : Dialect) (name : String) (names : List String) (r : Ron) :
    Option (List (Option Ron)) := do
  let (found, fields) ← match r with
    | .record found fields => some (found, fields)
    | .tuple found [] => some (found, [])
    | .unit => some (none, [])
    | _ => none
  if found.getD name != name || (dialect.explicitNames && found.isNone) then none
  else if !(fields.all fun field => names.contains field.1 || field.2.isSkippable) then none
  else names.mapM fun name =>
    match fields.filter fun field => field.1 == name with
    | [] => some none
    | [field] => some (some field.2)
    | _ => none

/-- A field that must be present. -/
def required? {α : Type} (decode : Ron → Option α) : Option Ron → Option α
  | some r => decode r
  | none => none

/-- A field with a value for the case that it is absent. -/
def withDefault? {α : Type} (default : α) (decode : Ron → Option α) : Option Ron → Option α
  | some r => decode r
  | none => some default

end GuardedNet.Ron
