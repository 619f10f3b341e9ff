import RecordFilter.Json.Basic

/-!
# Json/Form — how types are written as trees and read from them

A variant of a type is its name alone, or an object with its name as the only key and the content as
value. A structure is an object with its fields, or an array of them in order.
-/

namespace RecordFilter

/-- Types with a tree form, which is read back from the form and its variations. -/
class JsonForm (α : Type) where
  toJson : α → Json
  ofJson? : Json → Option α

namespace Json

/-- A variant with content. -/
def variant (name : String) (content : Json) : Json := obj [(name, content)]

/-- The name of a variant, and its content if it is given. -/
def variant? : Json → Option (String × Option Json)
  | str name => some (name, none)
  | obj [(name, content)] => some (name, some content)
  | _ => none

/-- Content of a variant that has none: it is left out or null. -/
def isNoContent : Option Json → Bool
  | none => true
  | some null => true
  | _ => false

/-- A variant without content, out of those listed with their names. -/
def unit? {α : Type} (units : List (String × α)) (j : Json) : Option α := do
  let (name, content) ← j.variant?
  if isNoContent content then units.lookup name else none

def bool? : Json → Option Bool
  | bool b => some b
  | _ => none

def int64? : Json → Option Int64
  | int n => if Int64.minValue.toInt ≤ n ∧ n ≤ Int64.maxValue.toInt then some (.ofInt n) else none
  | _ => none

/-- A double; an integer stands for the double nearest to it. -/
def double? : Json → Option Double
  | float x => some x
  | int n => some (.ofInt n)
  | _ => none

def str? : Json → Option String
  | str s => some s
  | _ => none

/-- An optional text, which may be null. -/
def strOrNull? : Json → Option (Option String)
  | str s => some (some s)
  | null => some none
  | _ => none

def arr? : Json → Option (List Json)
  | arr items => some items
  | _ => none

def obj? : Json → Option (List (String × Json))
  | obj members => some members
  | _ => none

/-- The value of a key: nothing inside if it is missing, nothing at all if it comes twice. -/
def field? (members : List (String × Json)) (name : String) : Option (Option Json) :=
  match members.filter (·.1 = name) with
  | [] => some none
  | [(_, j)] => some (some j)
  | _ => none

/-- The fields of a structure, in the order of their names. Keys that are no field are ignored;
items of an array stand for the fields in order. -/
def fields? (names : List String) : Json → Option (List (Option Json))
  | obj members => names.mapM (field? members)
  | arr items =>
    if items.length ≤ names.length then
      some (items.map some ++ List.replicate (names.length - items.length) none)
    else none
  | _ => none

/-- As `fields?`, but an array has to hold every field. -/
def exactFields? (names : List String) (j : Json) : Option (List (Option Json)) :=
  match j with
  | arr items => if items.length = names.length then j.fields? names else none
  | _ => j.fields? names

end Json

end RecordFilter
