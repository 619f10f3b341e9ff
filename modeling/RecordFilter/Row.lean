import RecordFilter.FieldMap
import RecordFilter.Value.Basic
import Std.Data.HashMap
import Std.Data.TreeMap

/-!
# Row — records and what can be read from them
-/

namespace RecordFilter

/-- Anything that holds named field values. -/
class Record (ρ : Type) where
  field? : ρ → String → Option Value

/-- A record of its own: values by field name. -/
abbrev Row := FieldMap Value

namespace Row

/-- Same fields with values that agree; the order of fields does not matter. -/
def sameAs (r s : Row) : Bool := FieldMap.sameContents Value.sameAs r s

end Row

instance : Record Row := ⟨FieldMap.get?⟩

/-- A row read as a record is read as the map that it is. -/
@[simp] theorem Row.field?_eq (row : Row) (name : String) :
    Record.field? row name = row.get? name :=
  rfl

instance : Record (Std.HashMap String Value) := ⟨fun m name => m[name]?⟩

instance : Record (Std.TreeMap String Value) := ⟨fun m name => m[name]?⟩

/-- A reference to one of the records of a list. -/
structure Reference {ρ : Type} (records : List ρ) where
  position : Fin records.length

namespace Reference

variable {ρ : Type} {records : List ρ}

instance : DecidableEq (Reference records) := fun ⟨i⟩ ⟨j⟩ =>
  decidable_of_iff (i = j) ⟨congrArg mk, congrArg position⟩

/-- The record that a reference is to. -/
def target (reference : Reference records) : ρ := records.get reference.position

/-- References to all records, in order. -/
def all (records : List ρ) : List (Reference records) := (List.finRange records.length).map mk

end Reference

/-- A reference reads as its target does. -/
instance {ρ : Type} [Record ρ] {records : List ρ} : Record (Reference records) :=
  ⟨fun reference => Record.field? reference.target⟩

/-- The value of a field; a missing field reads as null. -/
def Record.valueOf {ρ : Type} [Record ρ] (record : ρ) (name : String) : Value :=
  .ofOption (field? record name)

end RecordFilter
