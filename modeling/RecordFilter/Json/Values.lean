import RecordFilter.Json.Form
import RecordFilter.Range
import RecordFilter.Row
import RecordFilter.Truth

/-!
# Json/Values — values, ranges, truth values and rows as trees
-/

namespace RecordFilter

namespace Value

/-- A value is written as a variant that names its kind, so that an integer is never taken for a
double. -/
def toJson : Value → Json
  | null => .str "Null"
  | bool b => .variant "Bool" (.bool b)
  | int n => .variant "Int" (.int n.toInt)
  | float x => .variant "Float" (.ofDouble x)
  | str s => .variant "Str" (.str s)

/-- Reads what `toJson` writes. An integer has to fit into 64 bits, and null has no content. -/
def ofJson? (j : Json) : Option Value :=
  match j.variant? with
  | some ("Null", content) => if Json.isNoContent content then some null else none
  | some ("Bool", some content) => content.bool?.map bool
  | some ("Int", some content) => content.int64?.map int
  | some ("Float", some content) => content.double?.map float
  | some ("Str", some content) => content.str?.map str
  | _ => none

/-- The form of values, on which those of conditions, fragments and rows are built. -/
instance : JsonForm Value := ⟨toJson, ofJson?⟩

end Value

namespace Bound

/-- A bound is written with its value, and `Unbounded` as its name alone. -/
def toJson : Bound → Json
  | included v => .variant "Included" v.toJson
  | excluded v => .variant "Excluded" v.toJson
  | unbounded => .str "Unbounded"

/-- Reads what `toJson` writes. -/
def ofJson? (j : Json) : Option Bound :=
  match j.variant? with
  | some ("Unbounded", content) => if Json.isNoContent content then some unbounded else none
  | some ("Included", some content) => (Value.ofJson? content).map included
  | some ("Excluded", some content) => (Value.ofJson? content).map excluded
  | _ => none

instance : JsonForm Bound := ⟨toJson, ofJson?⟩

end Bound

namespace Range

/-- A range is written as an object of its two ends. -/
def toJson (r : Range) : Json := .obj [("start", r.start.toJson), ("end", r.stop.toJson)]

/-- Both ends have to be there; other keys are ignored. -/
def ofJson? (j : Json) : Option Range := do
  match ← j.exactFields? ["start", "end"] with
  | [some start, some stop] => return ⟨← Bound.ofJson? start, ← Bound.ofJson? stop⟩
  | _ => none

instance : JsonForm Range := ⟨toJson, ofJson?⟩

end Range

namespace Truth

/-- The name of an outcome, as it is written. -/
def name : Truth → String
  | holds => "True"
  | fails => "False"
  | unknown => "Unknown"

/-- An outcome is written as its name. -/
def toJson (t : Truth) : Json := .str t.name

def ofJson? (j : Json) : Option Truth :=
  j.unit? ([holds, fails, unknown].map fun t => (t.name, t))

instance : JsonForm Truth := ⟨toJson, ofJson?⟩

end Truth

namespace Row

/-- A row is written as one object of its fields, in their order. -/
def toJson (r : Row) : Json :=
  .obj [("values", .obj (r.entries.map fun (name, v) => (name, v.toJson)))]

/-- A field that comes more than once has its last value. -/
def ofJson? (j : Json) : Option Row := do
  match ← j.exactFields? ["values"] with
  | [some values] =>
    let entries ← (← values.obj?).mapM fun (name, j) => do return (name, ← Value.ofJson? j)
    return FieldMap.ofList entries
  | _ => none

instance : JsonForm Row := ⟨toJson, ofJson?⟩

end Row

end RecordFilter
