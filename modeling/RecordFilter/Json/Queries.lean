import RecordFilter.Downgrade.Conversion
import RecordFilter.Fragment.Basic
import RecordFilter.Json.Values
import RecordFilter.Settings

/-!
# Json/Queries — settings, conversions and fragments as trees
-/

namespace RecordFilter

namespace Settings

/-- Settings are written flag by flag, all of them. -/
def toJson (s : Settings) : Json := .obj (s.flags.map fun (name, on) => (name, .bool on))

/-- A flag that is left out has its default. -/
def flagOr (default : Bool) : Option Json → Option Bool
  | none => some default
  | some j => j.bool?

/-- Flags may be left out, and other keys are ignored. -/
def ofJson? (j : Json) : Option Settings := do
  let defaults : Settings := {}
  match ← j.fields? (defaults.flags.map Prod.fst) with
  | [a, b, c, d, e] =>
    return {
      sensitiveLike := ← flagOr defaults.sensitiveLike a
      insensitiveLike := ← flagOr defaults.insensitiveLike b
      sensitiveCompare := ← flagOr defaults.sensitiveCompare c
      useRegex := ← flagOr defaults.useRegex d
      useLikeForCompare := ← flagOr defaults.useLikeForCompare e }
  | _ => none

instance : JsonForm Settings := ⟨toJson, ofJson?⟩

end Settings

namespace Mode

/-- A mode is written as its name. -/
def toJson (m : Mode) : Json := .str m.name

def ofJson? (j : Json) : Option Mode := j.unit? ([equals, like, native].map fun m => (m.name, m))

instance : JsonForm Mode := ⟨toJson, ofJson?⟩

end Mode

namespace Conversion

/-- A conversion is written with its mode, whether case counts, and its pattern or expression. -/
def toJson (c : Conversion) : Json := .obj [
  ("mode", c.mode.toJson),
  ("case_sensitive", .bool c.caseSensitive),
  ("source", .str c.source)]

/-- All three members have to be there; other keys are ignored. -/
def ofJson? (j : Json) : Option Conversion := do
  match ← j.exactFields? ["mode", "case_sensitive", "source"] with
  | [some mode, some caseSensitive, some source] =>
    return ⟨← Mode.ofJson? mode, ← caseSensitive.bool?, ← source.str?⟩
  | _ => none

instance : JsonForm Conversion := ⟨toJson, ofJson?⟩

end Conversion

namespace Column

/-- A column is written with its table only if it has one. -/
def toJson (c : Column) : Json :=
  .obj [("table", .ofOption (c.table.map Json.str)), ("name", .str c.name)]

/-- The table may be left out. -/
def ofJson? (j : Json) : Option Column := do
  match ← j.exactFields? ["table", "name"] with
  | [table, some name] => return ⟨← (table.getD .null).strOrNull?, ← name.str?⟩
  | _ => none

instance : JsonForm Column := ⟨toJson, ofJson?⟩

end Column

namespace Comparison

/-- All comparisons, among which one is found by its name. -/
def all : List Comparison :=
  [equal, inequality .gt, inequality .lt, inequality .gte, inequality .lte]

/-- The name of a comparison, as it is written; a backend knows it by its symbol. -/
def name : Comparison → String
  | equal => "Eq"
  | inequality .gt => "Gt"
  | inequality .lt => "Lt"
  | inequality .gte => "Gte"
  | inequality .lte => "Lte"

/-- A comparison is written as its name. -/
def toJson (c : Comparison) : Json := .str c.name

def ofJson? (j : Json) : Option Comparison := j.unit? (all.map fun c => (c.name, c))

instance : JsonForm Comparison := ⟨toJson, ofJson?⟩

end Comparison

namespace Fragment

/-- A fragment is written as a variant that names its shape and holds its fields, the column
first. -/
def toJson : Fragment → Json
  | never => .str "Never"
  | isNull column => .variant "IsNull" (.obj [("column", column.toJson)])
  | compare column op value => .variant "Compare" (.obj [
      ("column", column.toJson), ("op", op.toJson), ("value", value.toJson)])
  | lowerEquals column value => .variant "LowerEquals" (.obj [
      ("column", column.toJson), ("value", .str value)])
  | wildcard column pattern caseSensitive negated => .variant "Match" (.obj [
      ("column", column.toJson), ("pattern", .str pattern),
      ("case_sensitive", .bool caseSensitive), ("negated", .bool negated)])
  | regex column source caseSensitive => .variant "Regex" (.obj [
      ("column", column.toJson), ("source", .str source), ("case_sensitive", .bool caseSensitive)])
  | oneOf column values orNull => .variant "In" (.obj [
      ("column", column.toJson), ("values", .arr (values.map Value.toJson)),
      ("or_null", .bool orNull)])
  | within column range => .variant "Range" (.obj [
      ("column", column.toJson), ("range", range.toJson)])

/-- The names of a variant's fields. -/
def fieldNames : String → List String
  | "IsNull" => ["column"]
  | "Compare" => ["column", "op", "value"]
  | "LowerEquals" => ["column", "value"]
  | "Match" => ["column", "pattern", "case_sensitive", "negated"]
  | "Regex" => ["column", "source", "case_sensitive"]
  | "In" => ["column", "values", "or_null"]
  | "Range" => ["column", "range"]
  | _ => []

/-- A variant by its name and its fields, of which the first is the column. -/
def ofFields? (name : String) (column : Column) (fields : List Json) : Option Fragment :=
  match name, fields with
  | "IsNull", [] => some (isNull column)
  | "Compare", [op, value] =>
    do return compare column (← Comparison.ofJson? op) (← Value.ofJson? value)
  | "LowerEquals", [value] => do return lowerEquals column (← value.str?)
  | "Match", [pattern, caseSensitive, negated] =>
    do return wildcard column (← pattern.str?) (← caseSensitive.bool?) (← negated.bool?)
  | "Regex", [source, caseSensitive] =>
    do return regex column (← source.str?) (← caseSensitive.bool?)
  | "In", [values, orNull] =>
    do return oneOf column (← (← values.arr?).mapM Value.ofJson?) (← orNull.bool?)
  | "Range", [range] => do return within column (← Range.ofJson? range)
  | _, _ => none

/-- Reads what `toJson` writes. The shape that selects nothing has no content. -/
def ofJson? (j : Json) : Option Fragment :=
  match j.variant? with
  | some ("Never", content) => if Json.isNoContent content then some never else none
  | some (name, some content) => do
    match ← (← content.exactFields? (fieldNames name)).mapM id with
    | column :: fields => ofFields? name (← Column.ofJson? column) fields
    | [] => none
  | _ => none

/-- The form of fragments, in which they are handed to what writes them in a dialect. -/
instance : JsonForm Fragment := ⟨toJson, ofJson?⟩

end Fragment

end RecordFilter
