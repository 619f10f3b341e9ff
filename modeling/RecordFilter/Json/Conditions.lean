import RecordFilter.Condition
import RecordFilter.Json.Values

/-!
# Json/Conditions — operators and conditions as trees

They are written only. A wildcard pattern is written as its text, whether or not it ignores case,
and a regular expression between slashes.
-/

namespace RecordFilter

/-- A kind is written as its name, which is also what stands before the operand of an operator. -/
def OperatorKind.toJson (k : OperatorKind) : Json := .str k.name

/-- The operand of an operator: a value as a tree, a pattern as its text. Whether a wildcard pattern
ignores case is told by the kind alone. -/
def Operator.operandJson : Operator → Json
  | ordered _ v => v.toJson
  | equalsIgnoreCase v => v.toJson
  | like p => .str p.pattern
  | notLike p => .str p.pattern
  | likeIgnoreCase p => .str p.pattern
  | regex p => .str p.diagnostic

/-- An operator is written as a variant named by its kind. -/
def Operator.toJson (o : Operator) : Json := .variant o.kind.name o.operandJson

/-- A condition is written as a variant named by its form. -/
def Condition.toJson : Condition → Json
  | equals v => .variant "Equals" v.toJson
  | isNull => .str "Null"
  | oneOf values => .variant "In" (.arr (values.map Value.toJson))
  | within range => .variant "Range" range.toJson
  | operator o => .variant "Operator" o.toJson

/-- A set of conditions is written as the list of its fields with their conditions, in order. -/
def Conditions.toJson (cs : Conditions) : Json :=
  .obj [("entries", .arr (cs.entries.map fun (name, c) => .arr [.str name, c.toJson]))]

end RecordFilter
