import RecordFilter.Condition
import RecordFilter.Event

/-!
# Fragment/Compile — the fragment of each operator and condition

Most operators have exactly one shape. Equality that ignores case and regular expressions depend on
the settings: the first is a wildcard match without wildcards, a comparison with the column in lower
case, or plain equality where that ignores case; the second becomes an equality or a wildcard match
where it says no more than one, and stays as it is otherwise.
-/

namespace RecordFilter

/-- A comparison by order. With null it is never true. -/
def Inequality.fragment (i : Inequality) (column : Column) (operand : Value) : Fragment :=
  if operand.isNull then .never else .compare column (.inequality i) operand

/-- Equality that ignores case, with the text that a pattern without wildcards stands for. -/
def Settings.equalsIgnoreCase (s : Settings) (column : Column) (escaped : String) : Fragment :=
  if s.useLikeForCompare then .wildcard column escaped false false
  else if s.sensitiveCompare then .lowerEquals column (Text.lower (Like.unescape escaped))
  else .compare column .equal (.str (Like.unescape escaped))

/-- What a converted regular expression compiles to. -/
def Conversion.fragment (c : Conversion) (s : Settings) (column : Column) : Except Error Fragment :=
  match c.mode with
  | .equals =>
    .ok (if c.caseSensitive then .compare column .equal (.str c.literal)
      else s.equalsIgnoreCase column c.source)
  | .like => .ok (.wildcard column c.source c.caseSensitive false)
  | .native =>
    if s.useRegex then .ok (.regex column c.source c.caseSensitive)
    else .error (.unsupported column.text c.source)

/-- A regular expression reports what became of it, also where it then fails to compile. -/
def RegexPattern.compileFor (p : RegexPattern) (s : Settings) (column : Column) :
    Action Fragment := do
  let conversion := Downgrade.convert p.source p.ignoreCase
  report (.regexDowngrade column conversion.mode conversion.caseSensitive)
  ofExcept (conversion.fragment s column)

/-- The fragment of an operator on a column. -/
def Operator.compile (o : Operator) (s : Settings) (column : Column) : Action Fragment :=
  match o with
  | ordered i operand => return i.fragment column operand
  | equalsIgnoreCase .null => return .isNull column
  | equalsIgnoreCase (.str text) => return s.equalsIgnoreCase column (Like.escape text)
  | equalsIgnoreCase operand => return .compare column .equal operand
  | like p => return .wildcard column p.pattern true false
  | notLike p => return .wildcard column p.pattern true true
  | likeIgnoreCase p => return .wildcard column p.pattern false false
  | regex p => p.compileFor s column

/-- The fragment of a condition on a column. -/
def Condition.compile (c : Condition) (s : Settings) (column : Column) : Action Fragment :=
  match c with
  | isNull => return .isNull column
  | equals expected =>
    return if expected.isNull then .isNull column else .compare column .equal expected
  | oneOf values =>
    return .oneOf column (values.filter fun v => !v.isNull) (values.any Value.isNull)
  | within range => return .within column range
  | operator o => o.compile s column

/-- One fragment per condition, in order, each on the column of its field's name; or the first
failure. -/
def Conditions.compile (cs : Conditions) (s : Settings) : Action (List Fragment) :=
  cs.entries.mapM fun (field, condition) => condition.compile s { name := field }

end RecordFilter
