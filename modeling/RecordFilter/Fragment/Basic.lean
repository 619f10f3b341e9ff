import RecordFilter.Operator
import RecordFilter.Range

/-!
# Fragment — the query shapes that conditions compile to

A fragment names a shape and its operands. Writing it down in the dialect of a backend is left to
whoever consumes it.
-/

namespace RecordFilter

/-- A column, which may be qualified by its table. -/
structure Column where
  table : Option String := none
  name : String
deriving DecidableEq

def Column.text (c : Column) : String :=
  match c.table with
  | some t => t ++ "." ++ c.name
  | none => c.name

/-- What a fragment may ask of a column and a value. -/
inductive Comparison
  | equal
  | inequality (i : Inequality)
deriving DecidableEq

/-- The comparison as it is written in most dialects. -/
def Comparison.symbol : Comparison → String
  | equal => "="
  | inequality .gt => ">"
  | inequality .lt => "<"
  | inequality .gte => ">="
  | inequality .lte => "<="

/-- A query shape with its operands. Every shape but `never` is about one column. -/
inductive Fragment
  /-- Selects no row. -/
  | never
  | isNull (column : Column)
  | compare (column : Column) (op : Comparison) (value : Value)
  /-- The column in lower case equals a text, which is in lower case already. -/
  | lowerEquals (column : Column) (value : String)
  /-- A wildcard match, which may be negated. -/
  | wildcard (column : Column) (pattern : String) (caseSensitive negated : Bool)
  | regex (column : Column) (source : String) (caseSensitive : Bool)
  /-- One of the values, or also null. -/
  | oneOf (column : Column) (values : List Value) (orNull : Bool)
  | within (column : Column) (range : Range)
deriving DecidableEq

namespace Fragment

/-- The column that the fragment is about. -/
def column? : Fragment → Option Column
  | never => none
  | isNull c => some c
  | compare c _ _ => some c
  | lowerEquals c _ => some c
  | wildcard c _ _ _ => some c
  | regex c _ _ => some c
  | oneOf c _ _ => some c
  | within c _ => some c

/-- Same shape and same content. -/
def sameAs : Fragment → Fragment → Bool
  | never, never => true
  | isNull c, isNull d => c = d
  | compare c op v, compare d op' w => c = d && op = op' && v.sameAs w
  | lowerEquals c v, lowerEquals d w => c = d && v = w
  | wildcard c p s n, wildcard d q s' n' => c = d && p = q && s = s' && n = n'
  | regex c e s, regex d e' s' => c = d && e = e' && s = s'
  | oneOf c vs n, oneOf d ws n' =>
    c = d && vs.length = ws.length && ((vs.zip ws).all fun (v, w) => v.sameAs w) && n = n'
  | within c r, within d r' => c = d && r.sameAs r'
  | _, _ => false

end Fragment

end RecordFilter
