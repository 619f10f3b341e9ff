import RecordFilter.Number.Integer
import RecordFilter.Text.LowerCase

/-!
# Value — what a field holds and a condition compares with

Numbers compare with numbers, whether integer or double, and exactly; texts compare with texts, code
point by code point; truth values compare with truth values. Nothing else has an order, nulls least
of all.
-/

namespace RecordFilter

/-- A value of one of five kinds. Integers have 64 bits, doubles are given by theirs. -/
inductive Value
  | null
  | bool (b : Bool)
  | int (n : Int64)
  | float (x : Double)
  | str (s : String)
deriving DecidableEq

namespace Value

def isNull : Value → Bool
  | null => true
  | _ => false

/-- The text of a text; other kinds have none. -/
def asStr? : Value → Option String
  | str s => some s
  | _ => none

/-- A missing value is null. -/
def ofOption : Option Value → Value := fun v => v.getD null

/-- The order of two values; nothing where they have none. -/
def compare? : Value → Value → Option Ordering
  | int a, int b => some (compare a b)
  | int a, float y => y.compareInteger? a
  | float x, int b => (x.compareInteger? b).map Ordering.swap
  | float x, float y => x.compare? y
  | str a, str b => some (compare a b)
  | bool a, bool b => some (compare a b)
  | _, _ => none

/-- Same kind and same content, where the content of doubles is compared as numbers: the two zeros
agree, and NaN agrees with nothing. -/
def sameAs : Value → Value → Bool
  | null, null => true
  | bool a, bool b => a = b
  | int m, int n => m = n
  | float x, float y => x.equals y
  | str a, str b => a = b
  | _, _ => false

/-- Equality as a filter sees it: as `sameAs`, but an integer and a double are equal if they denote
the same number. -/
def equals : Value → Value → Bool
  | a@(int _), b@(float _) => a.compare? b = some .eq
  | a@(float _), b@(int _) => a.compare? b = some .eq
  | a, b => a.sameAs b

/-- Equality of texts in lower case; of other values as `equals`. -/
def equalsIgnoreCase : Value → Value → Bool
  | str a, str b => Text.lower a = Text.lower b
  | a, b => a.equals b

end Value

end RecordFilter
