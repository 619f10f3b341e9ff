import RecordFilter.Like.Pattern
import RecordFilter.Like.Token
import RecordFilter.RegexPattern
import RecordFilter.Truth
import RecordFilter.Value.Text

/-!
# Operator — tests of one value

An operator compares a value with its operand. A null on either side has no truth value, with one
exception: ignoring case, null equals null. Patterns look at the plain text of a value.
-/

namespace RecordFilter

/-- The four ways to ask for an order. -/
inductive Inequality
  | gt
  | lt
  | gte
  | lte
deriving DecidableEq

/-- Whether an order between two sides satisfies the inequality. -/
def Inequality.admits : Inequality → Ordering → Bool
  | gt, o => o.isGT
  | lt, o => o.isLT
  | gte, o => o.isGE
  | lte, o => o.isLE

/-- A test of one value. Patterns are compiled when the operator is built, so a test cannot fail. -/
inductive Operator
  | ordered (i : Inequality) (operand : Value)
  | equalsIgnoreCase (operand : Value)
  | like (p : LikePattern)
  | notLike (p : LikePattern)
  | likeIgnoreCase (p : LikePattern)
  | regex (p : RegexPattern)

/-- The kind of an operator, without its operand. -/
inductive OperatorKind
  | ordered (i : Inequality)
  | equalsIgnoreCase
  | like
  | notLike
  | likeIgnoreCase
  | regex
deriving DecidableEq

namespace OperatorKind

def all : List OperatorKind := [
  .ordered .gt, .ordered .lt, .ordered .gte, .ordered .lte,
  .equalsIgnoreCase, .like, .notLike, .likeIgnoreCase, .regex]

/-- The name of a kind, which is shown in diagnostics and written into trees. -/
def name : OperatorKind → String
  | ordered .gt => "GreaterThan"
  | ordered .lt => "LessThan"
  | ordered .gte => "GreaterOrEqual"
  | ordered .lte => "LessOrEqual"
  | equalsIgnoreCase => "CaseInsensitiveEquals"
  | like => "Like"
  | notLike => "NotLike"
  | likeIgnoreCase => "CaseInsensitiveLike"
  | regex => "NativeRegex"

end OperatorKind

namespace Operator

/-! ## Building operators -/

/-- The value is greater than the operand. -/
def gt (v : Value) : Operator := ordered .gt v

/-- The value is less than the operand. -/
def lt (v : Value) : Operator := ordered .lt v

def gte (v : Value) : Operator := ordered .gte v

def lte (v : Value) : Operator := ordered .lte v

/-- The value matches the wildcard pattern, case included. -/
def ofLike (pattern : String) : Except Error Operator := like <$> LikePattern.compile pattern false

/-- The value does not match the wildcard pattern; a null neither matches nor fails to. -/
def ofNotLike (pattern : String) : Except Error Operator :=
  notLike <$> LikePattern.compile pattern false

/-- The value matches the wildcard pattern, whatever the case of its letters. -/
def ofLikeIgnoreCase (pattern : String) : Except Error Operator :=
  likeIgnoreCase <$> LikePattern.compile pattern true

/-- The value starts with the text. -/
def startsWith (text : String) : Except Error Operator := ofLike (Like.escape text ++ "%")

/-- The value ends with the text. -/
def endsWith (text : String) : Except Error Operator := ofLike ("%" ++ Like.escape text)

/-- The text occurs in the value. -/
def contains (text : String) : Except Error Operator := ofLike ("%" ++ Like.escape text ++ "%")

/-- The expression matches somewhere in the text of the value. -/
def ofRegex (source : String) : Except Error Operator := regex <$> RegexPattern.compile source false

def ofRegexIgnoreCase (source : String) : Except Error Operator :=
  regex <$> RegexPattern.compile source true

/-! ## Reading operators -/

/-- The kind of an operator, which tells its name and forgets its operand. -/
def kind : Operator → OperatorKind
  | ordered i _ => .ordered i
  | equalsIgnoreCase _ => .equalsIgnoreCase
  | like _ => .like
  | notLike _ => .notLike
  | likeIgnoreCase _ => .likeIgnoreCase
  | regex _ => .regex

/-- A test of the plain text of a value; null has none. -/
def onText (test : String → Bool) : Value → Truth
  | .null => .unknown
  | v => .ofBool (test v.text)

@[simp] theorem onText_str (test : String → Bool) (s : String) :
    onText test (.str s) = .ofBool (test s) := rfl

/-- A test of the order of two values. Values without an order have no truth value. -/
def onOrder (i : Inequality) (actual operand : Value) : Truth :=
  .ofOption ((actual.compare? operand).map i.admits)

/-- Tests a value. -/
def evaluate : Operator → Value → Truth
  | ordered i operand, actual => onOrder i actual operand
  | equalsIgnoreCase .null, actual => if actual.isNull then .holds else .unknown
  | equalsIgnoreCase operand, actual =>
    if actual.isNull then .unknown else .ofBool (actual.equalsIgnoreCase operand)
  | like p, actual => onText p.isMatch actual
  | notLike p, actual => (onText p.isMatch actual).not
  | likeIgnoreCase p, actual => onText p.isMatch actual
  | regex p, actual => onText p.isMatch actual

/-- Same kind and same operand. -/
def sameAs : Operator → Operator → Bool
  | ordered i a, ordered j b => i = j && a.sameAs b
  | equalsIgnoreCase a, equalsIgnoreCase b => a.sameAs b
  | like p, like q => p.sameAs q
  | notLike p, notLike q => p.sameAs q
  | likeIgnoreCase p, likeIgnoreCase q => p.sameAs q
  | regex p, regex q => p.sameAs q
  | _, _ => false

def operandDiagnostic : Operator → String
  | ordered _ v => v.diagnostic
  | equalsIgnoreCase v => v.diagnostic
  | like p => p.diagnostic
  | notLike p => p.diagnostic
  | likeIgnoreCase p => p.diagnostic
  | regex p => p.diagnostic

/-- The kind with the operand in parentheses. -/
def diagnostic (o : Operator) : String := o.kind.name ++ "(" ++ o.operandDiagnostic ++ ")"

end Operator

end RecordFilter
