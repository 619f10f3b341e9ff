import RecordFilter.FieldMap
import RecordFilter.Operator
import RecordFilter.Range

/-!
# Condition — what a field is tested against

A condition tests one value. Conditions are set by field, and setting a field twice replaces the
earlier condition in its place, so whatever follows the order of a set stays reproducible.
-/

namespace RecordFilter

/-- What is asked of one field. -/
inductive Condition
  | equals (expected : Value)
  | isNull
  /-- One of the values; a null among them also admits null. -/
  | oneOf (values : List Value)
  | within (range : Range)
  | operator (o : Operator)

namespace Condition

/-- Equality with a value, and a test for null if the value is null. -/
def ofValue : Value → Condition
  | .null => isNull
  | v => equals v

/-- A regular expression is tested as the operator of that kind. -/
def ofRegex (p : RegexPattern) : Condition := operator (.regex p)

/-- Tests a value. -/
def evaluate : Condition → Value → Truth
  | isNull, actual => .ofBool actual.isNull
  | equals expected, actual =>
    if expected.isNull then .ofBool actual.isNull
    else if actual.isNull then .unknown
    else .ofBool (actual.equals expected)
  | oneOf values, actual =>
    if actual.isNull then if values.any Value.isNull then .holds else .unknown
    else .ofBool (values.any actual.equals)
  | within range, actual => if actual.isNull then .unknown else .ofOption (range.covers? actual)
  | operator o, actual => o.evaluate actual

/-- Same form and same content. -/
def sameAs : Condition → Condition → Bool
  | equals a, equals b => a.sameAs b
  | isNull, isNull => true
  | oneOf as, oneOf bs => as.length = bs.length && (as.zip bs).all fun (a, b) => a.sameAs b
  | within r, within s => r.sameAs s
  | operator o, operator p => o.sameAs p
  | _, _ => false

end Condition

/-! ## Conditions of several fields -/

/-- The conditions of a filter, one for each of its fields; all of them have to hold. -/
abbrev Conditions := FieldMap Condition

/-- Same fields in the same order, with conditions that agree. -/
def Conditions.sameAs (cs ds : Conditions) : Bool := FieldMap.sameInOrder Condition.sameAs cs ds

end RecordFilter
