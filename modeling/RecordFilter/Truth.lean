/-!
# Truth — the three truth values of a comparison

A comparison that touches a null has no truth value and is unknown, never false. `all` and `any` are
conjunction and disjunction of three-valued logic: in the first a failure outweighs an unknown, in
the second a success does.
-/

namespace RecordFilter

/-- The outcome of a comparison. Only `unknown` tells that a null or a missing order was in the
way. -/
inductive Truth
  | holds
  | fails
  | unknown
deriving DecidableEq

namespace Truth

/-- The outcome of a comparison that has an answer. -/
def ofBool (b : Bool) : Truth := if b then holds else fails

/-- An answer holds exactly if it is yes; so `simp` takes tests of outcomes back to tests of
values. -/
@[simp] theorem ofBool_eq_holds_iff {b : Bool} : ofBool b = holds ↔ b = true := by
  cases b <;> decide

@[simp] theorem ofBool_eq_fails_iff {b : Bool} : ofBool b = fails ↔ b = false := by
  cases b <;> decide

/-- A missing answer is unknown. -/
def ofOption : Option Bool → Truth
  | some b => ofBool b
  | none => unknown

/-- Negation, which leaves unknown what is unknown. -/
def not : Truth → Truth
  | holds => fails
  | fails => holds
  | unknown => unknown

@[simp] protected theorem not_not (t : Truth) : t.not.not = t := by
  cases t <;> rfl

@[simp] theorem not_inj {a b : Truth} : a.not = b.not ↔ a = b := by
  cases a <;> cases b <;> decide

@[simp] theorem not_ofBool (b : Bool) : (ofBool b).not = ofBool !b := by
  cases b <;> rfl

def isUnknown (t : Truth) : Bool := t = unknown

/-- Whether a filter counts the outcome in favour of a record. Unknown never counts, negated or
not. -/
def satisfied (t : Truth) (negate : Bool) : Bool :=
  match t with
  | holds => !negate
  | fails => negate
  | unknown => false

/-- Conjunction: one failure settles it, and so do two successes. -/
def and : Truth → Truth → Truth
  | fails, _ => fails
  | _, fails => fails
  | unknown, _ => unknown
  | _, unknown => unknown
  | holds, holds => holds

/-- Disjunction: one success settles it, and so do two failures. -/
def or : Truth → Truth → Truth
  | holds, _ => holds
  | _, holds => holds
  | unknown, _ => unknown
  | _, unknown => unknown
  | fails, fails => fails

/-- The conjunction of a list of outcomes, which holds of the empty list. -/
def all (ts : List Truth) : Truth := ts.foldr and holds

/-- The disjunction of a list of outcomes, which fails of the empty list. -/
def any (ts : List Truth) : Truth := ts.foldr or fails

end Truth

end RecordFilter
