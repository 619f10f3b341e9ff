import RecordFilter.Fragment.Compile
import RecordFilter.Row

/-!
# Filter — applying a set of conditions

Records in memory are tested one by one. A plain filter keeps the records that satisfy all
conditions, a negated one those that satisfy the negation of any, condition by condition; an unknown
outcome counts in neither. Collections of a query engine are handed the compiled fragments instead.
-/

namespace RecordFilter

variable {ρ : Type} [Record ρ]

/-- The outcome of each condition on a record, in order. -/
def Conditions.evaluate (cs : Conditions) (record : ρ) : List Truth :=
  cs.entries.map fun (field, condition) => condition.evaluate (Record.valueOf record field)

/-- Whether a record is kept. -/
def Conditions.keeps (cs : Conditions) (negate : Bool) (record : ρ) : Bool :=
  let outcomes := cs.evaluate record
  if negate then outcomes.any (·.satisfied true) else outcomes.all (·.satisfied false)

/-- The records that are kept, in order. -/
def filterRecords (records : List ρ) (cs : Conditions) (negate : Bool) : Reporting (List ρ) := do
  let kept := records.filter (cs.keeps negate)
  report (.filteredRecords records.length cs.size negate kept.length)
  return kept

/-- The records that satisfy all conditions. -/
def Conditions.matching (cs : Conditions) (records : List ρ) : Reporting (List ρ) :=
  filterRecords records cs false

/-- The records that satisfy the negation of any condition. -/
def Conditions.notMatching (cs : Conditions) (records : List ρ) : Reporting (List ρ) :=
  filterRecords records cs true

/-- A collection of a query engine, which restricts itself by fragments. -/
class Scope (σ : Type) where
  /-- Restricts to the rows that satisfy every fragment. -/
  filterBy : σ → List Fragment → σ
  /-- Restricts to the rows that do not satisfy all fragments together. -/
  exclude : σ → List Fragment → σ

/-- Hands all fragments of the conditions to a scope, or none if one of them cannot be compiled. -/
def filterScope {σ : Type} [Scope σ] (scope : σ) (cs : Conditions) (negate : Bool) (s : Settings) :
    Action σ := do
  let fragments ← cs.compile s
  return if negate then Scope.exclude scope fragments else Scope.filterBy scope fragments

end RecordFilter
