import RecordFilter.Value.Basic

/-!
# Range — spans of values

Each end of a range is included, excluded or open. A value that has no order with one of the bounds
is neither inside nor outside.
-/

namespace RecordFilter

/-- One end of a range. -/
inductive Bound
  | included (v : Value)
  | excluded (v : Value)
  | unbounded
deriving DecidableEq

namespace Bound

/-- Whether `v` is on the right side of this bound, taken as the start of a range. -/
def startAdmits : Bound → Value → Option Bool
  | included s, v => (v.compare? s).map (·.isGE)
  | excluded s, v => (v.compare? s).map (·.isGT)
  | unbounded, _ => some true

/-- Whether `v` is on the right side of this bound, taken as the end of a range. -/
def stopAdmits : Bound → Value → Option Bool
  | included s, v => (v.compare? s).map (·.isLE)
  | excluded s, v => (v.compare? s).map (·.isLT)
  | unbounded, _ => some true

def sameAs : Bound → Bound → Bool
  | included a, included b => a.sameAs b
  | excluded a, excluded b => a.sameAs b
  | unbounded, unbounded => true
  | _, _ => false

end Bound

/-- A span of values, given by its two ends. It may be empty, and the ends may have no order. -/
structure Range where
  start : Bound
  stop : Bound
deriving DecidableEq

namespace Range

/-- From `a` to `b`, both included. -/
def inclusive (a b : Value) : Range := ⟨.included a, .included b⟩

/-- From `a`, included, to `b`, excluded. -/
def exclusive (a b : Value) : Range := ⟨.included a, .excluded b⟩

/-- From `a`, included, on. -/
def atLeast (a : Value) : Range := ⟨.included a, .unbounded⟩

/-- Up to `b`, included. -/
def atMost (b : Value) : Range := ⟨.unbounded, .included b⟩

/-- Up to `b`, excluded. -/
def below (b : Value) : Range := ⟨.unbounded, .excluded b⟩

/-- Whether `v` lies in the range; nothing if it has no order with one of the bounds. -/
def covers? (r : Range) (v : Value) : Option Bool := do
  let afterStart ← r.start.startAdmits v
  let beforeStop ← r.stop.stopAdmits v
  return afterStart && beforeStop

def sameAs (r s : Range) : Bool := r.start.sameAs s.start && r.stop.sameAs s.stop

end Range

end RecordFilter
