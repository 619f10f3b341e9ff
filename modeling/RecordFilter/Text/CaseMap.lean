/-!
# Text/CaseMap — maps between the cases of letters, one code point to one

A map is a list of runs in ascending order. In a run every `step`-th code point from `first` to
`last` moves by the same `shift`; a code point in no run stays as it is.
-/

namespace RecordFilter.Text

/-- Code points that move together: every `step`-th from `first` to `last`, by `shift`. -/
structure CaseRun where
  first : Nat
  last : Nat
  step : Nat
  shift : Int
deriving DecidableEq

namespace CaseRun

/-- Whether a code point is one of those that move. -/
def Holds (r : CaseRun) (n : Nat) : Prop := r.first ≤ n ∧ n ≤ r.last ∧ (n - r.first) % r.step = 0

instance (r : CaseRun) (n : Nat) : Decidable (r.Holds n) :=
  inferInstanceAs (Decidable (_ ∧ _ ∧ _))

def move (r : CaseRun) (n : Nat) : Nat := ((n : Int) + r.shift).toNat

/-- The code point of the run that moves to `n`. -/
def source? (r : CaseRun) (n : Nat) : Option Nat :=
  let m := ((n : Int) - r.shift).toNat
  if r.Holds m ∧ r.move m = n then some m else none

end CaseRun

/-- The code point that `n` moves to along ascending runs. -/
def movedBy : List CaseRun → Nat → Nat
  | [], n => n
  | r :: rest, n =>
    if n < r.first then n
    else if r.Holds n then r.move n
    else movedBy rest n

/-- A case map, given by its runs. -/
structure CaseMap where
  runs : List CaseRun

namespace CaseMap

/-- The character that `c` moves to, or `c` itself. -/
def apply (m : CaseMap) (c : Char) : Char := Char.ofNat (movedBy m.runs c.toNat)

/-- The characters that the map moves to `c`; a character that stays is not listed. -/
def sources (m : CaseMap) (c : Char) : List Char :=
  m.runs.filterMap fun r => (r.source? c.toNat).map Char.ofNat

end CaseMap

end RecordFilter.Text
