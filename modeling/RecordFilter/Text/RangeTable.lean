import RecordFilter.Text.Basic

/-!
# Text/RangeTable — sets of characters given by ranges of code points

A table lists inclusive ranges in ascending order, so a search ends at the first range that starts
beyond the character looked for. Tables are written as lines of text, in hexadecimal: `41-5A AA`.
-/

namespace RecordFilter.Text

/-- A set of characters, as ascending ranges of code points with both ends included. -/
structure RangeTable where
  ranges : List (Nat × Nat)
deriving DecidableEq

namespace RangeTable

/-- Whether one of the ascending ranges holds the code point. -/
def covers : List (Nat × Nat) → Nat → Bool
  | [], _ => false
  | (lo, hi) :: rest, n => if n < lo then false else n ≤ hi || covers rest n

def contains (t : RangeTable) (c : Char) : Bool := covers t.ranges c.toNat

/-- The ranges written on a line, from the numbers read so far: `low?` is the lower end of a range
whose hyphen has been passed, `n` the number being read. -/
def readRanges (low? : Option Nat) (n : Nat) : List Char → List (Nat × Nat)
  | [] => [(low?.getD n, n)]
  | '-' :: rest => readRanges (some n) 0 rest
  | ' ' :: rest => (low?.getD n, n) :: readRanges none 0 rest
  | c :: rest => readRanges low? (16 * n + (hexDigit? c).getD 0) rest

/-- The table whose ranges stand on the lines given. -/
def ofHex (lines : List String) : RangeTable :=
  ⟨lines.flatMap fun line => readRanges none 0 line.toList⟩

end RangeTable

end RecordFilter.Text
