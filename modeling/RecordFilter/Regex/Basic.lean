import RecordFilter.Regex.Assertion

/-!
# Regex — regular expressions and what they match

`Regex.Matches t r i j` says that `r` matches the part of the text `t` from place `i` to place `j`;
places are counted between characters, from `0` before the first one. `Regex.Finds` is unanchored
search.
-/

namespace RecordFilter

/-- A regular expression, with all flags already worked into it. -/
inductive Regex
  | empty
  | chars (s : Regex.CharClass)
  | look (a : Regex.Assertion)
  | cat (r s : Regex)
  | alt (r s : Regex)
  /-- At least `min` times `r`, and at most `max?` times if a bound is given. -/
  | rep (r : Regex) (min : Nat) (max? : Option Nat)
deriving DecidableEq

namespace Regex

/-- A relation between places, followed `n` times. -/
def Times (R : Nat → Nat → Prop) : Nat → Nat → Nat → Prop
  | 0, i, j => i = j
  | n + 1, i, j => ∃ k, R i k ∧ Times R n k j

/-- The character before place `i`. -/
def before? (t : List Char) (i : Nat) : Option Char := if i = 0 then none else t[i - 1]?

/-- The expression matches the part of `t` from place `i` to place `j`. -/
def Matches (t : List Char) : Regex → Nat → Nat → Prop
  | empty, i, j => i ≤ t.length ∧ i = j
  | chars s, i, j => ∃ c, t[i]? = some c ∧ s.contains c = true ∧ j = i + 1
  | look a, i, j => i ≤ t.length ∧ a.holds (before? t i) t[i]? = true ∧ i = j
  | cat r s, i, j => ∃ k, r.Matches t i k ∧ s.Matches t k j
  | alt r s, i, j => r.Matches t i j ∨ s.Matches t i j
  | rep r min max?, i, j =>
    i ≤ t.length ∧ ∃ n, min ≤ n ∧ (∀ m, max? = some m → n ≤ m) ∧ Times (r.Matches t) n i j

/-- The expression matches some part of the text. -/
def Finds (r : Regex) (t : List Char) : Prop := ∃ i j, r.Matches t i j

end Regex

end RecordFilter
