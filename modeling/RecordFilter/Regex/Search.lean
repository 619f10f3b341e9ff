import RecordFilter.Regex.Basic

/-!
# Regex/Search — deciding whether an expression matches part of a text

A set of places is a number whose bit `i` tells whether place `i` is in the set. Laid over a text,
an expression becomes a `Walk`, in which each class is the set of places where one of its characters
stands, so that a whole set of places moves at once. `Walk.ends` computes where the moves from a set
of places lead; since places only advance, a repetition needs at most as many rounds as there are
places.
-/

namespace RecordFilter.Regex

/-- The moves that an expression allows on one text. -/
inductive Walk
  | stay
  /-- One place on, from the places given. -/
  | step (places : Nat)
  /-- Nowhere, and only at the places given. -/
  | gate (places : Nat)
  | seq (v w : Walk)
  | choice (v w : Walk)
  /-- `min` rounds, and then up to `extra` more. -/
  | rounds (w : Walk) (min extra : Nat)
deriving DecidableEq

namespace Walk

/-- `f` applied `n` times, stopping where it no longer changes anything. -/
def iterate (f : Nat → Nat) : Nat → Nat → Nat
  | 0, s => s
  | n + 1, s =>
    let next := f s
    if next = s then s else iterate f n next

/-- Adds to `seen` what up to `n` rounds of `f` reach from the places last added. -/
def reach (f : Nat → Nat) : Nat → Nat → Nat → Nat
  | 0, seen, _ => seen
  | n + 1, seen, last =>
    let all := seen ||| f last
    if all = seen then seen else reach f n all (all ^^^ seen)

/-- Where the moves lead from a set of places. -/
def ends : Walk → Nat → Nat
  | stay, s => s
  | step m, s => (s &&& m) <<< 1
  | gate m, s => s &&& m
  | seq v w, s => w.ends (v.ends s)
  | choice v w, s => v.ends s ||| w.ends s
  | rounds w min extra, s =>
    let start := iterate w.ends min s
    reach w.ends extra start start

end Walk

/-- A text to be searched, with the different characters that occur in it. -/
structure Haystack where
  chars : List Char
  alphabet : List Char
  mem_alphabet : ∀ c ∈ chars, c ∈ alphabet

namespace Haystack

def ofString (s : String) : Haystack where
  chars := s.toList
  alphabet := s.toList.eraseDups
  mem_alphabet := fun _ h => List.mem_eraseDups.2 h

/-- The places at which a character of `cs` follows. -/
def placesOf (cs : List Char) : List Char → Nat
  | [] => 0
  | c :: t => 2 * placesOf cs t + if cs.contains c then 1 else 0

/-- The places at which a character of the class follows. Each different character is looked up in
the class once. -/
def placesIn (h : Haystack) (s : CharClass) : Nat := placesOf (h.alphabet.filter s.contains) h.chars

/-- The places of the text after `before` at which the assertion holds. -/
def placesWhere (a : Assertion) : Option Char → List Char → Nat
  | before, [] => if a.holds before none then 1 else 0
  | before, c :: t => 2 * placesWhere a (some c) t + if a.holds before (some c) then 1 else 0

end Haystack

/-- The moves that the expression allows on the text. -/
def walk (h : Haystack) : Regex → Walk
  | empty => .stay
  | chars s => .step (h.placesIn s)
  | look a => .gate (Haystack.placesWhere a none h.chars)
  | cat r s => .seq (walk h r) (walk h s)
  | alt r s => .choice (walk h r) (walk h s)
  | rep r min max? =>
    .rounds (walk h r) min (match max? with
      | some m => m - min
      | none => h.chars.length + 1)

/-- Whether the expression matches some part of the text. -/
def isMatch (r : Regex) (text : String) : Bool :=
  let h := Haystack.ofString text
  (walk h r).ends (Nat.pow 2 (h.chars.length + 1) - 1) ≠ 0

end RecordFilter.Regex
