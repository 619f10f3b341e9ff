import RecordFilter.Number.Double

/-!
# Number/Shortest — the shortest decimal that reads back as a double

The reals that round to a double form an interval around it, with its ends exactly if the
significand is even. The shortest decimal is the point of the coarsest decimal grid that meets the
interval: on each grid only the two neighbours of the double need a look.
-/

namespace RecordFilter

/-- A decimal number: `digits · 10^exponent`. -/
structure Decimal where
  digits : Nat
  exponent : Int
deriving DecidableEq

/-- Which of two equally near decimals is taken. -/
inductive Tie
  | even
  | up
deriving DecidableEq

namespace Double

/-- The reals that round to a positive finite double, in quarters of a unit. -/
structure RoundingInterval where
  low : Nat
  value : Nat
  high : Nat
  closed : Bool

def roundingInterval (x : Double) : RoundingInterval where
  low := (4 * x.significand - if x.fractionField = 0 ∧ 1 < x.exponentField then 1 else 2) *
    Nat.pow 2 x.scale
  value := 4 * x.significand * Nat.pow 2 x.scale
  high := (4 * x.significand + 2) * Nat.pow 2 x.scale
  closed := x.significand % 2 = 0

/-- Whether `point`, on the same scale as the interval multiplied by `factor`, lies inside. -/
def RoundingInterval.holds (i : RoundingInterval) (factor point : Nat) : Bool :=
  (i.low * factor < point || (i.closed && i.low * factor = point)) &&
    (point < i.high * factor || (i.closed && point = i.high * factor))

/-- Of the multiples of `unit`, on the scale multiplied by `factor`, the one in the interval that is
nearest to its value. -/
def RoundingInterval.nearestMultiple? (i : RoundingInterval) (tie : Tie) (factor unit : Nat) :
    Option Nat :=
  let below := i.value * factor / unit
  let above := below + 1
  match i.holds factor (below * unit), i.holds factor (above * unit) with
  | false, false => none
  | true, false => some below
  | false, true => some above
  | true, true =>
    match Ord.compare (i.value * factor - below * unit) (above * unit - i.value * factor) with
    | .lt => some below
    | .gt => some above
    | .eq => some (match tie with
      | .up => above
      | .even => if below % 2 = 0 then below else above)

/-- The factor that makes the multiples of `10^p` whole numbers of quarters of a unit. -/
def gridFactor (p : Int) : Nat := Nat.pow 10 (-p).toNat

/-- The power `10^p` in quarters of a unit, multiplied by that factor. -/
def gridUnit (p : Int) : Nat := Nat.pow 10 p.toNat * (4 * Quantity.one)

/-- Of the multiples of `10^p` in the interval the one nearest to its value. -/
def RoundingInterval.nearest? (i : RoundingInterval) (tie : Tie) (p : Int) : Option Nat :=
  i.nearestMultiple? tie (gridFactor p) (gridUnit p)

/-- The first hit on the grids `10^p`, `10^(p-1)`, …; `fuel` bounds the number of grids tried. -/
def RoundingInterval.search (i : RoundingInterval) (tie : Tie) : Nat → Int → Decimal
  | 0, p => ⟨i.value * gridFactor p / gridUnit p, p⟩
  | fuel + 1, p => ((i.nearest? tie p).map (⟨·, p⟩)).getD (i.search tie fuel (p - 1))

/-- A power of ten above the double; its grid and all coarser ones miss the interval or meet it in
their first point. The factor is a little more than the logarithm of two. -/
def startExponent (x : Double) : Int := ((Nat.log2 x.magnitude : Int) - 1073) * 30103 / 100000 + 1

/-- The shortest decimal that reads back as `x`, a positive finite double: seventeen digits always
suffice, and the start is at most two grids too coarse. -/
def shortest (tie : Tie) (x : Double) : Decimal := x.roundingInterval.search tie 20 x.startExponent

end Double

end RecordFilter
