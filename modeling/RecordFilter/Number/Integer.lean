import RecordFilter.Number.Rounding

/-!
# Number/Integer — integers beside doubles

An integer of sixty-four bits may have more digits than a double holds, so comparing the two as
doubles would take some that differ for equal. Instead the double is cut off behind the point and
turned into an integer; where the integers agree, what was cut off decides.
-/

namespace RecordFilter.Double

/-- How many bits at the low end weigh less than one. A double below one keeps only its sign. -/
def fractionalBits (x : Double) : Nat :=
  if x.exponentField < 1023 then 63 else 1075 - x.exponentField

/-- The double, cut off behind the point. -/
def trunc (x : Double) : Double :=
  ⟨(x.bits.toNat - x.bits.toNat % Nat.pow 2 x.fractionalBits).toUInt64⟩

/-- The double as an integer: cut off behind the point, and the nearest integer where there is none
of that size; zero for NaN. -/
def toInt64 (x : Double) : Int64 :=
  match x.quantity? with
  | none => 0
  | some .least => Int64.minValue
  | some .greatest => Int64.maxValue
  | some (.units n) => .ofIntClamp (n.tdiv Quantity.one)

/-- The least integer. Its negative is the first double beyond all integers. -/
def leastInteger : Double := .ofInt Int64.minValue.toInt

/-- The order of an integer and a double. -/
def compareInteger? (n : Int64) (x : Double) : Option Ordering :=
  if x.isNaN then none
  else if (x.compare? leastInteger.neg).any Ordering.isGE then some .lt
  else if (x.compare? leastInteger).any Ordering.isLT then some .gt
  else
    let whole := x.trunc
    match compare n whole.toInt64 with
    | .eq => zero.compare? (x.minus whole)
    | order => some order

/-! ## Beyond the fifty-third bit, and a half -/

example : compareInteger? 9007199254740993 ⟨0x4340000000000000⟩ = some .gt := by decide +kernel

example : compareInteger? (-1) ⟨0xbff8000000000000⟩ = some .gt := by decide +kernel

end RecordFilter.Double
