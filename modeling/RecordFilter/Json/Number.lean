import RecordFilter.Json.Basic

/-!
# Json/Number — what the digits of a number denote

A whole number within sixty-four bits is an integer. Any other number is a double, computed from at
most as many digits as fit into sixty-four bits and a power of ten, with one rounding for each of
the two steps; so the double may differ in its last bits from the one nearest to the written number.
-/

namespace RecordFilter.Json

/-- A number as written: digits before the point, after it, and of the exponent. -/
structure Numeral where
  negative : Bool
  whole : List Nat
  fraction : List Nat
  exponent : Int
  /-- Whether the number has neither point nor exponent. -/
  plain : Bool

/-- Appends digits to a significand while it fits into sixty-four bits; also returns how many digits
were taken. -/
def appendDigits : Nat → List Nat → Nat × Nat
  | significand, [] => (significand, 0)
  | significand, d :: ds =>
    if 10 * significand + d < Nat.pow 2 64 then
      let (n, taken) := appendDigits (10 * significand + d) ds
      (n, taken + 1)
    else (significand, 0)

/-- The largest power of ten that is divided or multiplied by at once. -/
def maxPower : Nat := 308

def powerOfTen (n : Nat) : Double := .ofNat (Nat.pow 10 n)

/-- `x / 10^n`, in as many steps as it takes. Three are enough for a significand to vanish; `fuel`
is their number. -/
def scaleDown : Nat → Double → Nat → Double
  | 0, x, n => x.dividedBy (powerOfTen (min n maxPower))
  | fuel + 1, x, n =>
    if x.magnitude = 0 then x
    else if n ≤ maxPower then x.dividedBy (powerOfTen n)
    else scaleDown fuel (x.dividedBy (powerOfTen maxPower)) (n - maxPower)

/-- `significand · 10^exponent`; nothing beyond the largest double. -/
def scale? (significand : Nat) (exponent : Int) : Option Double :=
  let x := Double.ofNat significand
  if significand = 0 then some x
  else if exponent < 0 then some (scaleDown 3 x exponent.natAbs)
  else if maxPower < exponent.toNat then none
  else
    let product := x.times (powerOfTen exponent.toNat)
    if product.isInfinite then none else some product

namespace Numeral

def double? (n : Numeral) : Option Double :=
  let (whole, wholeTaken) := appendDigits 0 n.whole
  let (significand, fractionTaken) := appendDigits whole n.fraction
  let exponent := ((n.whole.length - wholeTaken : Nat) : Int) - fractionTaken + n.exponent
  (scale? significand exponent).map fun x => if n.negative then x.neg else x

/-- The integer that a plain number denotes, if it has the size of one. Zero with a sign is none. -/
def int? (n : Numeral) : Option Int :=
  let (whole, taken) := appendDigits 0 n.whole
  if !n.plain || taken < n.whole.length then none
  else if !n.negative then some whole
  else if 0 < whole ∧ whole ≤ Nat.pow 2 63 then some (-(whole : Int))
  else none

def tree (n : Numeral) : Json :=
  match n.int? with
  | some i => .int i
  | none =>
    match n.double? with
    | some x => .float x
    | none => .unreadable

end Numeral

end RecordFilter.Json
