/-!
# Number/Double — double-precision numbers, read exactly

A finite double is a whole number of units of `2^-1074`, and so is every integer. `Quantity` puts
both on one line with two end points, on which numbers are compared without rounding.
-/

namespace RecordFilter

/-- What a number denotes: a whole number of units of `2^-1074`, or one of the two ends of the line.
-/
inductive Quantity
  | least
  | units (n : Int)
  | greatest
deriving DecidableEq

namespace Quantity

/-- The order on the line, with the two ends below and above all numbers. -/
def compare : Quantity → Quantity → Ordering
  | least, least => .eq
  | least, _ => .lt
  | units _, least => .gt
  | units m, units n => Ord.compare m n
  | units _, greatest => .lt
  | greatest, greatest => .eq
  | greatest, _ => .gt

/-- How many units make one. -/
def one : Nat := Nat.pow 2 1074

/-- An integer as a place on the line. -/
def ofInt (n : Int) : Quantity := units (n * one)

end Quantity

/-- A double-precision number, given by its 64 bits: sign, eleven bits of exponent, fraction. -/
structure Double where
  bits : UInt64
deriving DecidableEq

namespace Double

/-- How many fractions there are, and the leading one of a normal number. -/
def fractionSize : Nat := Nat.pow 2 52

/-- Whether the sign bit is set, which the negative zero and some NaNs have too. -/
def isNegative (x : Double) : Bool := Nat.pow 2 63 ≤ x.bits.toNat

def exponentField (x : Double) : Nat := x.bits.toNat / fractionSize % 2048

def fractionField (x : Double) : Nat := x.bits.toNat % fractionSize

/-- Whether the double denotes a number. -/
def isFinite (x : Double) : Bool := x.exponentField < 2047

/-- Whether the double denotes nothing, not even an end of the line. -/
def isNaN (x : Double) : Bool := x.exponentField = 2047 && x.fractionField ≠ 0

/-- The significand as a whole number, with the leading one that normal numbers leave out. -/
def significand (x : Double) : Nat :=
  if x.exponentField = 0 then x.fractionField else fractionSize + x.fractionField

/-- The power of two by which the significand is scaled, counted from units of `2^-1074`. -/
def scale (x : Double) : Nat := x.exponentField - 1

/-- The size of a finite double, in units of `2^-1074`. -/
def magnitude (x : Double) : Nat := x.significand * Nat.pow 2 x.scale

/-- What the double denotes; nothing for NaN. -/
def quantity? (x : Double) : Option Quantity :=
  if x.isFinite then
    some (.units (if x.isNegative then -(x.magnitude : Int) else x.magnitude))
  else if x.isNaN then none
  else some (if x.isNegative then .least else .greatest)

/-- Equality of numbers: the two zeros are equal, NaN equals nothing. -/
def equals (x y : Double) : Bool :=
  match x.quantity?, y.quantity? with
  | some a, some b => a = b
  | _, _ => false

/-- The order of numbers, as which NaN has none. -/
def compare? (x y : Double) : Option Ordering :=
  match x.quantity?, y.quantity? with
  | some a, some b => some (a.compare b)
  | _, _ => none

/-- Changes the sign bit, also of zero and of NaN. -/
def neg (x : Double) : Double := ⟨x.bits ^^^ 0x8000000000000000⟩

def zero : Double := ⟨0⟩

def nan : Double := ⟨0x7ff8000000000000⟩

def infinity : Double := ⟨0x7ff0000000000000⟩

def isInfinite (x : Double) : Bool := !x.isFinite && !x.isNaN

end Double

end RecordFilter
