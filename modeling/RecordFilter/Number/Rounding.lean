import RecordFilter.Number.Double

/-!
# Number/Rounding — the double nearest to a fraction

Half-way cases go to the even neighbour. Arithmetic on doubles is the exact result, rounded once.
-/

namespace RecordFilter

/-- The whole number nearest to `n / d`, the even one of two equally near. -/
def roundHalfEven (n d : Nat) : Nat :=
  let q := n / d
  let r := n % d
  if 2 * r < d then q
  else if d < 2 * r then q + 1
  else q + q % 2

namespace Double

/-- The non-negative double nearest to `num / den`; infinity beyond the largest one. A significand
that rounds up to a power of two carries into the exponent by plain addition. -/
def ofRatio (num den : Nat) : Double :=
  let n := num * Quantity.one
  let scale := Nat.log2 (n / den) - 52
  let bits := scale * fractionSize + roundHalfEven n (den * Nat.pow 2 scale)
  if infinity.bits.toNat ≤ bits then infinity else ⟨bits.toUInt64⟩

def ofNat (n : Nat) : Double := ofRatio n 1

/-- The double nearest to an integer. -/
def ofInt (n : Int) : Double := if n < 0 then (ofNat n.natAbs).neg else ofNat n.natAbs

/-- The double nearest to a whole number of units. -/
def ofUnits (n : Int) : Double :=
  let size := ofRatio n.natAbs Quantity.one
  if n < 0 then size.neg else size

/-- The difference of two doubles, rounded. Of the zeros only the negative one less the positive one
is negative. -/
def minus (x y : Double) : Double :=
  match x.quantity?, y.quantity? with
  | some (.units m), some (.units n) =>
    if m ≠ n then ofUnits (m - n)
    else if m = 0 && x.isNegative && !y.isNegative then zero.neg
    else zero
  | none, _ | _, none | some .least, some .least | some .greatest, some .greatest => nan
  | some .least, _ | _, some .greatest => infinity.neg
  | _, _ => infinity

/-- The product of two non-negative finite doubles, rounded. -/
def times (x y : Double) : Double :=
  ofRatio (x.magnitude * y.magnitude) (Quantity.one * Quantity.one)

/-- The quotient of two non-negative finite doubles, the second above zero, rounded. -/
def dividedBy (x y : Double) : Double := ofRatio x.magnitude y.magnitude

end Double

end RecordFilter
