import RecordFilter.Number.Shortest

/-!
# Number/Layout — how a number is laid out as text

The digits are always the shortest that read back; a `Layout` holds what differs from one kind of
text to another: when an exponent is written and how, and whether a whole number shows a point.
-/

namespace RecordFilter

/-- The decisions of one kind of text. -/
structure Layout where
  /-- Which of two equally near shortest decimals is written. -/
  tie : Tie
  /-- The exponents of the first digit for which no exponent is written; `none` for all. -/
  positional : Option (Int × Int)
  /-- Whether `.0` follows a whole number written without exponent. -/
  pointZero : Bool
  /-- Whether a positive exponent has a sign. -/
  plusSign : Bool
  nan : String
  infinity : String

namespace Decimal

def digitChars (d : Decimal) : List Char := Nat.toDigits 10 d.digits

/-- The exponent of the first digit. -/
def leadingExponent (d : Decimal) : Int := d.exponent + (d.digitChars.length - 1)

/-- The decimal without exponent. -/
def positional (pointZero : Bool) (d : Decimal) : List Char :=
  let digits := d.digitChars
  if 0 ≤ d.exponent then
    digits ++ List.replicate d.exponent.toNat '0' ++ if pointZero then ['.', '0'] else []
  else
    let places := (-d.exponent).toNat
    if places < digits.length then
      digits.take (digits.length - places) ++ '.' :: digits.drop (digits.length - places)
    else
      '0' :: '.' :: List.replicate (places - digits.length) '0' ++ digits

/-- The decimal with one digit before the point, and an exponent. -/
def scientific (plusSign : Bool) (d : Decimal) : List Char :=
  let mantissa := match d.digitChars with
    | [] => []
    | [c] => [c]
    | c :: rest => c :: '.' :: rest
  let e := d.leadingExponent
  let sign := if e < 0 then ['-'] else if plusSign then ['+'] else []
  mantissa ++ 'e' :: sign ++ Nat.toDigits 10 e.natAbs

end Decimal

namespace Layout

def decimal (l : Layout) (d : Decimal) : List Char :=
  match l.positional with
  | none => d.positional l.pointZero
  | some (low, high) =>
    if low ≤ d.leadingExponent ∧ d.leadingExponent ≤ high then d.positional l.pointZero
    else d.scientific l.plusSign

/-- The text of a double. Zero keeps its sign and is never written with an exponent. -/
def text (l : Layout) (x : Double) : String :=
  let sign := if x.isNegative then "-" else ""
  if x.isNaN then l.nan
  else if !x.isFinite then sign ++ l.infinity
  else if x.magnitude = 0 then sign ++ .ofList (Decimal.positional l.pointZero ⟨0, 0⟩)
  else sign ++ .ofList (l.decimal (x.shortest l.tie))

end Layout

end RecordFilter
