import Mathlib.Algebra.Order.Field.Rat
import Mathlib.Order.WithBot
import Mathlib.Tactic.FieldSimp
import Mathlib.Tactic.Positivity
import RecordFilter.Proofs.Number.Comparison

/-!
# Proofs/Number/Rational — doubles as rational numbers

The bits of a finite double stand for a fraction times a power of two (`Double.toRat`), which is its
number of units divided by how many make one (`toRat_eq`). So the order of quantities is the order
of the rational numbers with the two infinities at the ends (`Quantity.compare_eq_cmp`).
-/

namespace RecordFilter

/-- The rational numbers, with a least and a greatest one added. -/
abbrev Number := WithBot (WithTop ℚ)

namespace Quantity

/-- The quantity as a number, with one as the unit. -/
def toNumber : Quantity → Number
  | least => ⊥
  | units n => ((n / one : ℚ) : WithTop ℚ)
  | greatest => ⊤

theorem one_pos_rat : (0 : ℚ) < one := Nat.cast_pos.mpr one_pos

@[simp] theorem toNumber_ofInt (n : Int) : (ofInt n).toNumber = ((n : ℚ) : WithTop ℚ) := by
  have h : ((n * one : Int) : ℚ) / one = n := by
    rw [Int.cast_mul, Int.cast_natCast, mul_div_cancel_right₀ _ one_pos_rat.ne']
  rw [ofInt, toNumber, h]

/-- Places on the line are ordered as the rational numbers that they stand for. -/
@[simp]
theorem toNumber_lt_toNumber_iff {m n : Int} : (units m).toNumber < (units n).toNumber ↔ m < n := by
  rw [toNumber, toNumber, WithBot.coe_lt_coe, WithTop.coe_lt_coe,
    div_lt_div_iff_of_pos_right one_pos_rat, Int.cast_lt]

/-- **Quantities are ordered as the numbers they stand for.** -/
theorem compare_eq_cmp (p q : Quantity) : p.compare q = cmp p.toNumber q.toNumber := by
  have hlow : ∀ n, (⊥ : Number) < (units n).toNumber := fun n => WithBot.bot_lt_coe _
  have hhigh : ∀ n, (units n).toNumber < ⊤ := fun n =>
    WithBot.coe_lt_coe.mpr (WithTop.coe_lt_top _)
  have hends : (⊥ : Number) < ⊤ := WithBot.bot_lt_coe _
  cases p with
  | least =>
    cases q with
    | least => exact (cmp_self_eq_eq _).symm
    | units n => exact ((cmp_eq_lt_iff _ _).mpr (hlow n)).symm
    | greatest => exact ((cmp_eq_lt_iff _ _).mpr hends).symm
  | units m =>
    cases q with
    | least => exact ((cmp_eq_gt_iff _ _).mpr (hlow m)).symm
    | units n =>
      have hcmp : cmp (units m).toNumber (units n).toNumber = cmp m n :=
        StrictMono.cmp_map_eq (f := fun n => (units n).toNumber)
          (fun _ _ h => toNumber_lt_toNumber_iff.mpr h) m n
      rw [hcmp, cmp_eq_compare]
      rfl
    | greatest => exact ((cmp_eq_lt_iff _ _).mpr (hhigh m)).symm
  | greatest =>
    cases q with
    | least => exact ((cmp_eq_gt_iff _ _).mpr hends).symm
    | units n => exact ((cmp_eq_gt_iff _ _).mpr (hhigh n)).symm
    | greatest => exact (cmp_self_eq_eq _).symm

end Quantity

namespace Double

open Quantity (one one_pos_rat)

/-- The size of the rational number that the bits of a finite double stand for. A normal one has a
leading one before its fraction, and its exponent is counted from 1023; below, the exponent stays at
the least. -/
def size (x : Double) : ℚ :=
  if x.exponentField = 0 then x.fractionField / 2 ^ 52 * 2 ^ (-1022 : ℤ)
  else (1 + x.fractionField / 2 ^ 52) * 2 ^ ((x.exponentField : ℤ) - 1023)

/-- The rational number that the bits of a finite double stand for. -/
def toRat (x : Double) : ℚ := if x.isNegative then -x.size else x.size

/-- What a double denotes; nothing for NaN. -/
def number? (x : Double) : Option Number :=
  if x.isNaN then none
  else if x.isFinite then some (x.toRat : WithTop ℚ)
  else some (if x.isNegative then ⊥ else ⊤)

theorem one_eq_mul_zpow : (one : ℚ) = 2 ^ 52 * 2 ^ (1022 : ℤ) := by
  have h : ∀ n : ℕ, n = 1022 → (one : ℚ) = 2 ^ 52 * 2 ^ (n : ℤ) := by
    intro n hn
    rw [← Quantity.two_pow_mul_two_pow (a := 52) (b := n) (by omega), zpow_natCast]
    push_cast
    rfl
  exact h 1022 rfl

/-- The size is the significand, shifted by the scale. -/
theorem size_eq_significand (x : Double) :
    x.size = x.significand / 2 ^ 52 * 2 ^ ((x.scale : ℤ) - 1022) := by
  have hsize : (fractionSize : ℚ) = 2 ^ 52 := by
    rw [fractionSize, Nat.pow_eq]
    push_cast
    rfl
  rw [size, significand, scale]
  split_ifs with hzero
  · rw [hzero]
    rfl
  · have hexponent : (x.exponentField : ℤ) - 1023 = ((x.exponentField - 1 : ℕ) : ℤ) - 1022 := by
      omega
    rw [hexponent, Nat.cast_add, hsize, add_div, div_self (by positivity)]

/-- The size of a double as a rational number, from its units. -/
theorem size_eq (x : Double) : x.size = x.magnitude / one := by
  rw [size_eq_significand, one_eq_mul_zpow, zpow_sub₀ two_ne_zero, zpow_natCast,
    div_mul_div_comm, magnitude, Nat.cast_mul, Nat.pow_eq, Nat.cast_pow, Nat.cast_ofNat]

/-- **The bits stand for the number of units**, with as many in one as there are. -/
theorem toRat_eq (x : Double) : x.toRat = x.inUnits / one := by
  rw [toRat, inUnits, size_eq]
  split_ifs
  · rw [Int.cast_neg, Int.cast_natCast, neg_div]
  · rw [Int.cast_natCast]

/-- **A double denotes its quantity as a number.** -/
theorem number?_eq (x : Double) : x.number? = x.quantity?.map Quantity.toNumber := by
  rw [number?]
  split_ifs with hnan hfinite hneg
  · rw [quantity?_eq_none_iff.mpr hnan]
    rfl
  · rw [quantity?_of_isFinite hfinite, toRat_eq]
    rfl
  · rw [quantity?, if_neg hfinite, if_neg hnan, if_pos hneg]
    rfl
  · rw [quantity?, if_neg hfinite, if_neg hnan, if_neg hneg]
    rfl

end Double

end RecordFilter
