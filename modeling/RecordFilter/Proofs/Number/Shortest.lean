import Mathlib.Tactic.Ring
import RecordFilter.Number.Shortest
import RecordFilter.Proofs.Number.Rational

/-!
# Proofs/Number/Shortest — the shortest decimal tells which double it is of

The search tries twenty grids of decimals, of which the last has steps no longer than the distance
from the double to the lower end of its interval (`gridStep_startExponent_le`). So it ends inside
the interval (`shortest_contains`). The intervals of two doubles touch at most, and where they do
only one of them is closed (`Below.high_le`). Hence no two doubles of one sign have the same
shortest decimal (`eq_of_decimal_eq`).
-/

namespace RecordFilter

open Quantity (one one_pos one_pos_rat)

namespace Decimal

/-- The rational number that a decimal is. -/
def toRat (d : Decimal) : ℚ := d.digits * 10 ^ d.exponent

/-- The same in quarters of a unit, as which rounding intervals are given. -/
def inQuarters (d : Decimal) : ℚ := d.toRat * (4 * one)

end Decimal

/-- With `a / b` a little more than the logarithm of two, powers of ten stay below powers of two. -/
theorem ten_zpow_le {a b : ℕ} (hb : 0 < b) (hlow : 2 ^ b ≤ 10 ^ a) (hhigh : 10 ^ a ≤ 2 ^ (b + 1))
    {n : ℤ} (hn : n ≤ b) : (10 : ℚ) ^ (n * a / b) ≤ 2 ^ (n + 1) := by
  have hlow' : (2 : ℚ) ^ b ≤ 10 ^ a := by exact_mod_cast hlow
  have hhigh' : (10 : ℚ) ^ a ≤ 2 ^ (b + 1) := by exact_mod_cast hhigh
  have hfloor : n * a / b * b ≤ a * n := by
    rw [mul_comm (a : ℤ)]
    exact Int.ediv_mul_le _ (by exact_mod_cast hb.ne')
  have hpow : ((10 : ℚ) ^ a) ^ n ≤ 2 ^ ((n + 1) * b) := by
    rcases le_total 0 n with hsign | hsign
    · calc ((10 : ℚ) ^ a) ^ n
        _ ≤ (2 ^ (b + 1)) ^ n := zpow_le_zpow_left₀ hsign (by positivity) hhigh'
        _ = 2 ^ (((b + 1 : ℕ) : ℤ) * n) := by rw [zpow_mul, zpow_natCast]
        _ ≤ 2 ^ ((n + 1) * b) := zpow_le_zpow_right₀ (by norm_num) (by push_cast; linarith)
    · have hinv : (((10 : ℚ) ^ a) ^ (-n))⁻¹ ≤ ((2 ^ b) ^ (-n))⁻¹ :=
        inv_anti₀ (zpow_pos (by positivity) _)
          (zpow_le_zpow_left₀ (neg_nonneg.mpr hsign) (by positivity) hlow')
      calc ((10 : ℚ) ^ a) ^ n
        _ ≤ (2 ^ b) ^ n := by rwa [← zpow_neg, ← zpow_neg, neg_neg] at hinv
        _ = 2 ^ ((b : ℤ) * n) := by rw [zpow_mul, zpow_natCast]
        _ ≤ 2 ^ ((n + 1) * b) := zpow_le_zpow_right₀ (by norm_num) (by linarith)
  refine le_of_pow_le_pow_left₀ hb.ne' (zpow_nonneg (by norm_num) _) ?_
  calc ((10 : ℚ) ^ (n * a / b)) ^ b
    _ = 10 ^ (n * a / b * b) := by rw [zpow_mul, zpow_natCast]
    _ ≤ 10 ^ (a * n) := zpow_le_zpow_right₀ (by norm_num) hfloor
    _ = (10 ^ a) ^ n := by rw [zpow_mul, zpow_natCast]
    _ ≤ 2 ^ ((n + 1) * b) := hpow
    _ = (2 ^ (n + 1)) ^ b := by rw [zpow_mul, zpow_natCast]

namespace Double

variable {tie : Tie} {p : ℤ}

/-! ## Grids -/

/-- How many quarters of a unit a step on the grid is. -/
def gridStep (p : ℤ) : ℚ := 10 ^ p * (4 * one)

theorem gridFactor_pos (p : ℤ) : 0 < gridFactor p := Nat.pow_pos (by decide)

theorem gridUnit_pos (p : ℤ) : 0 < gridUnit p := by
  have hone := one_pos
  rw [gridUnit, Nat.pow_eq]
  positivity

/-- The step as the search has it, a ratio of two whole numbers. -/
theorem gridStep_eq (p : ℤ) : gridStep p = (gridUnit p : ℕ) / (gridFactor p : ℕ) := by
  have hpow : (10 : ℚ) ^ p = 10 ^ p.toNat / 10 ^ (-p).toNat := by
    rw [← zpow_natCast, ← zpow_natCast, ← zpow_sub₀ (by norm_num)]
    congr 1
    omega
  rw [gridStep, hpow, gridUnit, gridFactor, Nat.pow_eq, Nat.pow_eq]
  push_cast
  ring

/-- A decimal is a multiple of the step of its grid. -/
theorem inQuarters_eq (d : ℕ) (p : ℤ) : Decimal.inQuarters ⟨d, p⟩ = d * gridStep p := by
  rw [Decimal.inQuarters, Decimal.toRat, gridStep]
  ring

namespace RoundingInterval

variable {i : RoundingInterval} {factor unit d : ℕ}

/-- The interval has the point, which is given in quarters of a unit. -/
def Contains (i : RoundingInterval) (point : ℚ) : Prop :=
  (i.low < point ∨ i.closed = true ∧ i.low = point) ∧
    (point < i.high ∨ i.closed = true ∧ point = i.high)

/-- The test of the search, which works with whole numbers, is the one on rational numbers. -/
theorem holds_iff (hfactor : 0 < factor) (point : ℕ) :
    i.holds factor point = true ↔ i.Contains (point / factor) := by
  have h : (0 : ℚ) < factor := Nat.cast_pos.mpr hfactor
  have hcast : ∀ a : ℕ, ((a * factor : ℕ) : ℚ) = a * factor := fun a => Nat.cast_mul a factor
  simp only [holds, Contains, Bool.and_eq_true, Bool.or_eq_true, decide_eq_true_eq,
    lt_div_iff₀ h, div_lt_iff₀ h, eq_div_iff h.ne', div_eq_iff h.ne', ← hcast, Nat.cast_lt,
    Nat.cast_inj]

theorem holds_grid_iff (d : ℕ) (p : ℤ) :
    i.holds (gridFactor p) (d * gridUnit p) = true ↔ i.Contains (d * gridStep p) := by
  rw [holds_iff (gridFactor_pos p), gridStep_eq, Nat.cast_mul, mul_div_assoc]

/-- What is found among the multiples lies in the interval. -/
theorem holds_of_nearestMultiple? (h : i.nearestMultiple? tie factor unit = some d) :
    i.holds factor (d * unit) = true := by
  simp only [nearestMultiple?] at h
  split at h
  · cases h
  · next hbelow _ =>
    obtain rfl := Option.some.inj h
    exact hbelow
  · next _ habove =>
    obtain rfl := Option.some.inj h
    exact habove
  · next hbelow habove =>
    split at h
    · obtain rfl := Option.some.inj h
      exact hbelow
    · obtain rfl := Option.some.inj h
      exact habove
    · obtain rfl := Option.some.inj h
      rcases tie with _ | _
      · dsimp only
        split
        · exact hbelow
        · exact habove
      · exact habove

/-- The search on a grid succeeds if the multiple below the double lies in the interval. -/
theorem isSome_nearestMultiple? (h : i.holds factor (i.value * factor / unit * unit) = true) :
    (i.nearestMultiple? tie factor unit).isSome := by
  simp only [nearestMultiple?]
  split
  · next hbelow _ =>
    rw [h] at hbelow
    cases hbelow
  · rfl
  · rfl
  · split <;> rfl

/-- **What is found on a grid lies in the interval.** -/
theorem contains_of_nearest? (h : i.nearest? tie p = some d) : i.Contains (d * gridStep p) :=
  (holds_grid_iff d p).mp (holds_of_nearestMultiple? h)

/-- A grid has a point in the interval if its steps are no longer than the interval reaches down
from its value. -/
theorem isSome_nearest? (hp : i.low + gridStep p ≤ i.value) (hhigh : i.value < i.high) :
    (i.nearest? tie p).isSome := by
  have hfactor : (0 : ℚ) < gridFactor p := Nat.cast_pos.mpr (gridFactor_pos p)
  refine isSome_nearestMultiple? ((holds_grid_iff _ p).mpr ?_)
  set below := i.value * gridFactor p / gridUnit p with hbelow
  have hle : (below : ℚ) * gridStep p ≤ i.value := by
    rw [gridStep_eq, ← mul_div_assoc, div_le_iff₀ hfactor]
    exact_mod_cast Nat.div_mul_le_self _ _
  have hlt : (i.value : ℚ) < (below + 1) * gridStep p := by
    rw [gridStep_eq, ← mul_div_assoc, lt_div_iff₀ hfactor]
    exact_mod_cast Nat.lt_mul_of_div_lt (Nat.lt_succ_self _) (gridUnit_pos p)
  have hvalue : (i.value : ℚ) < i.high := Nat.cast_lt.mpr hhigh
  exact ⟨.inl (by linarith), .inl (by linarith)⟩

/-- **The search ends in the interval** if one of the grids it tries has a point there. -/
theorem search_contains {fuel k : ℕ} (hk : k < fuel) (h : (i.nearest? tie (p - k)).isSome) :
    i.Contains (i.search tie fuel p).inQuarters := by
  induction fuel generalizing p k with
  | zero => cases hk
  | succ fuel ih =>
    rw [search]
    cases hnearest : i.nearest? tie p with
    | some d =>
      rw [Option.map_some, Option.getD_some, inQuarters_eq]
      exact contains_of_nearest? hnearest
    | none =>
      rw [Option.map_none, Option.getD_none]
      -- one grid further, the hit is one grid nearer
      rcases k with _ | k
      · have hp : p - ((0 : ℕ) : ℤ) = p := sub_zero p
        rw [hp, hnearest] at h
        exact absurd h Bool.false_ne_true
      · refine ih (Nat.lt_of_succ_lt_succ hk) ?_
        have hexponent : p - 1 - (k : ℤ) = p - ((k + 1 : ℕ) : ℤ) := by
          push_cast
          ring
        exact hexponent ▸ h

end RoundingInterval

/-! ## The shortest decimal -/

variable {x y : Double}

/-- A double has at most 53 bits above its scale. -/
theorem log2_magnitude_le (h : x.magnitude ≠ 0) : Nat.log2 x.magnitude ≤ 52 + x.scale := by
  have hlt : x.magnitude < 2 ^ (53 + x.scale) := by
    rw [magnitude, Nat.pow_eq, Nat.pow_add]
    exact Nat.mul_lt_mul_of_pos_right x.significand_lt (Nat.two_pow_pos _)
  have hlog := (Nat.log2_lt h).mpr hlt
  omega

theorem scale_le (x : Double) : x.scale ≤ 2046 := by
  have hfield : x.exponentField < 2048 := Nat.mod_lt _ (by decide)
  rw [scale]
  omega

/-- The last grid that is tried has steps no longer than the scale. -/
theorem gridStep_startExponent_le (h : x.magnitude ≠ 0) :
    gridStep (x.startExponent - 19) ≤ 2 ^ x.scale := by
  have hlog := log2_magnitude_le h
  have hscale := x.scale_le
  have hpow : (10 : ℚ) ^ (((Nat.log2 x.magnitude : ℤ) - 1073) * 30103 / 100000) ≤
      2 ^ ((x.scale : ℤ) - 1020) :=
    calc (10 : ℚ) ^ (((Nat.log2 x.magnitude : ℤ) - 1073) * 30103 / 100000)
      _ ≤ 2 ^ ((Nat.log2 x.magnitude : ℤ) - 1073 + 1) := by
        refine ten_zpow_le (a := 30103) (b := 100000) (by decide) (by decide +kernel)
          (by decide +kernel) ?_
        push_cast
        omega
      _ ≤ 2 ^ ((x.scale : ℤ) - 1020) := zpow_le_zpow_right₀ (by norm_num) (by omega)
  calc gridStep (x.startExponent - 19)
    _ = 10 ^ (((Nat.log2 x.magnitude : ℤ) - 1073) * 30103 / 100000) * 10 ^ (-18 : ℤ) *
        (4 * one) := by
      have hexponent : x.startExponent - 19 =
          ((Nat.log2 x.magnitude : ℤ) - 1073) * 30103 / 100000 + -18 := by
        rw [startExponent]
        omega
      rw [gridStep, hexponent, zpow_add₀ (by norm_num)]
    _ ≤ 2 ^ ((x.scale : ℤ) - 1020) * 10 ^ (-18 : ℤ) * (4 * one) := by
      have hone : (0 : ℚ) ≤ 4 * one := mul_nonneg (by norm_num) one_pos_rat.le
      exact mul_le_mul_of_nonneg_right
        (mul_le_mul_of_nonneg_right hpow (zpow_nonneg (by norm_num) _)) hone
    _ = 2 ^ x.scale * (2 ^ 56 / 10 ^ 18) := by
      have hsplit : (2 : ℚ) ^ (1022 : ℤ) = 2 ^ (1020 : ℤ) * 2 ^ 2 := by
        rw [← zpow_natCast (2 : ℚ) 2, ← zpow_add₀ two_ne_zero]
        rfl
      rw [one_eq_mul_zpow, zpow_sub₀ two_ne_zero, zpow_natCast, hsplit, zpow_neg]
      field_simp
      norm_num
    _ ≤ 2 ^ x.scale := mul_le_of_le_one_right (by positivity) (by norm_num)

theorem significand_pos (h : x.magnitude ≠ 0) : 0 < x.significand :=
  Nat.pos_of_ne_zero (left_ne_zero_of_mul h)

/-- How many quarters of its scale a double is away from the lower end of its interval. -/
def reach (x : Double) : ℕ := if x.fractionField = 0 ∧ 1 < x.exponentField then 1 else 2

/-- The lower end is half a step away, or a quarter where the step below is half as long. -/
theorem reach_cases (x : Double) : x.reach = 1 ∨ x.reach = 2 := by
  rw [reach]
  split
  · exact .inl rfl
  · exact .inr rfl

/-- **The shortest decimal of a double rounds to it.** -/
theorem shortest_contains (tie : Tie) (h : x.magnitude ≠ 0) :
    x.roundingInterval.Contains (x.shortest tie).inQuarters := by
  have hsignificand := significand_pos h
  have hreach := x.reach_cases
  have hscale : 0 < 2 ^ x.scale := Nat.two_pow_pos _
  have hlow : x.roundingInterval.low + 2 ^ x.scale ≤ x.roundingInterval.value :=
    calc (4 * x.significand - x.reach) * 2 ^ x.scale + 2 ^ x.scale
      _ = (4 * x.significand - x.reach + 1) * 2 ^ x.scale := (Nat.succ_mul ..).symm
      _ ≤ 4 * x.significand * 2 ^ x.scale := Nat.mul_le_mul_right _ (by omega)
  have hhigh : x.roundingInterval.value < x.roundingInterval.high :=
    Nat.mul_lt_mul_of_pos_right (by omega) hscale
  refine RoundingInterval.search_contains (k := 19) (by decide)
    (RoundingInterval.isSome_nearest? ?_ hhigh)
  have hstep := gridStep_startExponent_le h
  have hcast : (x.roundingInterval.low : ℚ) + 2 ^ x.scale ≤ x.roundingInterval.value := by
    exact_mod_cast hlow
  exact (add_le_add_right hstep _).trans hcast

/-- Zero is in no interval but its own. -/
theorem roundingInterval_low_pos (h : x.magnitude ≠ 0) : 0 < x.roundingInterval.low := by
  have hsignificand := significand_pos h
  have hreach := x.reach_cases
  have hquarters : 0 < 4 * x.significand - x.reach := by omega
  exact Nat.mul_pos hquarters (Nat.two_pow_pos _)

/-- Only zero is written as zero. -/
theorem shortest_digits_ne_zero (tie : Tie) (h : x.magnitude ≠ 0) :
    (x.shortest tie).digits ≠ 0 := by
  intro hdigits
  have hlow : (0 : ℚ) < x.roundingInterval.low := Nat.cast_pos.mpr (roundingInterval_low_pos h)
  have hzero : (x.shortest tie).inQuarters = 0 := by
    rw [Decimal.inQuarters, Decimal.toRat, hdigits, Nat.cast_zero, zero_mul, zero_mul]
  rcases (shortest_contains tie h).1 with hlt | ⟨-, heq⟩ <;> linarith

/-! ## Different doubles, different decimals -/

/-- The double is smaller than another, told from its parts. -/
def Below (x y : Double) : Prop :=
  x.scale < y.scale ∨ x.scale = y.scale ∧ x.significand < y.significand

/-- Above the least scale a significand fills its bits, and the interval of a power of two reaches
down only half as far as others do. -/
theorem le_roundingInterval_low {k : ℕ} (h : k < x.scale) :
    (2 ^ 55 - 2) * 2 ^ k ≤ x.roundingInterval.low := by
  have hexponent : 1 < x.exponentField := by
    rw [scale] at h
    omega
  have hquarters : 2 ^ 54 - 1 ≤ 4 * x.significand - x.reach := by
    have hsize : fractionSize = 2 ^ 52 := rfl
    have hreach := x.reach_cases
    rw [significand, if_neg (by omega), hsize]
    by_cases hfraction : x.fractionField = 0
    · rw [reach, if_pos ⟨hfraction, hexponent⟩]
      omega
    · omega
  calc (2 ^ 55 - 2) * 2 ^ k
    _ = (2 ^ 54 - 1) * 2 ^ (k + 1) := by
      rw [Nat.pow_succ 2 k]
      omega
    _ ≤ (4 * x.significand - x.reach) * 2 ^ x.scale :=
      Nat.mul_le_mul hquarters (Nat.pow_le_pow_right (by decide) h)

/-- **A smaller double has its interval below**: the intervals touch at most, and then they do not
both have the point in which they touch. -/
theorem Below.high_le (h : Below x y) : x.roundingInterval.high ≤ y.roundingInterval.low ∧
    (x.roundingInterval.high = y.roundingInterval.low →
      ¬ (x.roundingInterval.closed = true ∧ y.roundingInterval.closed = true)) := by
  have hscale : 0 < 2 ^ x.scale := Nat.two_pow_pos _
  have hhigh : x.roundingInterval.high = (4 * x.significand + 2) * 2 ^ x.scale := rfl
  rcases h with h | ⟨hsame, h⟩
  -- at most `2^55 - 2` quarters: only the greatest significand reaches that far, and it is odd
  · have hlow := le_roundingInterval_low h
    have hsignificand := x.significand_lt
    rw [hhigh]
    refine ⟨(Nat.mul_le_mul_right _ (by omega)).trans hlow, ?_⟩
    rintro heq ⟨hx, -⟩
    have hlast := Nat.le_of_mul_le_mul_right (heq ▸ hlow) hscale
    simp only [roundingInterval, decide_eq_true_eq] at hx
    omega
  · have hreach := y.reach_cases
    have hlow : y.roundingInterval.low = (4 * y.significand - y.reach) * 2 ^ x.scale :=
      hsame ▸ rfl
    rw [hhigh, hlow]
    refine ⟨Nat.mul_le_mul_right _ (by omega), ?_⟩
    rintro heq ⟨hx, hy⟩
    have hnext := Nat.eq_of_mul_eq_mul_right hscale heq
    simp only [roundingInterval, decide_eq_true_eq] at hx hy
    omega

/-- **No decimal lies in the intervals of two doubles.** -/
theorem Below.disjoint (h : Below x y) {point : ℚ} (hx : x.roundingInterval.Contains point)
    (hy : y.roundingInterval.Contains point) : False := by
  obtain ⟨hle, hopen⟩ := h.high_le
  have hle' : (x.roundingInterval.high : ℚ) ≤ y.roundingInterval.low := Nat.cast_le.mpr hle
  rcases hx.2 with hx | ⟨hclosed, hx⟩
  · rcases hy.1 with hy | ⟨-, hy⟩ <;> linarith
  · rcases hy.1 with hy | ⟨hclosed', hy⟩
    · linarith
    · exact hopen (Nat.cast_inj.mp (hx.symm.trans hy.symm)) ⟨hclosed, hclosed'⟩

/-- Doubles of one sign are ordered by scale and significand. -/
theorem below_or_eq_or_below (x y : Double) :
    Below x y ∨ (x.scale = y.scale ∧ x.significand = y.significand) ∨ Below y x := by
  rcases Nat.lt_trichotomy x.scale y.scale with h | h | h
  · exact .inl (.inl h)
  · rcases Nat.lt_trichotomy x.significand y.significand with h' | h' | h'
    · exact .inl (.inr ⟨h, h'⟩)
    · exact .inr (.inl ⟨h, h'⟩)
    · exact .inr (.inr (.inr ⟨h.symm, h'⟩))
  · exact .inr (.inr (.inl h))

/-- A significand without the leading one tells that the exponent is the least. -/
theorem exponentField_eq (x : Double) :
    x.exponentField = if x.significand < fractionSize then 0 else x.scale + 1 := by
  have hfraction := x.fractionField_lt
  by_cases h : x.exponentField = 0
  · rw [significand, if_pos h, if_pos hfraction, h]
  · rw [significand, if_neg h, if_neg (by omega), scale]
    omega

/-- The fraction is the significand without its leading one. -/
theorem fractionField_eq (x : Double) : x.fractionField = x.significand % fractionSize := by
  rw [significand]
  split
  · exact (Nat.mod_eq_of_lt x.fractionField_lt).symm
  · rw [Nat.add_mod_left, Nat.mod_eq_of_lt x.fractionField_lt]

/-- **A double is its sign, its scale and its significand.** -/
theorem eq_of_parts (hsign : x.isNegative = y.isNegative) (hscale : x.scale = y.scale)
    (hsignificand : x.significand = y.significand) : x = y := by
  have hexponent : x.exponentField = y.exponentField := by
    rw [exponentField_eq, exponentField_eq, hscale, hsignificand]
  have hfraction : x.fractionField = y.fractionField := by
    rw [fractionField_eq, fractionField_eq, hsignificand]
  have hsize : fractionSize = 2 ^ 52 := rfl
  have hbits : x.bits.toNat = y.bits.toNat := by
    have hx := x.toNat_bits_lt
    have hy := y.toNat_bits_lt
    rw [isNegative_eq_decide, isNegative_eq_decide, decide_eq_decide, hsize] at hsign
    rw [exponentField, exponentField, hsize] at hexponent
    rw [fractionField, fractionField, hsize] at hfraction
    omega
  cases x
  cases y
  exact congrArg Double.mk (UInt64.toNat_inj.mp hbits)

/-- There is one zero of each sign. -/
theorem eq_of_magnitude_eq_zero (hsign : x.isNegative = y.isNegative) (hx : x.magnitude = 0)
    (hy : y.magnitude = 0) : x = y := by
  have hzero : ∀ {z : Double}, z.magnitude = 0 → z.significand = 0 ∧ z.scale = 0 := by
    intro z hz
    have hsignificand := (Nat.mul_eq_zero.mp hz).resolve_right (Nat.two_pow_pos _).ne'
    have hexponent := z.exponentField_eq
    rw [hsignificand, if_pos (show 0 < fractionSize from Nat.two_pow_pos 52)] at hexponent
    exact ⟨hsignificand, by rw [scale, hexponent]⟩
  obtain ⟨hxsignificand, hxscale⟩ := hzero hx
  obtain ⟨hysignificand, hyscale⟩ := hzero hy
  exact eq_of_parts hsign (hxscale.trans hyscale.symm) (hxsignificand.trans hysignificand.symm)

/-- The decimal as which a finite double is written, next to its sign. -/
def decimal (tie : Tie) (x : Double) : Decimal :=
  if x.magnitude = 0 then ⟨0, 0⟩ else x.shortest tie

theorem decimal_of_digits_eq_zero (h : (x.decimal tie).digits = 0) : x.decimal tie = ⟨0, 0⟩ := by
  rw [decimal] at h ⊢
  split at h
  · next hzero => rw [if_pos hzero]
  · next hzero => exact absurd h (shortest_digits_ne_zero tie hzero)

/-- The decimal of a double is zero exactly if the double is. -/
theorem decimal_toRat_eq_zero_iff (tie : Tie) (x : Double) :
    (x.decimal tie).toRat = 0 ↔ x.magnitude = 0 := by
  have hpow : ∀ e : ℤ, (10 : ℚ) ^ e ≠ 0 := fun e => zpow_ne_zero e (by norm_num)
  rw [Decimal.toRat, mul_eq_zero_iff_right (hpow _), Nat.cast_eq_zero, decimal]
  split
  · next hzero => simp [hzero]
  · next hzero => simp [hzero, shortest_digits_ne_zero tie hzero]

/-- **A double is its sign and the decimal as which it is written.** -/
theorem eq_of_decimal_eq (hsign : x.isNegative = y.isNegative)
    (h : (x.decimal tie).toRat = (y.decimal tie).toRat) : x = y := by
  have hzero : x.magnitude = 0 ↔ y.magnitude = 0 := by
    rw [← decimal_toRat_eq_zero_iff tie, h, decimal_toRat_eq_zero_iff]
  by_cases hx : x.magnitude = 0
  · exact eq_of_magnitude_eq_zero hsign hx (hzero.mp hx)
  have hy : y.magnitude ≠ 0 := fun hy => hx (hzero.mpr hy)
  rw [decimal, decimal, if_neg hx, if_neg hy] at h
  have hpoint : (x.shortest tie).inQuarters = (y.shortest tie).inQuarters := by
    rw [Decimal.inQuarters, h, Decimal.inQuarters]
  have hxpoint := hpoint ▸ shortest_contains tie hx
  have hypoint := shortest_contains tie hy
  rcases below_or_eq_or_below x y with hlt | ⟨hscale, hsignificand⟩ | hlt
  · exact (hlt.disjoint hxpoint hypoint).elim
  · exact eq_of_parts hsign hscale hsignificand
  · exact (hlt.disjoint hypoint hxpoint).elim

end Double

end RecordFilter
