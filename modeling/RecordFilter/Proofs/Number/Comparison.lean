import Mathlib.Tactic.Linarith
import RecordFilter.Number.Integer

/-!
# Proofs/Number/Comparison — integers and doubles compare as the numbers they denote

A finite double is a number of **units**. Cutting it off behind the point leaves the whole part of
that number (`inUnits_trunc`), whatever the exponent. A difference is rounded, but no difference is
rounded to zero (`zero_compare?_minus`), so the sign of what was cut off survives. Hence the
comparison of an integer with a double, which takes these steps, is the one of what they denote
(`compareInteger?_eq`).
-/

namespace RecordFilter

namespace Quantity

/-- The number of units in one is kept behind a name, so that no proof computes with its digits. -/
theorem two_pow_eq_one {n : Nat} (h : n = 1074) : 2 ^ n = one := by
  unfold one
  rw [← h]
  rfl

theorem one_pos : 0 < one := by
  obtain ⟨k, hk⟩ : ∃ k, k = 1074 := ⟨_, rfl⟩
  rw [← two_pow_eq_one hk]
  exact Nat.two_pow_pos k

theorem two_pow_mul_two_pow {a b : Nat} (h : a + b = 1074) : 2 ^ a * 2 ^ b = one := by
  rw [← Nat.pow_add, two_pow_eq_one h]

/-- Powers of two whose exponents do not reach that of one multiply to at most one. -/
theorem two_pow_mul_two_pow_le {a b : Nat} (h : a + b ≤ 1074) : 2 ^ a * 2 ^ b ≤ one :=
  calc 2 ^ a * 2 ^ b
    _ ≤ 2 ^ a * 2 ^ (1074 - a) :=
      Nat.mul_le_mul_left _ (Nat.pow_le_pow_right (by decide) (by omega))
    _ = one := two_pow_mul_two_pow (by omega)

/-- From the exponent of one on, powers of two are multiples of one. -/
theorem one_dvd_two_pow {n : Nat} (h : 1074 ≤ n) : one ∣ 2 ^ n := by
  obtain ⟨k, hk⟩ : ∃ k, k = 1074 := ⟨_, rfl⟩
  rw [← two_pow_eq_one hk]
  exact Nat.pow_dvd_pow 2 (hk ▸ h)

end Quantity

namespace Double

open Quantity (one)

variable {x y : Double}

/-! ## The parts of a double -/

theorem toNat_bits_lt (x : Double) : x.bits.toNat < 2 ^ 64 := x.bits.toNat_lt

/-- Sign and exponent stand above the fraction. -/
theorem isNegative_eq_decide (x : Double) :
    x.isNegative = decide (2048 ≤ x.bits.toNat / fractionSize) := by
  have hsize : fractionSize = 2 ^ 52 := rfl
  rw [isNegative, hsize, decide_eq_decide]
  simp only [Nat.pow_eq]
  omega

/-- The fraction has 52 bits. -/
theorem fractionField_lt (x : Double) : x.fractionField < fractionSize :=
  Nat.mod_lt _ (Nat.two_pow_pos 52)

/-- What denotes a number is not NaN. -/
theorem isNaN_of_isFinite (h : x.isFinite = true) : x.isNaN = false := by
  simp only [isFinite, decide_eq_true_eq] at h
  simp [isNaN, Nat.ne_of_lt h]

/-- **Only NaN denotes nothing.** -/
@[simp] theorem quantity?_eq_none_iff : x.quantity? = none ↔ x.isNaN = true := by
  unfold quantity?
  cases hfinite : x.isFinite with
  | true => simp [isNaN_of_isFinite hfinite]
  | false => cases x.isNaN <;> simp

/-- The number that a finite double denotes, in units of the least positive one. -/
def inUnits (x : Double) : Int := if x.isNegative then -(x.magnitude : Int) else x.magnitude

theorem quantity?_of_isFinite (h : x.isFinite = true) :
    x.quantity? = some (.units x.inUnits) := if_pos h

/-- Where the bits above the fraction agree, so do sign and exponent. -/
theorem fields_eq_of_div_eq (h : x.bits.toNat / fractionSize = y.bits.toNat / fractionSize) :
    x.isNegative = y.isNegative ∧ x.exponentField = y.exponentField := by
  rw [isNegative_eq_decide, isNegative_eq_decide, exponentField, exponentField, h]
  exact ⟨rfl, rfl⟩

/-! ## Cutting off behind the point -/

/-- Cutting off clears the low bits, as many as stand behind the point. -/
theorem toNat_bits_trunc (x : Double) : x.trunc.bits.toNat =
    x.bits.toNat - x.bits.toNat % 2 ^ x.fractionalBits := by
  have hlt : x.bits.toNat - x.bits.toNat % 2 ^ x.fractionalBits < 2 ^ 64 :=
    Nat.lt_of_le_of_lt (Nat.sub_le ..) x.toNat_bits_lt
  exact (UInt64.toNat_ofNat').trans (Nat.mod_eq_of_lt hlt)

/-- Clearing low bits of the fraction leaves the bits above it, and rounds the fraction down. -/
theorem sub_mod_two_pow {b k : Nat} (hk : k ≤ 52) :
    (b - b % 2 ^ k) / fractionSize = b / fractionSize ∧
      (b - b % 2 ^ k) % fractionSize = b % fractionSize - b % fractionSize % 2 ^ k := by
  have hdvd : 2 ^ k ∣ fractionSize := Nat.pow_dvd_pow 2 hk
  have hsize : 0 < fractionSize := Nat.two_pow_pos 52
  have hle : b % fractionSize % 2 ^ k ≤ b % fractionSize := Nat.mod_le ..
  have hsub : b - b % 2 ^ k =
      (b % fractionSize - b % fractionSize % 2 ^ k) + fractionSize * (b / fractionSize) := by
    have hb := Nat.mod_add_div b fractionSize
    rw [Nat.mod_mod_of_dvd b hdvd] at hle ⊢
    omega
  have hlt : b % fractionSize - b % fractionSize % 2 ^ k < fractionSize :=
    Nat.lt_of_le_of_lt (Nat.sub_le ..) (Nat.mod_lt _ hsize)
  rw [hsub]
  exact ⟨by rw [Nat.add_mul_div_left _ _ hsize, Nat.div_eq_of_lt hlt, Nat.zero_add],
    by rw [Nat.add_mul_mod_self_left, Nat.mod_eq_of_lt hlt]⟩

/-- A double below one loses all but its sign. -/
theorem fields_trunc_of_lt (h : x.exponentField < 1023) :
    x.trunc.isNegative = x.isNegative ∧ x.trunc.exponentField = 0 ∧ x.trunc.fractionField = 0 := by
  have hsize : fractionSize = 2 ^ 52 := rfl
  have hbits := x.toNat_bits_trunc
  rw [fractionalBits, if_pos h] at hbits
  refine ⟨?_, ?_, ?_⟩
  · rw [isNegative_eq_decide, isNegative_eq_decide, decide_eq_decide, hbits, hsize]
    omega
  · rw [exponentField, hbits, hsize]
    omega
  · rw [fractionField, hbits, hsize]
    omega

/-- From one on, a double keeps its sign and exponent, and its fraction is rounded down. -/
theorem fields_trunc_of_le (h : 1023 ≤ x.exponentField) :
    x.trunc.isNegative = x.isNegative ∧ x.trunc.exponentField = x.exponentField ∧
      x.trunc.fractionField =
        x.fractionField - x.fractionField % 2 ^ (1075 - x.exponentField) := by
  have hbits := x.toNat_bits_trunc
  rw [fractionalBits, if_neg (Nat.not_lt.mpr h)] at hbits
  have hfields := sub_mod_two_pow (b := x.bits.toNat) (k := 1075 - x.exponentField) (by omega)
  rw [← hbits] at hfields
  obtain ⟨hsign, hexponent⟩ := fields_eq_of_div_eq hfields.1
  exact ⟨hsign, hexponent, hfields.2⟩

/-- Cutting off never changes the sign, not even where nothing else is left. -/
@[simp] theorem isNegative_trunc (x : Double) : x.trunc.isNegative = x.isNegative := by
  rcases Nat.lt_or_ge x.exponentField 1023 with h | h
  · exact (fields_trunc_of_lt h).1
  · exact (fields_trunc_of_le h).1

theorem isFinite_trunc (h : x.isFinite = true) : x.trunc.isFinite = true := by
  rcases Nat.lt_or_ge x.exponentField 1023 with hlt | hge
  · rw [isFinite, (fields_trunc_of_lt hlt).2.1]
    rfl
  · rwa [isFinite, (fields_trunc_of_le hge).2.1]

/-- The significand has 53 bits, with the leading one. -/
theorem significand_lt (x : Double) : x.significand < 2 ^ 53 := by
  have hfraction := x.fractionField_lt
  have hsize : fractionSize = 2 ^ 52 := rfl
  rw [significand]
  split <;> omega

/-- A small exponent field is that of a double below one. -/
theorem magnitude_lt_one (h : x.exponentField < 1023) : x.magnitude < one := by
  have hscale : 53 + x.scale ≤ 1074 := by
    rw [scale]
    omega
  calc x.magnitude
    _ < 2 ^ 53 * 2 ^ x.scale := Nat.mul_lt_mul_of_pos_right x.significand_lt (Nat.two_pow_pos _)
    _ ≤ one := Quantity.two_pow_mul_two_pow_le hscale

/-- From one on the significand loses the bits behind the point. -/
theorem significand_trunc (h : 1023 ≤ x.exponentField) : x.trunc.significand =
    x.significand / 2 ^ (1075 - x.exponentField) * 2 ^ (1075 - x.exponentField) := by
  obtain ⟨-, hexponent, hfraction⟩ := fields_trunc_of_le h
  have hne : x.exponentField ≠ 0 := by omega
  obtain ⟨q, hq⟩ : 2 ^ (1075 - x.exponentField) ∣ fractionSize := Nat.pow_dvd_pow 2 (by omega)
  have hpos : 0 < 2 ^ (1075 - x.exponentField) := Nat.two_pow_pos _
  have hdiv := Nat.div_add_mod x.fractionField (2 ^ (1075 - x.exponentField))
  rw [significand, significand, if_neg hne, if_neg (hexponent ▸ hne), hfraction, hq,
    Nat.mul_add_div hpos, Nat.add_mul, Nat.mul_comm q, Nat.mul_comm (_ / _)]
  omega

/-- **What is left is the whole part**, as a multiple of one. -/
theorem magnitude_trunc (x : Double) : x.trunc.magnitude = x.magnitude / one * one := by
  rcases Nat.lt_or_ge x.exponentField 1023 with hlt | hge
  · obtain ⟨-, hexponent, hfraction⟩ := fields_trunc_of_lt hlt
    rw [Nat.div_eq_of_lt (magnitude_lt_one hlt), Nat.zero_mul, magnitude, significand,
      if_pos hexponent, hfraction, Nat.zero_mul]
  · obtain ⟨-, hexponent, -⟩ := fields_trunc_of_le hge
    have hscale : x.trunc.scale = x.scale := by rw [scale, scale, hexponent]
    rw [magnitude, magnitude, hscale, Nat.pow_eq, significand_trunc hge]
    rcases Nat.lt_or_ge x.exponentField 1075 with hfew | hmany
    · -- the point stands inside the fraction
      have hone : 2 ^ (1075 - x.exponentField) * 2 ^ x.scale = one := by
        refine Quantity.two_pow_mul_two_pow ?_
        rw [scale]
        omega
      rw [← hone, Nat.mul_div_mul_right _ _ (Nat.two_pow_pos _), Nat.mul_assoc]
    · -- the point stands behind the fraction
      have hdvd : one ∣ 2 ^ x.scale := Quantity.one_dvd_two_pow (by
        rw [scale]
        omega)
      have hk : 1075 - x.exponentField = 0 := by omega
      rw [hk, Nat.pow_zero, Nat.div_one, Nat.mul_one,
        Nat.div_mul_cancel (Nat.dvd_mul_left_of_dvd hdvd _)]

/-- **Cutting off leaves the whole part**, rounded towards zero on both sides. -/
theorem inUnits_trunc (x : Double) : x.trunc.inUnits = x.inUnits.tdiv one * one := by
  rw [inUnits, inUnits, isNegative_trunc, magnitude_trunc]
  split
  · rw [Int.neg_tdiv, Int.neg_mul]
    rfl
  · rfl

/-! ## Differences -/

/-- Rounding to the nearest never goes below rounding down. -/
theorem div_le_roundHalfEven (n d : Nat) : n / d ≤ roundHalfEven n d := by
  rw [roundHalfEven]
  split
  · exact Nat.le_refl _
  · split <;> omega

/-- **A positive number of units is not rounded to zero**, and rounded to infinity at most. -/
theorem toNat_bits_ofRatio {n : Nat} (h : 0 < n) :
    0 < (ofRatio n one).bits.toNat ∧ (ofRatio n one).bits.toNat ≤ infinity.bits.toNat := by
  have hinfinity : infinity.bits.toNat = 9218868437227405312 := rfl
  have hsize : fractionSize = 4503599627370496 := rfl
  unfold ofRatio
  simp only [Nat.mul_div_cancel _ Quantity.one_pos]
  split
  · exact ⟨by decide, Nat.le_refl _⟩
  · next hlt =>
    rw [Nat.not_le] at hlt
    have hpos : 0 < (n.log2 - 52) * fractionSize +
        roundHalfEven (n * one) (one * Nat.pow 2 (n.log2 - 52)) := by
      rcases Nat.eq_zero_or_pos (n.log2 - 52) with hzero | hscale
      · have hround := div_le_roundHalfEven (n * one) (one * Nat.pow 2 (n.log2 - 52))
        have hdiv : n * one / (one * Nat.pow 2 (n.log2 - 52)) = n := by
          rw [hzero, Nat.pow_eq, Nat.pow_zero, Nat.mul_one, Nat.mul_div_cancel _ Quantity.one_pos]
        omega
      · have := Nat.mul_pos hscale (show 0 < fractionSize by omega)
        omega
    have hbits : ∀ b < 9218868437227405312, (b.toUInt64).toNat = b := fun b hb =>
      UInt64.toNat_ofNat'.trans (Nat.mod_eq_of_lt (by omega))
    rw [hinfinity] at hlt ⊢
    rw [hbits _ hlt]
    exact ⟨hpos, Nat.le_of_lt hlt⟩

/-- The double zero is no units. -/
theorem zero_quantity? : zero.quantity? = some (.units 0) := rfl

theorem magnitude_pos (h : 0 < x.significand) : 0 < x.magnitude :=
  Nat.mul_pos h (Nat.two_pow_pos _)

/-- What is not zero and no NaN lies on the side of zero that its sign tells. -/
theorem exists_quantity?_of_bits (hpos : 0 < x.bits.toNat % 2 ^ 63)
    (hle : x.bits.toNat % 2 ^ 63 ≤ infinity.bits.toNat) : ∃ q, x.quantity? = some q ∧
      (Quantity.units 0).compare q = if x.isNegative then .gt else .lt := by
  have hinfinity : infinity.bits.toNat = 2047 * 2 ^ 52 := rfl
  have hsize : fractionSize = 2 ^ 52 := rfl
  have hexponent : x.exponentField = x.bits.toNat % 2 ^ 63 / 2 ^ 52 := by
    rw [exponentField, hsize]
    omega
  have hfraction : x.fractionField = x.bits.toNat % 2 ^ 63 % 2 ^ 52 := by
    rw [fractionField, hsize]
    omega
  cases hfinite : x.isFinite with
  | true =>
    refine ⟨_, quantity?_of_isFinite hfinite, ?_⟩
    have hmagnitude : 0 < x.magnitude := by
      refine magnitude_pos ?_
      rw [significand]
      split <;> omega
    rw [inUnits]
    cases x.isNegative with
    | true => exact compare_gt_iff_gt.mpr (by simpa using hmagnitude)
    | false => exact compare_lt_iff_lt.mpr (by simpa using hmagnitude)
  | false =>
    have hnan : x.isNaN = false := by
      simp only [isFinite, decide_eq_false_iff_not] at hfinite
      simp only [isNaN, Bool.and_eq_false_iff, decide_eq_false_iff_not, not_not]
      exact .inr (by omega)
    refine ⟨if x.isNegative then .least else .greatest, ?_, ?_⟩
    · rw [quantity?, hfinite, hnan]
      rfl
    · cases x.isNegative <;> rfl

theorem toNat_bits_neg (h : x.bits.toNat < 2 ^ 63) : x.neg.bits.toNat = x.bits.toNat + 2 ^ 63 := by
  have hxor : x.neg.bits.toNat = x.bits.toNat ^^^ 2 ^ 63 := UInt64.toNat_xor ..
  have hmod : x.neg.bits.toNat % 2 ^ 63 = x.bits.toNat := by
    rw [hxor, Nat.xor_mod_two_pow, Nat.mod_self, Nat.xor_zero, Nat.mod_eq_of_lt h]
  have hdiv : x.neg.bits.toNat / 2 ^ 63 = 1 := by
    rw [hxor, Nat.xor_div_two_pow, Nat.div_eq_of_lt h, Nat.div_self (Nat.two_pow_pos _)]
    rfl
  have := Nat.div_add_mod x.neg.bits.toNat (2 ^ 63)
  omega

/-- A number of units other than zero keeps its sign when it is rounded. -/
theorem zero_compare?_ofUnits {n : Int} (h : n ≠ 0) :
    zero.compare? (ofUnits n) = some (compare 0 n) := by
  obtain ⟨hpos, hle⟩ := toNat_bits_ofRatio (Int.natAbs_pos.mpr h)
  have hlt : (ofRatio n.natAbs one).bits.toNat < 2 ^ 63 := Nat.lt_of_le_of_lt hle (by decide)
  rw [compare?, zero_quantity?, ofUnits]
  split_ifs with hneg
  · have hbits := toNat_bits_neg hlt
    have hsign : (ofRatio n.natAbs one).neg.isNegative = true :=
      decide_eq_true (hbits ▸ Nat.le_add_left ..)
    obtain ⟨q, hq, hcompare⟩ := exists_quantity?_of_bits (x := (ofRatio n.natAbs one).neg)
      (by omega) (by omega)
    rw [hsign] at hcompare
    rw [hq, compare_gt_iff_gt.mpr hneg]
    exact congrArg some hcompare
  · have hsign : (ofRatio n.natAbs one).isNegative = false :=
      decide_eq_false (Nat.not_le.mpr hlt)
    obtain ⟨q, hq, hcompare⟩ := exists_quantity?_of_bits (x := ofRatio n.natAbs one)
      (by omega) (by omega)
    rw [hsign] at hcompare
    rw [hq, compare_lt_iff_lt.mpr (by omega)]
    exact congrArg some hcompare

/-- **The sign of a difference is exact**, though the difference is rounded. -/
theorem zero_compare?_minus (hx : x.isFinite = true) (hy : y.isFinite = true) :
    zero.compare? (x.minus y) = some (compare 0 (x.inUnits - y.inUnits)) := by
  rw [minus, quantity?_of_isFinite hx, quantity?_of_isFinite hy]
  simp only
  split_ifs with hne hzeros
  · exact zero_compare?_ofUnits (sub_ne_zero.mpr hne)
  · rw [not_not.mp hne, Int.sub_self]
    rfl
  · rw [not_not.mp hne, Int.sub_self]
    rfl

/-! ## Integers and doubles -/

/-- Integers of 64 bits are ordered as the integers they denote. -/
theorem compare_eq_compare_toInt (m n : Int64) : compare m n = compare m.toInt n.toInt := by
  have hm : compare m n = compareOfLessAndEq m n := rfl
  have hn : compare m.toInt n.toInt = compareOfLessAndEq m.toInt n.toInt := rfl
  rw [hm, hn]
  simp only [compareOfLessAndEq, Int64.lt_iff_toInt_lt, Int64.toInt_inj]

theorem leastInteger_quantity? : leastInteger.quantity? = some (.units (-2 ^ 63 * one)) := by
  decide +kernel

theorem neg_leastInteger_quantity? :
    leastInteger.neg.quantity? = some (.units (2 ^ 63 * one)) := by
  decide +kernel

/-- Between the ends of the integers, the whole part of a double is one of them. -/
theorem toInt_toInt64_trunc (h : x.isFinite = true) (hlow : -2 ^ 63 * (one : Int) ≤ x.inUnits)
    (hhigh : x.inUnits < 2 ^ 63 * (one : Int)) :
    x.trunc.toInt64.toInt = x.inUnits.tdiv one := by
  have hone : (0 : Int) < one := Int.natCast_pos.mpr Quantity.one_pos
  have htrunc : x.trunc.toInt64 = .ofIntClamp (x.inUnits.tdiv one) := by
    rw [toInt64, quantity?_of_isFinite (isFinite_trunc h), inUnits_trunc]
    exact congrArg Int64.ofIntClamp (Int.mul_tdiv_cancel _ (Int.ne_of_gt hone))
  rw [htrunc, Int64.toInt_ofIntClamp]
  · rw [Int64.toInt_minValue]
    exact Int.le_tdiv_of_mul_le hone hlow
  · rw [Int64.toInt_maxValue]
    rcases Int.le_total 0 x.inUnits with hpos | hneg
    · rw [Int.tdiv_eq_ediv_of_nonneg hpos]
      have := Int.ediv_lt_of_lt_mul hone hhigh
      omega
    · have := Int.tdiv_nonneg (Int.neg_nonneg_of_nonpos hneg) (Int.le_of_lt hone)
      rw [Int.neg_tdiv] at this
      omega

/-- The whole parts decide an order, and where they agree what is cut off does. -/
theorem compare_tdiv (n m : Int) {d : Int} (hd : 0 < d) :
    compare (n * d) m = (compare n (m.tdiv d)).then (compare 0 (m - m.tdiv d * d)) := by
  have hdiv := Int.tdiv_mul_add_tmod m d
  have hmod := Int.tmod_lt_of_pos m hd
  have hmod' := Int.lt_tmod_of_pos m hd
  rcases lt_trichotomy n (m.tdiv d) with h | h | h
  · have hstep : n * d ≤ (m.tdiv d - 1) * d := Int.mul_le_mul_of_nonneg_right (by omega) (by omega)
    rw [Int.sub_mul, Int.one_mul] at hstep
    rw [compare_lt_iff_lt.mpr h, compare_lt_iff_lt.mpr (by omega)]
    rfl
  · rw [compare_eq_iff_eq.mpr h, ← h]
    rcases lt_trichotomy (n * d) m with h' | h' | h'
    · rw [compare_lt_iff_lt.mpr h', compare_lt_iff_lt.mpr (by omega)]
      rfl
    · rw [compare_eq_iff_eq.mpr h', compare_eq_iff_eq.mpr (by omega)]
      rfl
    · rw [compare_gt_iff_gt.mpr h', compare_gt_iff_gt.mpr (by omega)]
      rfl
  · have hstep : (m.tdiv d + 1) * d ≤ n * d := Int.mul_le_mul_of_nonneg_right (by omega) (by omega)
    rw [Int.add_mul, Int.one_mul] at hstep
    rw [compare_gt_iff_gt.mpr h, compare_gt_iff_gt.mpr (by omega)]
    rfl

/-- A place on the line between its ends is that of a finite double. -/
theorem isFinite_of_quantity? {m : Int} (h : x.quantity? = some (.units m)) :
    x.isFinite = true ∧ x.inUnits = m := by
  have hfinite : x.isFinite = true := by
    by_contra hno
    rw [quantity?, if_neg hno] at h
    cases hnan : x.isNaN <;> cases hneg : x.isNegative <;> simp [hnan, hneg] at h
  rw [quantity?_of_isFinite hfinite] at h
  exact ⟨hfinite, Quantity.units.inj (Option.some.inj h)⟩

/-- Beyond the integers their ends decide, and between them the whole part and what is cut off. -/
theorem compareInteger?_of_isFinite (n : Int64) (h : x.isFinite = true) :
    compareInteger? n x = some (compare (n.toInt * one) x.inUnits) := by
  have hone : (0 : Int) < one := Int.natCast_pos.mpr Quantity.one_pos
  have hhigh : Ordering.isGE ((Quantity.units x.inUnits).compare (.units (2 ^ 63 * one))) =
      true ↔ 2 ^ 63 * (one : Int) ≤ x.inUnits := Int.isGE_compare
  have hlow : Ordering.isLT ((Quantity.units x.inUnits).compare (.units (-2 ^ 63 * one))) =
      true ↔ x.inUnits < -2 ^ 63 * (one : Int) := Ordering.isLT_iff_eq_lt.trans compare_lt_iff_lt
  rw [compareInteger?, isNaN_of_isFinite h, compare?, compare?, quantity?_of_isFinite h,
    leastInteger_quantity?, neg_leastInteger_quantity?]
  simp only [Bool.false_eq_true, if_false, Option.any_some, hhigh, hlow]
  split_ifs with hge hlt
  · have hn : n.toInt * one < 2 ^ 63 * (one : Int) := Int.mul_lt_mul_of_pos_right n.toInt_lt hone
    rw [compare_lt_iff_lt.mpr (Int.lt_of_lt_of_le hn hge)]
  · have hn : -2 ^ 63 * (one : Int) ≤ n.toInt * one :=
      Int.mul_le_mul_of_nonneg_right n.le_toInt (Int.le_of_lt hone)
    rw [compare_gt_iff_gt.mpr (Int.lt_of_lt_of_le hlt hn)]
  · have hwhole := toInt_toInt64_trunc h (Int.not_lt.mp hlt) (Int.not_le.mp hge)
    rw [compare_eq_compare_toInt, hwhole, zero_compare?_minus h (isFinite_trunc h), inUnits_trunc,
      compare_tdiv _ _ hone]
    cases compare n.toInt (x.inUnits.tdiv one) <;> rfl

/-- **An integer and a double are compared as the numbers they denote.** -/
theorem compareInteger?_eq (n : Int64) (x : Double) :
    compareInteger? n x = x.quantity?.map (Quantity.ofInt n.toInt).compare := by
  cases hq : x.quantity? with
  | none =>
    rw [compareInteger?, if_pos (quantity?_eq_none_iff.mp hq)]
    rfl
  | some q =>
    cases q with
    | units m =>
      obtain ⟨hfinite, rfl⟩ := isFinite_of_quantity? hq
      rw [compareInteger?_of_isFinite n hfinite]
      rfl
    | _ =>
      have hnan : ¬ x.isNaN = true := fun h => by
        rw [quantity?_eq_none_iff.mpr h] at hq
        cases hq
      rw [compareInteger?, if_neg hnan, compare?, compare?, hq, leastInteger_quantity?,
        neg_leastInteger_quantity?]
      rfl

end Double

end RecordFilter
