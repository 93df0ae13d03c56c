import Mathlib.Algebra.Order.Field.Power
import Questionnaire.Proofs.NearestDoubles

/-!
# Reading a decimal

A decimal has digits and an exponent of ten. Its size tells between which powers of ten its value is, and so the two
shortcuts of the reading, for values far below the least double and far above the greatest one, give what rounding
would give.

* `Decimal.value`, `Decimal.size`: the exact value of a decimal and its number of digits.
* `Decimal.value_lt`, `Decimal.pow_le_value`: the powers of ten around it.
* `Decimal.toBinary64_eq_finite_iff`: a decimal is read as the double that its value rounds to.
-/

namespace Questionnaire

namespace Decimal

open Binary64 (Regular Rounds step highest unitsPerOne)

/-! ## Sizes and values -/

section Digits

variable {n k : Nat}

/-- Even zero has a digit. -/
theorem length_digitsOf_pos (n : Nat) : 0 < (digitsOf n).length := Nat.length_toDigits_pos

/-- How many digits a number has is told by the powers of ten. -/
theorem length_digitsOf_le_iff (hk : 0 < k) : (digitsOf n).length ≤ k ↔ n < 10 ^ k :=
  Nat.length_toDigits_le_iff (by decide) hk

/-- A number is below the power of ten with as many zeros as it has digits. -/
theorem lt_pow_length (n : Nat) : n < 10 ^ (digitsOf n).length :=
  (length_digitsOf_le_iff (length_digitsOf_pos n)).mp (Nat.le_refl _)

/-- It is not below the power before that, unless it is zero. -/
theorem pow_length_le (hn : 0 < n) : 10 ^ ((digitsOf n).length - 1) ≤ n := by
  by_contra hlt
  rcases Nat.eq_zero_or_pos ((digitsOf n).length - 1) with hzero | hpos
  · rw [hzero] at hlt
    omega
  · have := (length_digitsOf_le_iff hpos).mpr (Nat.not_le.mp hlt)
    omega

/-- A greater number has at least as many digits. -/
theorem length_digitsOf_mono {a b : Nat} (h : a ≤ b) : (digitsOf a).length ≤ (digitsOf b).length :=
  (length_digitsOf_le_iff (length_digitsOf_pos b)).mpr (h.trans_lt (lt_pow_length b))

/-- A number has `k + 1` digits exactly from `10ᵏ` up to below the next power. -/
theorem length_digitsOf_eq (hlow : 10 ^ k ≤ n) (hhigh : n < 10 ^ (k + 1)) : (digitsOf n).length = k + 1 := by
  have hle := (length_digitsOf_le_iff (Nat.succ_pos k)).mpr hhigh
  have hgt : ¬ (digitsOf n).length ≤ k := by
    rcases Nat.eq_zero_or_pos k with rfl | hk
    · have := length_digitsOf_pos n
      omega
    · rw [length_digitsOf_le_iff hk]
      omega
  omega

end Digits

/-- How many digits a decimal has. -/
def size (d : Decimal) : Nat := (digitsOf d.digits).length

/-- The exact value of a decimal. -/
def value (d : Decimal) : ℚ := d.digits * 10 ^ d.exponent

variable {d : Decimal}

/-- A decimal has a digit. -/
theorem size_pos (d : Decimal) : 0 < d.size := length_digitsOf_pos d.digits

theorem ten_pow_pos (k : Nat) : 0 < 10 ^ k := Nat.pow_pos (by decide)

theorem ten_zpow_pos (e : Int) : (0 : ℚ) < 10 ^ e := zpow_pos (by norm_num) e

theorem ten_zpow_add (a b : Int) : (10 : ℚ) ^ (a + b) = 10 ^ a * 10 ^ b := zpow_add₀ (by norm_num) a b

/-- Where the exponent is not negative, the power is that of the natural numbers. -/
theorem ten_zpow_natCast (k : Nat) : (10 : ℚ) ^ (k : Int) = (10 ^ k : Nat) := by
  rw [zpow_natCast]
  push_cast
  rfl

theorem ten_zpow_le {a b : Int} (h : a ≤ b) : (10 : ℚ) ^ a ≤ 10 ^ b := zpow_le_zpow_right₀ (by norm_num) h

/-- Decimals have no sign of their own. -/
theorem value_nonneg (d : Decimal) : 0 ≤ d.value := mul_nonneg (Nat.cast_nonneg _) (ten_zpow_pos _).le

/-- The value is below the power of ten that follows on the digits. -/
theorem value_lt (d : Decimal) : d.value < 10 ^ (d.size + d.exponent : Int) := by
  rw [ten_zpow_add, ten_zpow_natCast]
  exact mul_lt_mul_of_pos_right (Nat.cast_lt.mpr (lt_pow_length d.digits)) (ten_zpow_pos _)

/-- It is at least the power of ten at the first digit. -/
theorem pow_le_value (h : 0 < d.digits) : 10 ^ (d.size - 1 + d.exponent : Int) ≤ d.value := by
  have hsize : ((d.size : Int) - 1) = ((d.size - 1 : Nat) : Int) := by
    have := d.size_pos
    omega
  rw [hsize, ten_zpow_add, ten_zpow_natCast]
  exact mul_le_mul_of_nonneg_right (Nat.cast_le.mpr (pow_length_le h)) (ten_zpow_pos _).le

/-- As a ratio of whole numbers, for an exponent that is not negative. -/
theorem value_of_nonneg (h : 0 ≤ d.exponent) : d.value = (d.digits * 10 ^ d.exponent.toNat : Nat) := by
  rw [value, ← Int.toNat_of_nonneg h, ten_zpow_natCast, Nat.cast_mul, Int.toNat_natCast]

/-- With a negative exponent, the digits are divided by a power of ten. -/
theorem value_of_neg (h : d.exponent < 0) : d.value = d.digits / (10 ^ (-d.exponent).toNat : Nat) := by
  rw [← ten_zpow_natCast, Int.toNat_of_nonneg (by omega), zpow_neg, div_inv_eq_mul, value]

/-- A decimal that rounds to a positive double has digits. -/
theorem digits_pos_of_rounds {m s : Nat} (hm : 0 < m) (hd : Rounds m s d.value) : 0 < d.digits := by
  by_contra hzero
  have hpos := hd.pos hm
  rw [value, Nat.eq_zero_of_not_pos hzero, Nat.cast_zero, zero_mul] at hpos
  exact lt_irrefl 0 hpos

/-! ## Reading a decimal -/

/-- A number that is not above this is far from all doubles but zero. -/
theorem ten_zpow_le_half_step : (10 : ℚ) ^ (-331 : Int) ≤ step 0 / 2 := by
  have hpos : (0 : ℚ) < (unitsPerOne * 2 : Nat) :=
    Nat.cast_pos.mpr (Nat.mul_pos Binary64.unitsPerOne_pos two_pos)
  have hle : ((unitsPerOne * 2 : Nat) : ℚ) ≤ (10 ^ 331 : Nat) := by
    have hpow := Binary64.two_pow_le
    rw [Nat.cast_le, unitsPerOne, Binary64.pow_by_parts 2 (show 1074 = 51 + 1023 from rfl),
      Binary64.pow_by_parts 10 (show 331 = 23 + 308 from rfl)]
    omega
  calc (10 : ℚ) ^ (-331 : Int) = 1 / (10 ^ ((331 : Nat) : Int)) := by rw [one_div, ← zpow_neg]; rfl
    _ = 1 / (10 ^ 331 : Nat) := by rw [ten_zpow_natCast]
    _ ≤ 1 / (unitsPerOne * 2 : Nat) := one_div_le_one_div_of_le hpos hle
    _ = step 0 / 2 := by rw [step, pow_zero, Nat.cast_one, Nat.cast_mul, div_div, Nat.cast_ofNat]

/-- **A decimal is read as a double** exactly if its value rounds to it. -/
theorem toBinary64_eq_finite_iff (negative : Bool) {m s : Nat} (h : Regular m s) :
    d.toBinary64 negative = .finite negative m s ↔ Rounds m s d.value := by
  have hsize : ((digitsOf d.digits).length : Int) = d.size := rfl
  unfold toBinary64
  rw [hsize]
  by_cases htiny : d.digits = 0 ∨ (d.size + d.exponent : Int) < -330
  · -- read as zero: the value is below half of the least step
    have hlt : d.value < step 0 / 2 := by
      rcases htiny with hzero | hsmall
      · rw [value, hzero, Nat.cast_zero, zero_mul]
        exact half_pos (Binary64.step_pos 0)
      · calc d.value < 10 ^ (d.size + d.exponent : Int) := d.value_lt
          _ ≤ 10 ^ (-331 : Int) := ten_zpow_le (by omega)
          _ ≤ step 0 / 2 := ten_zpow_le_half_step
    rw [if_pos htiny, Binary64.rounds_iff_of_lt h d.value_nonneg hlt]
    simp only [Binary64.finite.injEq, true_and]
    omega
  · rw [if_neg htiny]
    push Not at htiny
    by_cases hhuge : (d.size + d.exponent : Int) > 310
    · -- read as infinite: the value is beyond what rounds to any double
      rw [if_pos hhuge]
      simp only [reduceCtorEq, false_iff]
      intro hrounds
      have hbeyond : highest m s < d.value := calc
        highest m s < (10 ^ 310 : Nat) := Binary64.highest_lt h
        _ = 10 ^ ((310 : Nat) : Int) := (ten_zpow_natCast 310).symm
        _ ≤ 10 ^ (d.size - 1 + d.exponent : Int) := ten_zpow_le (by omega)
        _ ≤ d.value := pow_le_value (Nat.pos_of_ne_zero htiny.1)
      exact absurd hrounds.high (not_le.mpr hbeyond)
    · -- else a ratio of integers is rounded, of which one is a power of ten
      rw [if_neg hhuge]
      split
      · rename_i hexponent
        rw [Binary64.ofRatio_one_eq_finite_iff _ h, value_of_nonneg hexponent]
      · rename_i hexponent
        rw [Binary64.ofRatio_eq_finite_iff _ (ten_pow_pos _) h, value_of_neg (not_le.mp hexponent)]

end Decimal
end Questionnaire
