import Mathlib.Tactic.LinearCombination
import Questionnaire.Proofs.ShortestDecimals

/-!
# The decimal that is chosen

Two decimals that are chosen for one double would be as far from it to either side, with even digits. But between two on
one grid there is a nearer one in the middle, and between two on different grids a power of ten.

* `Decimal.ChosenFor.eq`: only one decimal is chosen.
* `Decimal.ChosenFor.pow_le`, `Decimal.ChosenFor.lt_pow`: it is on the same side of a power of ten as the double, but
  for a power that rounds to the double.
* `Decimal.ChosenFor.exponent_nonneg_iff`: it is whole exactly if the double is.
-/

namespace Questionnaire

namespace Decimal

open Binary64 (Regular Rounds magnitude lowest highest quartersBelow unitsPerOne)

variable {d c : Decimal}

section Chosen

variable {m s : Nat} (hm : 0 < m) (h : Regular m s)

/-! ## There is only one -/

/-- The power of ten at a place. -/
def power (e : Int) : Decimal := ⟨1, e⟩

/-- The decimal with the one digit 1 is a power of ten. -/
theorem value_power (e : Int) : (power e).value = 10 ^ e := by rw [value, power, Nat.cast_one, one_mul]

/-- A power of ten has one digit. -/
theorem size_power (e : Int) : (power e).size = 1 := length_digitsOf_eq (n := 1) (k := 0) (by decide) (by decide)

omit hm in
include h in
/-- A decimal chosen for a double rounds to it. -/
theorem ChosenFor.rounds (hd : d.ChosenFor (.finite false m s)) : Rounds m s d.value :=
  (toBinary64_eq_finite_iff _ h).mp hd.readsBack

/-- With as many digits and a smaller exponent, a power of ten is between the two. -/
theorem power_between (hdigits : 0 < c.digits) (hsize : d.size = c.size) (hexponent : d.exponent < c.exponent) :
    d.value < (power (d.size + d.exponent)).value ∧ (power (d.size + d.exponent)).value ≤ c.value := by
  rw [value_power]
  refine ⟨d.value_lt, ?_⟩
  calc (10 : ℚ) ^ (d.size + d.exponent : Int) ≤ 10 ^ (c.size - 1 + c.exponent : Int) := ten_zpow_le (by omega)
    _ ≤ c.value := pow_le_value hdigits

/-- With as many digits and the same value, two decimals are the same. -/
theorem eq_of_value_eq (hd : 0 < d.digits) (hc : 0 < c.digits) (hsize : d.size = c.size) (hvalue : d.value = c.value) :
    d = c := by
  have hexponent : d.exponent = c.exponent := by
    rcases lt_trichotomy d.exponent c.exponent with hlt | heq | hgt
    · have hbetween := power_between hc hsize hlt
      linarith
    · exact heq
    · have hbetween := power_between hd hsize.symm hgt
      linarith
  have hdigits : d.digits = c.digits := by
    rw [value, value, hexponent] at hvalue
    exact_mod_cast mul_right_cancel₀ (ten_zpow_pos _).ne' hvalue
  cases d
  cases c
  simp_all

/-- Two numbers that are chosen are as far from the exact value, to either side, and have even digits. -/
theorem ChosenFor.tied (hd : d.ChosenFor (.finite false m s)) (hc : c.ChosenFor (.finite false m s))
    (hlt : d.value < c.value) :
    d.size = c.size ∧ d.value + c.value = 2 * magnitude m s ∧ d.digits % 2 = 0 ∧ c.digits % 2 = 0 := by
  have hsize : d.size = c.size := le_antisymm (hd.fewest c hc.readsBack) (hc.fewest d hd.readsBack)
  have htie : |c.value - magnitude m s| = |d.value - magnitude m s| :=
    le_antisymm (hc.nearest d hd.readsBack hsize) (hd.nearest c hc.readsBack hsize.symm)
  refine ⟨hsize, ?_, hd.even c hc.readsBack hsize.symm hlt.ne' htie, hc.even d hd.readsBack hsize hlt.ne htie.symm⟩
  rcases abs_eq_abs.mp htie with heq | heq <;> linarith

omit hm in
include h in
/-- On one grid, the middle between them would be nearer. -/
theorem ChosenFor.not_lt_of_exponent_eq (hd : d.ChosenFor (.finite false m s)) (hc : c.ChosenFor (.finite false m s))
    (hexponent : d.exponent = c.exponent) : ¬ d.value < c.value := by
  intro hlt
  obtain ⟨hsize, hmiddle, hdeven, hceven⟩ := hd.tied hc hlt
  -- both have even digits, so there is a decimal between them with as many
  have hdigits : d.digits < c.digits := by
    rw [value, value, hexponent] at hlt
    exact_mod_cast lt_of_mul_lt_mul_right hlt (ten_zpow_pos _).le
  have hvalue : (Decimal.mk ((d.digits + c.digits) / 2) c.exponent).value = magnitude m s := by
    have hhalf : 2 * ((d.digits + c.digits) / 2) = d.digits + c.digits := by omega
    have hcast : (2 : ℚ) * ((d.digits + c.digits) / 2 : Nat) = d.digits + c.digits := by exact_mod_cast hhalf
    simp only [value] at hmiddle ⊢
    rw [hexponent] at hmiddle
    linear_combination (10 ^ c.exponent / 2) * hcast + hmiddle / 2
  have hreads : (Decimal.mk ((d.digits + c.digits) / 2) c.exponent).toBinary64 false = .finite false m s := by
    rw [toBinary64_eq_finite_iff _ h, hvalue]
    exact Binary64.rounds_magnitude m s
  have hsize' : (Decimal.mk ((d.digits + c.digits) / 2) c.exponent).size = d.size := by
    have hge : d.size ≤ _ := length_digitsOf_mono (show d.digits ≤ (d.digits + c.digits) / 2 by omega)
    have hle : _ ≤ c.size := length_digitsOf_mono (show (d.digits + c.digits) / 2 ≤ c.digits by omega)
    exact le_antisymm (hle.trans hsize.ge) hge
  have hnear : |d.value - magnitude m s| ≤ |_ - magnitude m s| := hd.nearest _ hreads hsize'
  rw [hvalue, sub_self, abs_zero, abs_nonpos_iff] at hnear
  linarith

include hm h in
/-- Otherwise the power of ten between them would have fewer digits or be nearer, and its digit is odd. -/
theorem ChosenFor.not_lt_of_exponent_lt (hd : d.ChosenFor (.finite false m s)) (hc : c.ChosenFor (.finite false m s))
    (hexponent : d.exponent < c.exponent) : ¬ d.value < c.value := by
  intro hlt
  obtain ⟨hsize, hmiddle, -, hceven⟩ := hd.tied hc hlt
  have hcdigits := digits_pos_of_rounds hm (hc.rounds h)
  obtain ⟨hbelow, habove⟩ := power_between hcdigits hsize hexponent
  have hreads := (toBinary64_eq_finite_iff false h).mpr
    ((hd.rounds h).between (hc.rounds h) hbelow.le habove)
  -- The power of ten between the two reads back as well and has one digit, so both have one digit.
  have hone : c.size = 1 := by
    have hfew := hc.fewest _ hreads
    have hpos := c.size_pos
    rw [size_power] at hfew
    omega
  have hnear : |c.value - magnitude m s| ≤ |(power (d.size + d.exponent)).value - magnitude m s| :=
    hc.nearest _ hreads (by rw [size_power, hone])
  have hsame : (power (d.size + d.exponent)).value = c.value := by
    rw [abs_of_pos (by linarith)] at hnear
    rcases abs_cases ((power (d.size + d.exponent)).value - magnitude m s) with ⟨hcase, -⟩ | ⟨hcase, -⟩ <;> linarith
  have hpower := eq_of_value_eq (d := power (d.size + d.exponent)) one_pos hcdigits (by rw [size_power, hone]) hsame
  -- The larger decimal is that power, whose digit 1 is odd: the tie was not decided for it.
  rw [← hpower] at hceven
  exact absurd (show 1 % 2 = 0 from hceven) (by decide)

include hm h in
/-- Of two decimals chosen for a double neither is below the other. -/
theorem ChosenFor.value_not_lt (hd : d.ChosenFor (.finite false m s)) (hc : c.ChosenFor (.finite false m s)) :
    ¬ d.value < c.value := by
  rcases lt_trichotomy d.exponent c.exponent with hexponent | hexponent | hexponent
  · exact hd.not_lt_of_exponent_lt hm h hc hexponent
  · exact hd.not_lt_of_exponent_eq h hc hexponent
  · intro hlt
    have hsize := (hd.tied hc hlt).1
    have hbetween := power_between (digits_pos_of_rounds hm (hd.rounds h)) hsize.symm hexponent
    linarith

include hm h in
/-- **Only one decimal is chosen.** -/
theorem ChosenFor.eq (hd : d.ChosenFor (.finite false m s)) (hc : c.ChosenFor (.finite false m s)) : d = c := by
  have hsize : d.size = c.size := le_antisymm (hd.fewest c hc.readsBack) (hc.fewest d hd.readsBack)
  exact eq_of_value_eq (digits_pos_of_rounds hm (hd.rounds h)) (digits_pos_of_rounds hm (hc.rounds h)) hsize
    (le_antisymm (not_lt.mp (hc.value_not_lt hm h hd)) (not_lt.mp (hd.value_not_lt hm h hc)))

/-! ## Powers of ten and whole numbers -/

/-- The first digit of a decimal is at the greatest power of ten that is not above it. -/
theorem pow_le_value_iff {j : Int} (hdigits : 0 < d.digits) : 10 ^ j ≤ d.value ↔ j ≤ d.size - 1 + d.exponent := by
  constructor
  · intro hle
    by_contra hlt
    have hhigh : d.value < 10 ^ j := d.value_lt.trans_le (ten_zpow_le (by omega))
    linarith
  · intro hle
    exact (ten_zpow_le hle).trans (pow_le_value hdigits)

omit hm in
include h in
/-- A power of ten that is not above the double is not above its decimal: it would have one digit and be nearer. -/
theorem ChosenFor.pow_le (hd : d.ChosenFor (.finite false m s)) {j : Int} (hle : 10 ^ j ≤ magnitude m s) :
    10 ^ j ≤ d.value := by
  by_contra hlt
  rw [← value_power] at hle hlt
  have hreads := (toBinary64_eq_finite_iff false h).mpr
    ((hd.rounds h).between (Binary64.rounds_magnitude m s) (not_le.mp hlt).le hle)
  have hone : (power j).size = d.size := by
    have hfew := hd.fewest _ hreads
    have hpos := d.size_pos
    rw [size_power] at hfew ⊢
    omega
  have hnear : |d.value - magnitude m s| ≤ |(power j).value - magnitude m s| := hd.nearest _ hreads hone
  rw [abs_of_nonpos (by linarith), abs_of_nonpos (by linarith)] at hnear
  linarith

omit hm in
include h in
/-- A power of ten above the double is above its decimal, unless it rounds to the double. -/
theorem ChosenFor.lt_pow (hd : d.ChosenFor (.finite false m s)) {j : Int} (hlt : magnitude m s < 10 ^ j)
    (hrounds : ¬ Rounds m s (10 ^ j)) : d.value < 10 ^ j := by
  by_contra hle
  exact hrounds ((Binary64.rounds_magnitude m s).between (hd.rounds h) hlt.le (not_lt.mp hle))

omit hm in
include h in
/-- Where the double that a power of ten rounds to is not below the power, the two are on the same side of it. -/
theorem ChosenFor.pow_le_iff (hd : d.ChosenFor (.finite false m s)) {j : Int} {a b : Nat} (hab : Regular a b)
    (hrounds : Rounds a b (10 ^ j)) (hle : 10 ^ j ≤ magnitude a b) : 10 ^ j ≤ d.value ↔ 10 ^ j ≤ magnitude m s := by
  refine ⟨fun hvalue => ?_, hd.pow_le h⟩
  by_contra hlt
  have hself := (Binary64.rounds_magnitude m s).between (hd.rounds h) (not_le.mp hlt).le hvalue
  obtain ⟨rfl, rfl⟩ := hself.unique hrounds h hab
  exact hlt hle

/-- A negative power of ten rounds to the first double from it on, if it is less than the quarters below: told in steps
of that double, of which there are `2ᶜ` in one. -/
theorem rounds_ten_zpow {a b c k : Nat} (hsteps : 1074 = b + c) (hhigh : 2 ^ c ≤ a * 10 ^ k)
    (hlow : (4 * a - quartersBelow a b) * 10 ^ k < 4 * 2 ^ c) :
    Rounds a b (10 ^ (-k : Int)) ∧ 10 ^ (-k : Int) ≤ magnitude a b := by
  -- as ratios of natural numbers, the two bounds are the two hypotheses
  have hunits : unitsPerOne = 2 ^ b * 2 ^ c := by rw [unitsPerOne, Binary64.pow_by_parts 2 hsteps]
  have hfour : 0 < 4 * unitsPerOne := Nat.mul_pos four_pos Binary64.unitsPerOne_pos
  have hpow : (10 : ℚ) ^ (-k : Int) = (1 : Nat) / (10 ^ k : Nat) := by
    rw [zpow_neg, ten_zpow_natCast, ← one_div, Nat.cast_one]
  have hle : 10 ^ (-k : Int) ≤ magnitude a b := by
    rw [hpow, magnitude, Binary64.ratio_le_ratio_iff (ten_pow_pos k) Binary64.unitsPerOne_pos, hunits]
    calc 1 * (2 ^ b * 2 ^ c) = 2 ^ b * 2 ^ c := one_mul _
      _ ≤ 2 ^ b * (a * 10 ^ k) := Nat.mul_le_mul_left _ hhigh
      _ = a * 2 ^ b * 10 ^ k := by ring
  have hlt : lowest a b < 10 ^ (-k : Int) := by
    rw [hpow, ← not_le, lowest, Binary64.ratio_le_ratio_iff (ten_pow_pos k) hfour, hunits, not_le]
    calc (4 * a - quartersBelow a b) * 2 ^ b * 10 ^ k = 2 ^ b * ((4 * a - quartersBelow a b) * 10 ^ k) := by ring
      _ < 2 ^ b * (4 * 2 ^ c) := Nat.mul_lt_mul_of_pos_left hlow (Nat.two_pow_pos b)
      _ = 1 * (4 * (2 ^ b * 2 ^ c)) := by ring
  have hgt : 10 ^ (-k : Int) < highest a b := by
    rw [Binary64.highest_eq]
    have := Binary64.step_pos b
    linarith
  exact ⟨⟨hlt.le, hgt.le, fun _ => ⟨hlt.ne, hgt.ne⟩⟩, hle⟩

include hm h in
/-- The decimal is whole exactly if the double is: all its digits would be fewer than those of a fraction. -/
theorem ChosenFor.exponent_nonneg_iff (hd : d.ChosenFor (.finite false m s)) :
    0 ≤ d.exponent ↔ ∃ k : Nat, magnitude m s = k := by
  have hround := hd.rounds h
  constructor
  · intro hexponent
    rw [value_of_nonneg hexponent] at hround
    exact hround.whole
  -- A whole double is read back from its own digits, so the chosen decimal has no more digits than that, and a
  -- negative exponent would need more.
  · rintro ⟨k, hk⟩
    by_contra hexponent
    have hvalue : (Decimal.mk k 0).value = magnitude m s := by rw [hk, value, zpow_zero, mul_one]
    have hreads : (Decimal.mk k 0).toBinary64 false = .finite false m s := by
      rw [toBinary64_eq_finite_iff _ h, hvalue]
      exact Binary64.rounds_magnitude m s
    have hpos : 0 < k := digits_pos_of_rounds hm ((toBinary64_eq_finite_iff _ h).mp hreads)
    have hfew := hd.fewest _ hreads
    have hlow := pow_le_value (d := ⟨k, 0⟩) hpos
    rw [hvalue] at hlow
    have hsmall := (pow_le_value_iff (digits_pos_of_rounds hm hround)).mp (hd.pow_le h hlow)
    simp only [] at hsmall
    omega

include h in
/-- A decimal that is the double itself is chosen if none with fewer digits is read back. -/
theorem chosenFor_of_value_eq (hvalue : d.value = magnitude m s)
    (hfewest : ∀ c : Decimal, Rounds m s c.value → d.size ≤ c.size) : d.ChosenFor (.finite false m s) := by
  have hself : (Binary64.finite false m s).toRat = d.value := hvalue.symm
  refine ⟨?_, fun c hc => hfewest c ((toBinary64_eq_finite_iff _ h).mp hc), ?_, ?_⟩
  · rw [toBinary64_eq_finite_iff _ h, hvalue]
    exact Binary64.rounds_magnitude m s
  · intro c _ _
    rw [hself, sub_self, abs_zero]
    exact abs_nonneg _
  · intro c _ _ hne htie
    rw [hself, sub_self, abs_zero, abs_eq_zero, sub_eq_zero] at htie
    exact absurd htie hne

end Chosen

end Decimal
end Questionnaire
