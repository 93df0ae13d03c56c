import Mathlib.Algebra.Order.Field.Rat
import Mathlib.Tactic.Ring
import Questionnaire.Proofs.HugeIntegers

/-!
# Ratios rounded to doubles

A double has the ratios between the middles to its neighbours, and a middle itself goes to the double with the even
significand. Below the first double of a binade the steps are half as wide, and so the middle is only a quarter of a
step away.

* `Binary64.Proper`: the doubles that there are; `Binary64.toRat` is the exact value of one.
* `Binary64.Rounds`: the values between the middles.
* `Binary64.ofRatio_eq_finite_iff`: a ratio is rounded to a double exactly if it is one of these.
* `Binary64.ofRatio_proper`: whatever it is rounded to, it is one of the doubles that there are.
-/

namespace Questionnaire

namespace Binary64

/-! ## Rounding a ratio to a whole number -/

/-- A ratio is rounded to a whole number exactly from the middle below it to the middle above it, the middles included
if the number is even. -/
theorem roundDiv_eq_iff {num den k : Nat} (hden : 0 < den) :
    roundDiv num den = k ↔
      (2 * k - 1) * den ≤ 2 * num ∧ 2 * num ≤ (2 * k + 1) * den ∧
        (k % 2 = 1 → (2 * k - 1) * den ≠ 2 * num ∧ 2 * num ≠ (2 * k + 1) * den) := by
  have hnum := Nat.div_add_mod num den
  have hrest := Nat.mod_lt num hden
  have hup : (2 * k + 1) * den = 2 * (den * k) + den := by ring
  have hlow : k = 0 ∧ (2 * k - 1) * den = 0 ∨ 0 < k ∧ (2 * k - 1) * den + den = 2 * (den * k) := by
    rcases Nat.eq_zero_or_pos k with rfl | hk
    · exact .inl ⟨rfl, by simp⟩
    · right
      refine ⟨hk, ?_⟩
      rw [← Nat.succ_mul, Nat.mul_left_comm, Nat.mul_comm den]
      congr 2
      omega
  simp only [roundDiv]
  generalize num / den = floor at *
  generalize num % den = rest at *
  rw [hup]
  generalize (2 * k - 1) * den = low at *
  -- the floor is above the number, the number itself, or below it
  rcases Nat.lt_trichotomy k floor with h | rfl | h
  · obtain ⟨j, rfl⟩ := Nat.exists_eq_add_of_lt h
    have hfloor : den * (k + j + 1) = den * k + den * j + den := by ring
    split_ifs <;> omega
  · split_ifs <;> omega
  · obtain ⟨j, rfl⟩ := Nat.exists_eq_add_of_lt h
    have hk : den * (floor + j + 1) = den * floor + den * j + den := by ring
    rcases Nat.eq_zero_or_pos j with rfl | hj
    · split_ifs <;> omega
    · have hbeyond : den ≤ den * j := Nat.le_mul_of_pos_right den hj
      split_ifs <;> omega

/-- What is reached is not rounded below. -/
theorem le_roundDiv {num den k : Nat} (h : k * den ≤ num) (hden : 0 < den) : k ≤ roundDiv num den := by
  have hfloor : k ≤ num / den := (Nat.le_div_iff_mul_le hden).mpr h
  simp only [roundDiv]
  split_ifs <;> omega

/-- What is not reached is not rounded beyond. -/
theorem roundDiv_le {num den k : Nat} (h : num < k * den) : roundDiv num den ≤ k := by
  have hden : 0 < den := Nat.pos_of_mul_pos_left (Nat.zero_lt_of_lt h)
  have hfloor : num / den < k := (Nat.div_lt_iff_lt_mul hden).mpr h
  simp only [roundDiv]
  split_ifs <;> omega

/-! ## Significands and shifts -/

/-- A significand and a shift that a double has: the leading bit is set if there is a shift. -/
structure Regular (m s : Nat) : Prop where
  lt : m < 2 ^ 53
  leading : s = 0 ∨ 2 ^ 52 ≤ m
  bounded : s ≤ 2045

/-- The doubles that there are. -/
def Proper : Binary64 → Prop
  | .finite _ m s => Regular m s
  | _ => True

/-- How many quarters of a step it is to the middle below a double: but one where the steps get wider. -/
def quartersBelow (m s : Nat) : Nat := if m = 2 ^ 52 ∧ s ≠ 0 then 1 else 2

/-- Two quarters of a step stand below a double, or one where the steps change. -/
theorem quartersBelow_cases (m s : Nat) :
    quartersBelow m s = 2 ∧ ¬ (m = 2 ^ 52 ∧ s ≠ 0) ∨ quartersBelow m s = 1 ∧ m = 2 ^ 52 ∧ s ≠ 0 := by
  unfold quartersBelow
  split <;> rename_i h
  · exact .inr ⟨rfl, h⟩
  · exact .inl ⟨rfl, h⟩

theorem quartersBelow_pos (m s : Nat) : 0 < quartersBelow m s := by
  rcases quartersBelow_cases m s with ⟨h, -⟩ | ⟨h, -⟩ <;> omega

theorem quartersBelow_le (m s : Nat) : quartersBelow m s ≤ 2 := by
  rcases quartersBelow_cases m s with ⟨h, -⟩ | ⟨h, -⟩ <;> omega

/-- The next greater double is a whole step away. -/
theorem Regular.step_le {m s m' s' : Nat} (h : Regular m s) (h' : Regular m' s') (hlt : m * 2 ^ s < m' * 2 ^ s') :
    (m + 1) * 2 ^ s ≤ m' * 2 ^ s' := by
  -- with at least the same shift, the next double is a multiple of the step
  rcases Nat.le_total s s' with hs | hs
  · obtain ⟨j, rfl⟩ := Nat.exists_eq_add_of_le hs
    have hsplit : m' * 2 ^ (s + j) = m' * 2 ^ j * 2 ^ s := by
      rw [Nat.pow_add]
      ring
    rw [hsplit] at hlt ⊢
    exact Nat.mul_le_mul_right _ (Nat.lt_of_mul_lt_mul_right hlt)
  · obtain ⟨j, rfl⟩ := Nat.exists_eq_add_of_le hs
    rcases Nat.eq_zero_or_pos j with rfl | hj
    · exact Nat.mul_le_mul_right _ (Nat.lt_of_mul_lt_mul_right hlt)
    · -- with a greater shift, the significand cannot make the magnitude smaller
      exfalso
      have hm : 2 ^ 52 ≤ m := by
        have := h.leading
        omega
      have htwo : 2 ≤ 2 ^ j := Nat.le_self_pow (by omega) 2
      have hle : m' * 2 ^ s' ≤ m * 2 ^ (s' + j) := calc
        m' * 2 ^ s' ≤ (2 ^ 52 * 2) * 2 ^ s' := Nat.mul_le_mul_right _ h'.lt.le
        _ ≤ (m * 2 ^ j) * 2 ^ s' := Nat.mul_le_mul_right _ (Nat.mul_le_mul hm htwo)
        _ = m * 2 ^ (s' + j) := by
          rw [Nat.pow_add]
          ring
      omega

/-- The next smaller double is a whole step away too, or half a step below the first of a binade. -/
theorem Regular.quarters_le {m s m' s' : Nat} (h : Regular m s) (h' : Regular m' s')
    (hlt : m' * 2 ^ s' < m * 2 ^ s) : 2 * (m' * 2 ^ s') + quartersBelow m s * 2 ^ s ≤ 2 * (m * 2 ^ s) := by
  -- a smaller exponent below, where all significands are less than the first of this exponent, or no smaller one
  rcases Nat.lt_or_ge s' s with hs | hs
  · obtain ⟨j, rfl⟩ := Nat.exists_eq_add_of_lt hs
    have hm : 2 ^ 52 ≤ m := by
      have := h.leading
      omega
    have hstep : 2 ^ (s' + j + 1) = 2 * (2 ^ j * 2 ^ s') := by ring
    have hwide : 2 ^ s' ≤ 2 ^ j * 2 ^ s' := Nat.le_mul_of_pos_left _ (Nat.two_pow_pos j)
    have hsmall : m' * 2 ^ s' ≤ (2 ^ 53 - 1) * 2 ^ s' := Nat.mul_le_mul_right _ (Nat.le_sub_one_of_lt h'.lt)
    rw [hstep]
    rcases quartersBelow_cases m (s' + j + 1) with ⟨hquarters, hlater⟩ | ⟨hquarters, rfl, -⟩ <;> rw [hquarters]
    · have hlarge : (2 ^ 52 + 1) * (2 * (2 ^ j * 2 ^ s')) ≤ m * (2 * (2 ^ j * 2 ^ s')) :=
        Nat.mul_le_mul_right _ (by omega)
      omega
    · omega
  · have hstep := h'.step_le h hlt
    rw [Nat.succ_mul] at hstep
    have hwide : 2 ^ s ≤ 2 ^ s' := Nat.pow_le_pow_right (by omega) hs
    have hquarters := Nat.mul_le_mul_right (2 ^ s) (quartersBelow_le m s)
    omega

/-! ## The values that round to a double -/

section Ratios

variable {a b c d : Nat}

/-- Ratios are compared across. -/
theorem ratio_le_ratio_iff (hb : 0 < b) (hd : 0 < d) : (a / b : ℚ) ≤ c / d ↔ a * d ≤ c * b := by
  rw [div_le_div_iff₀ (Nat.cast_pos.mpr hb) (Nat.cast_pos.mpr hd)]
  exact_mod_cast Iff.rfl

/-- So is whether they are equal. -/
theorem ratio_eq_ratio_iff (hb : 0 < b) (hd : 0 < d) : (a / b : ℚ) = c / d ↔ a * d = c * b := by
  rw [div_eq_div_iff (Nat.cast_pos.mpr hb).ne' (Nat.cast_pos.mpr hd).ne']
  exact_mod_cast Iff.rfl

end Ratios

/-- The exact value of a significand and a shift. -/
def magnitude (m s : Nat) : ℚ := (m * 2 ^ s : Nat) / (unitsPerOne : Nat)

/-- The exact value of a finite double. -/
def toRat : Binary64 → ℚ
  | .finite true m s => -magnitude m s
  | .finite false m s => magnitude m s
  | _ => 0

/-- The middle to the double below, zero for zero. -/
def lowest (m s : Nat) : ℚ := ((4 * m - quartersBelow m s) * 2 ^ s : Nat) / (4 * unitsPerOne : Nat)

/-- The middle to the double above. -/
def highest (m s : Nat) : ℚ := ((4 * m + 2) * 2 ^ s : Nat) / (4 * unitsPerOne : Nat)

/-- Does a magnitude round to the double: is it between the middles, and at none of them if the significand is odd? -/
structure Rounds (m s : Nat) (v : ℚ) : Prop where
  low : lowest m s ≤ v
  high : v ≤ highest m s
  odd : m % 2 = 1 → lowest m s ≠ v ∧ v ≠ highest m s

/-- What lies between two values that round to a double does so too. -/
theorem Rounds.between {m s : Nat} {a b v : ℚ} (ha : Rounds m s a) (hb : Rounds m s b) (hav : a ≤ v) (hvb : v ≤ b) :
    Rounds m s v := by
  refine ⟨ha.low.trans hav, hvb.trans hb.high, fun hodd => ⟨?_, ?_⟩⟩
  · exact (((ha.low.lt_of_ne (ha.odd hodd).1).trans_le hav)).ne
  · exact ((hvb.trans_lt (hb.high.lt_of_ne (hb.odd hodd).2))).ne

/-- For a ratio these are comparisons of whole numbers. -/
theorem rounds_ratio_iff {m s num den : Nat} (hden : 0 < den) :
    Rounds m s (num / den : ℚ) ↔
      (4 * m - quartersBelow m s) * 2 ^ s * den ≤ num * (4 * unitsPerOne) ∧
      num * (4 * unitsPerOne) ≤ (4 * m + 2) * 2 ^ s * den ∧
      (m % 2 = 1 →
        (4 * m - quartersBelow m s) * 2 ^ s * den ≠ num * (4 * unitsPerOne) ∧
        num * (4 * unitsPerOne) ≠ (4 * m + 2) * 2 ^ s * den) := by
  have hunits : 0 < 4 * unitsPerOne := Nat.mul_pos four_pos unitsPerOne_pos
  rw [← ratio_le_ratio_iff hunits hden, ← ratio_le_ratio_iff hden hunits, ne_eq, ne_eq,
    ← ratio_eq_ratio_iff hunits hden, ← ratio_eq_ratio_iff hden hunits]
  exact ⟨fun h => ⟨h.low, h.high, h.odd⟩, fun ⟨hlow, hhigh, hodd⟩ => ⟨hlow, hhigh, hodd⟩⟩

/-! ## Rounding a ratio to a double -/

/-- The shift of a ratio leaves a significand of 53 bits, or it is zero. -/
theorem shift_eq_iff (num : Nat) {den t : Nat} (hden : 0 < den) :
    (num / den).log2 - 52 = t ↔ num < 2 ^ 53 * (2 ^ t * den) ∧ (t = 0 ∨ 2 ^ 52 * (2 ^ t * den) ≤ num) := by
  have hlow (k : Nat) : 2 ^ 52 * (2 ^ k * den) ≤ num ↔ 2 ^ (52 + k) ≤ num / den := by
    rw [Nat.le_div_iff_mul_le hden, Nat.pow_add, Nat.mul_assoc]
  have hhigh (k : Nat) : num < 2 ^ 53 * (2 ^ k * den) ↔ num / den < 2 ^ (53 + k) := by
    rw [Nat.div_lt_iff_lt_mul hden, Nat.pow_add, Nat.mul_assoc]
  rw [hlow, hhigh]
  rcases Nat.eq_zero_or_pos (num / den) with hzero | hpos
  · have hnone : ¬ 2 ^ (52 + t) ≤ 0 := by simp
    have hsome : 0 < 2 ^ (53 + t) := Nat.two_pow_pos _
    simp only [hzero, Nat.log2_zero, hnone, hsome, or_false, true_and]
    omega
  · have hne := Nat.pos_iff_ne_zero.mp hpos
    rw [← Nat.log2_lt hne, ← Nat.le_log2 hne]
    omega

/-- A significand is packed as it is, or carried over to the next exponent. -/
theorem pack_eq_finite_iff {negative sign : Bool} {significand shift m s : Nat} :
    pack negative significand shift = .finite sign m s ↔
      sign = negative ∧ s ≤ 2045 ∧
        (significand ≠ 2 ^ 53 ∧ significand = m ∧ shift = s ∨ significand = 2 ^ 53 ∧ m = 2 ^ 52 ∧ s = shift + 1) := by
  unfold pack
  by_cases hcarried : significand = 2 ^ 53
  · simp only [hcarried, if_true]
    split <;> grind
  · simp only [hcarried, if_false]
    split <;> grind

/-- Rounding to a whole number, told by quarters. Above a number it makes no difference where the middle below is. -/
theorem roundDiv_eq_iff_quarters {num den m : Nat} (quarters : Nat) (hden : 0 < den)
    (h : quarters = 2 ∨ quarters = 1 ∧ m % 2 = 0 ∧ m * den ≤ num) :
    roundDiv num den = m ↔
      (4 * m - quarters) * den ≤ 4 * num ∧ 4 * num ≤ (4 * m + 2) * den ∧
        (m % 2 = 1 → (4 * m - quarters) * den ≠ 4 * num ∧ 4 * num ≠ (4 * m + 2) * den) := by
  have hlow : (4 * m - 2) * den = 2 * ((2 * m - 1) * den) := by
    rw [← Nat.mul_assoc]
    congr 1
    omega
  have hhigh : (4 * m + 2) * den = 2 * ((2 * m + 1) * den) := by ring
  rw [roundDiv_eq_iff hden, hhigh]
  -- below an even number that is reached, a quarter and a half leave out the same
  rcases h with rfl | ⟨rfl, heven, habove⟩
  · rw [hlow]
    omega
  · have hbelow : (4 * m - 1) * den ≤ 4 * (m * den) := by
      rw [← Nat.mul_assoc]
      exact Nat.mul_le_mul_right den (Nat.sub_le _ _)
    have hbelow' : (2 * m - 1) * den ≤ 2 * (m * den) := by
      rw [← Nat.mul_assoc]
      exact Nat.mul_le_mul_right den (Nat.sub_le _ _)
    omega

/-- What rounds to a double, but for the first of a binade, has its shift. -/
theorem shift_of_quarters {U m s den : Nat} (h : Regular m s) (hden : 0 < den)
    (habove : m = 2 ^ 52 → s ≠ 0 → 2 ^ 52 * (2 ^ s * den) ≤ U)
    (hlow : (4 * m - 2) * (2 ^ s * den) ≤ 4 * U) (hhigh : 4 * U ≤ (4 * m + 2) * (2 ^ s * den)) :
    (U / den).log2 - 52 = s := by
  obtain ⟨hlt, hleading, -⟩ := h
  have hstep : 0 < 2 ^ s * den := Nat.mul_pos (Nat.two_pow_pos s) hden
  rw [shift_eq_iff U hden]
  generalize 2 ^ s * den = step at *
  have htop : (4 * m + 2) * step ≤ (2 ^ 55 - 2) * step := Nat.mul_le_mul_right step (by omega)
  refine ⟨by omega, ?_⟩
  rcases hleading with hzero | hm
  · exact .inl hzero
  · by_cases hfirst : m = 2 ^ 52
    · by_cases hs : s = 0
      · exact .inl hs
      · exact .inr (habove hfirst hs)
    · have hnext : (2 ^ 54 + 2) * step ≤ (4 * m - 2) * step := Nat.mul_le_mul_right step (by omega)
      omega

/-- **A ratio is rounded to a double** exactly if it is between its middles. -/
theorem ofRatio_eq_finite_iff (negative : Bool) {num den m s : Nat} (hden : 0 < den) (h : Regular m s) :
    ofRatio negative num den = .finite negative m s ↔ Rounds m s (num / den : ℚ) := by
  simp only [ofRatio]
  have hscaled : num * (4 * unitsPerOne) = 4 * (num * unitsPerOne) := Nat.mul_left_comm _ _ _
  rw [pack_eq_finite_iff, rounds_ratio_iff hden, hscaled, Nat.mul_assoc _ (2 ^ s), Nat.mul_assoc _ (2 ^ s)]
  generalize num * unitsPerOne = U
  have hshift (t : Nat) := shift_eq_iff U (t := t) hden
  by_cases hcarry : m = 2 ^ 52 ∧ s ≠ 0 ∧ U < 2 ^ 52 * (2 ^ s * den)
  · -- below the first double of its binade, a ratio is rounded in the steps of the binade below
    obtain ⟨rfl, hs, hU⟩ := hcarry
    obtain ⟨t, rfl⟩ := Nat.exists_eq_add_one_of_ne_zero hs
    have hdouble : 2 ^ (t + 1) * den = 2 * (2 ^ t * den) := by ring
    have hquarter : quartersBelow (2 ^ 52) (t + 1) = 1 := by simp [quartersBelow]
    have hround : roundDiv U (2 ^ t * den) = 2 * 2 ^ 52 ↔ (4 * 2 ^ 52 - 1) * (2 ^ t * den) ≤ 2 * U :=
      roundDiv_eq_two_mul_iff (by omega)
    have hsame := hshift t
    have hnext := hshift (t + 1)
    rw [hdouble] at hU hnext ⊢
    rw [hquarter]
    constructor
    · rintro ⟨-, -, ⟨-, -, hs⟩ | ⟨hcarried, -, hs⟩⟩
      · have := hnext.mp hs
        omega
      · obtain rfl : t = (U / den).log2 - 52 := by omega
        rw [Nat.mul_comm den] at hcarried
        have := hround.mp hcarried
        omega
    · intro hmiddles
      have hs := hsame.mpr (by omega)
      rw [hs, Nat.mul_comm den]
      exact ⟨rfl, h.bounded, .inr ⟨hround.mpr (by omega), rfl, rfl⟩⟩
  · -- everywhere else, the double and the ratio have the same step
    have hstep : 0 < 2 ^ s * den := Nat.mul_pos (Nat.two_pow_pos s) hden
    have hround : roundDiv U (2 ^ s * den) = m ↔ _ :=
      roundDiv_eq_iff_quarters (quartersBelow m s) hstep <| by
        rcases quartersBelow_cases m s with ⟨hquarters, -⟩ | ⟨hquarters, rfl, hs⟩
        · exact .inl hquarters
        · exact .inr ⟨hquarters, by decide, by omega⟩
    rw [← hround]
    constructor
    · rintro ⟨-, -, ⟨-, hrounded, hs⟩ | ⟨-, rfl, hs⟩⟩
      · rwa [hs, Nat.mul_comm den] at hrounded
      · exfalso
        have hsmall := ((hshift _).mp rfl).1
        have hdouble : 2 ^ s * den = 2 * (2 ^ ((U / den).log2 - 52) * den) := by
          rw [hs]
          ring
        omega
    · intro hrounded
      have hmiddles := (roundDiv_eq_iff_quarters 2 hstep (.inl rfl)).mp hrounded
      have hs := shift_of_quarters h hden (by omega) hmiddles.1 hmiddles.2.1
      have hm := h.lt
      rw [hs, Nat.mul_comm den]
      exact ⟨rfl, h.bounded, .inl ⟨by omega, hrounded, rfl⟩⟩

/-- An integer is rounded as a ratio to one. -/
theorem ofRatio_one_eq_finite_iff (negative : Bool) {n m s : Nat} (h : Regular m s) :
    ofRatio negative n 1 = .finite negative m s ↔ Rounds m s n := by
  rw [ofRatio_eq_finite_iff negative one_pos h, Nat.cast_one, div_one]

/-- A value rounds to one double alone. -/
theorem Rounds.unique {m s m' s' : Nat} {v : ℚ} (hv : Rounds m s v) (hv' : Rounds m' s' v) (h : Regular m s)
    (h' : Regular m' s') : m = m' ∧ s = s' := by
  have hnonneg : 0 ≤ v := (div_nonneg (Nat.cast_nonneg _) (Nat.cast_nonneg _)).trans hv.low
  have hratio : v = (v.num.toNat : ℚ) / v.den := by
    rw [← Int.cast_natCast, Int.toNat_of_nonneg (Rat.num_nonneg.mpr hnonneg), Rat.num_div_den]
  rw [hratio] at hv hv'
  have hrounded := (ofRatio_eq_finite_iff false v.den_pos h).mpr hv
  rw [(ofRatio_eq_finite_iff false v.den_pos h').mpr hv'] at hrounded
  cases hrounded
  exact ⟨rfl, rfl⟩

/-- What a ratio is rounded to is one of the doubles that there are. -/
theorem ofRatio_proper (negative : Bool) (num : Nat) {den : Nat} (hden : 0 < den) :
    (ofRatio negative num den).Proper := by
  cases hx : ofRatio negative num den with
  | nan => trivial
  | infinite sign => trivial
  | finite sign m s =>
    simp only [ofRatio] at hx
    obtain ⟨-, hbounded, hrounded⟩ := pack_eq_finite_iff.mp hx
    generalize num * unitsPerOne = U at hrounded
    have hshift := (shift_eq_iff U hden).mp rfl
    have hpos : 0 < den * 2 ^ ((U / den).log2 - 52) := Nat.mul_pos hden (Nat.two_pow_pos _)
    rw [Nat.mul_comm _ den] at hshift
    have hle := roundDiv_le hshift.1
    rcases hrounded with ⟨hne, rfl, rfl⟩ | ⟨-, rfl, rfl⟩
    · exact ⟨by omega, hshift.2.imp id fun h => le_roundDiv h hpos, hbounded⟩
    · exact ⟨by omega, .inr (Nat.le_refl _), hbounded⟩

/-- The sign is the one that was given. -/
theorem sign_of_ofRatio {negative sign : Bool} {num den m s : Nat}
    (h : ofRatio negative num den = .finite sign m s) : sign = negative := by
  simp only [ofRatio] at h
  exact (pack_eq_finite_iff.mp h).1

end Binary64
end Questionnaire
