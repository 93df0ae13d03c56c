import Questionnaire.Proofs.NearestDoubles

/-!
# Doubles that are doubled

A double that is doubled again and again stays a double while it is not too large: its shift grows once the leading bit
is set, and its significand before that. So a small enough multiple by a power of two is exact, and of a larger one it
is still known that it is large.

* `Binary64.Regular.exists_doubled`: the significand and the shift of a multiple.
* `Binary64.gtRatio_four_iff`: when a double is above four.
* `Binary64.scaleBy_cases`: a multiple is exact, or both it and what it is rounded to are above four.
-/

namespace Questionnaire

namespace Binary64

/-- Scaling the significand by a power of two scales the magnitude. -/
theorem magnitude_scaled (m s k : Nat) :
    ((m * 2 ^ s * 2 ^ k : Nat) / (unitsPerOne : Nat) : ℚ) = magnitude m s * 2 ^ k := by
  rw [magnitude, div_mul_eq_mul_div]
  push_cast
  rfl

/-- A double that is doubled is a double, as long as there is room for the shift. -/
theorem Regular.exists_doubled {m s : Nat} (h : Regular m s) {k : Nat} (hk : s + k ≤ 2045) :
    ∃ m' s', Regular m' s' ∧ s' ≤ s + k ∧ m' * 2 ^ s' = m * 2 ^ s * 2 ^ k := by
  induction k with
  | zero => exact ⟨m, s, h, Nat.le_refl _, by simp⟩
  | succ k ih =>
    rcases ih (by omega) with ⟨m', s', hregular, hshift, hvalue⟩
    by_cases hleading : 2 ^ 52 ≤ m'
    · -- the leading bit is set, and the shift grows
      refine ⟨m', s' + 1, ⟨hregular.lt, .inr hleading, by omega⟩, by omega, ?_⟩
      rw [Nat.pow_succ, Nat.pow_succ, ← Nat.mul_assoc, ← Nat.mul_assoc, hvalue]
    · -- there is no shift yet, and the significand has room for a bit more
      have hzero : s' = 0 := hregular.leading.resolve_right hleading
      subst hzero
      refine ⟨m' * 2, 0, ⟨by omega, .inl rfl, Nat.zero_le _⟩, Nat.zero_le _, ?_⟩
      rw [Nat.pow_succ, ← Nat.mul_assoc, ← hvalue]
      ring

/-- A multiple is exact if there is room for the shift. -/
theorem scaleBy_eq_finite (negative : Bool) {m s k : Nat} (h : Regular m s) (hk : s + k ≤ 2045) :
    ∃ m' s', Regular m' s' ∧ (Binary64.finite negative m s).scaleBy k = .finite negative m' s' ∧
      magnitude m' s' = magnitude m s * 2 ^ k := by
  rcases h.exists_doubled hk with ⟨m', s', hregular, -, hvalue⟩
  have hmagnitude : ((m * 2 ^ s * 2 ^ k : Nat) / (unitsPerOne : Nat) : ℚ) = magnitude m' s' := by
    rw [magnitude, hvalue]
  refine ⟨m', s', hregular, ?_, ?_⟩
  · rw [scaleBy, ofRatio_eq_finite_iff negative unitsPerOne_pos hregular, hmagnitude]
    exact rounds_magnitude m' s'
  · rw [← hmagnitude, magnitude_scaled]

/-- A finite double is above four if its exact value is. -/
theorem gtRatio_four_iff {x : Binary64} (h : x.isFinite = true) : x.gtRatio 4 1 = true ↔ 4 < x.toRat := by
  cases x with
  | nan => cases h
  | infinite => cases h
  | finite negative m s =>
    cases negative with
    | true =>
      have hnonneg := magnitude_nonneg m s
      have hbelow : ¬ 4 < (Binary64.finite true m s).toRat := by
        rw [toRat]
        linarith
      exact iff_of_false Bool.false_ne_true hbelow
    | false =>
      have hunits : (0 : ℚ) < (unitsPerOne : Nat) := Nat.cast_pos.mpr unitsPerOne_pos
      rw [gtRatio, decide_eq_true_eq, toRat, magnitude, lt_div_iff₀ hunits, Nat.mul_one]
      exact_mod_cast Iff.rfl

/-- Packing gives a finite double or the infinity of its sign. -/
theorem pack_cases (negative : Bool) (significand shift : Nat) :
    (∃ m s, pack negative significand shift = .finite negative m s) ∨
      pack negative significand shift = .infinite negative := by
  unfold pack
  by_cases h : (if significand = 2 ^ 53 then shift + 1 else shift) ≤ 2045
  · exact .inl ⟨_, _, if_pos h⟩
  · exact .inr (if_neg h)

/-- A ratio is rounded to a finite double or is too large, and keeps its sign. -/
theorem ofRatio_cases (negative : Bool) (num den : Nat) :
    (∃ m s, ofRatio negative num den = .finite negative m s) ∨ ofRatio negative num den = .infinite negative := by
  rw [ofRatio]
  exact pack_cases _ _ _

/-- What is rounded to a double of at most four is at most six. -/
theorem Rounds.le_six {m s : Nat} {v : ℚ} (h : Rounds m s v) (hregular : Regular m s) (hle : magnitude m s ≤ 4) :
    v ≤ 6 := by
  have hstep : step s ≤ 4 := by
    rcases Nat.eq_zero_or_pos m with rfl | hm
    · -- there is no shift without a leading bit
      have hzero : s = 0 := hregular.leading.resolve_right (by decide)
      have hone : step 1074 = 1 := by simpa using step_of_ge (Nat.le_refl 1074)
      have hmono : step s ≤ step 1074 := step_mono (by omega)
      linarith
    · have hone : (1 : ℚ) ≤ m := by exact_mod_cast hm
      have hscaled := mul_le_mul_of_nonneg_right hone (step_pos s).le
      rw [one_mul, ← magnitude_eq] at hscaled
      linarith
  have hhigh := h.high
  rw [highest_eq] at hhigh
  linarith

/-- What is above six is rounded to something above four. -/
theorem gtRatio_four_of_six_lt {num den : Nat} (hden : 0 < den) (h : 6 < (num / den : ℚ)) :
    (ofRatio false num den).gtRatio 4 1 = true := by
  rcases ofRatio_cases false num den with ⟨m, s, hfinite⟩ | hinfinite
  · have hproper := ofRatio_proper false num hden
    rw [hfinite] at hproper
    have hrounds := (ofRatio_eq_finite_iff false hden hproper).mp hfinite
    rw [hfinite, gtRatio_four_iff rfl]
    by_contra hsmall
    exact absurd (hrounds.le_six hproper (not_lt.mp hsmall)) (not_le.mpr h)
  · rw [hinfinite]
    rfl

/-- Without room for the shift a multiple is huge. -/
theorem six_lt_of_no_room {m s k : Nat} (h : Regular m s) (hk : k ≤ 1023) (hroom : 2045 < s + k) :
    6 < magnitude m s * 2 ^ k := by
  have hleading : 2 ^ 52 ≤ m := h.leading.resolve_left (by omega)
  have hm : (2 ^ 52 : ℚ) ≤ m := by exact_mod_cast hleading
  have hscaled : step s * 2 ^ k = step (s + k) := by
    unfold step
    rw [div_mul_eq_mul_div, Nat.pow_add]
    push_cast
    rfl
  have hone : 1 ≤ step (s + k) := by
    rw [step_of_ge (by omega)]
    exact_mod_cast Nat.one_le_two_pow
  calc (6 : ℚ) < 2 ^ 52 * 1 := by norm_num
    _ ≤ m * step (s + k) := mul_le_mul hm hone zero_le_one (Nat.cast_nonneg m)
    _ = magnitude m s * 2 ^ k := by rw [magnitude_eq, mul_assoc, hscaled]

/-- A multiple by a power of two is exact, or both it and what it is rounded to are above four. -/
theorem scaleBy_cases {x : Binary64} (hfinite : x.isFinite = true) (hproper : x.Proper) (hx : 0 ≤ x.toRat) {k : Nat}
    (hk : k ≤ 1023) :
    (x.scaleBy k).isFinite = true ∧ (x.scaleBy k).Proper ∧ (x.scaleBy k).toRat = x.toRat * 2 ^ k ∨
      4 < x.toRat * 2 ^ k ∧ (x.scaleBy k).gtRatio 4 1 = true := by
  cases x with
  | nan => cases hfinite
  | infinite => cases hfinite
  | finite negative m s =>
    rcases Nat.lt_or_ge 2045 (s + k) with hroom | hroom
    · right
      have hlarge := six_lt_of_no_room hproper hk hroom
      cases negative with
      | true =>
        -- what is below zero is not at least zero
        exfalso
        rw [toRat] at hx
        have hsmall : magnitude m s * 2 ^ k ≤ 0 := mul_nonpos_of_nonpos_of_nonneg (by linarith) (by positivity)
        linarith
      | false =>
        rw [toRat, scaleBy]
        constructor
        · linarith
        · rw [← magnitude_scaled] at hlarge
          exact gtRatio_four_of_six_lt unitsPerOne_pos hlarge
    · left
      rcases scaleBy_eq_finite negative hproper hroom with ⟨m', s', hregular, hscaled, hvalue⟩
      rw [hscaled]
      refine ⟨rfl, hregular, ?_⟩
      cases negative with
      | true => rw [toRat, toRat, hvalue, neg_mul]
      | false => rw [toRat, toRat, hvalue]

end Binary64
end Questionnaire
