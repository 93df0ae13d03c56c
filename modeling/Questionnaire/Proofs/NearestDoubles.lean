import Mathlib.Algebra.Order.Field.Basic
import Mathlib.Tactic.FieldSimp
import Mathlib.Tactic.Linarith
import Questionnaire.Proofs.RoundedRatios

/-!
# The nearest double

What rounds to a double is nearer to it than to any other, or as near if its significand is even. Doubles of up to 53
bits are apart by at most one, and so a whole number there rounds to itself; from `2⁵³` on they are all whole.

* `Binary64.NearestTo`: the nearest double, of two the even one; `Binary64.Rounds.nearestTo`: what rounds to a double
  is nearest to it.
* `Binary64.ofInt?_nearest`: an integer is rounded to the nearest double.
* `Binary64.Rounds.eq_of_le`, `Binary64.Rounds.whole`: whole numbers and the doubles that they round to.
* `Binary64.rounds_iff_of_lt`, `Binary64.highest_lt`: what is far from all doubles.
-/

namespace Questionnaire

namespace Binary64

/-! ## The nearest double -/

/-- The significand of a finite double. -/
def significand : Binary64 → Nat
  | .finite _ m _ => m
  | _ => 0

/-- A double is nearest to a number if no other is nearer, and its significand is even if another one is as near. -/
structure NearestTo (x : Binary64) (r : ℚ) : Prop where
  finite : x.isFinite = true
  proper : x.Proper
  nearest : ∀ y : Binary64, y.isFinite = true → y.Proper → |x.toRat - r| ≤ |y.toRat - r|
  even : ∀ y : Binary64, y.isFinite = true → y.Proper → y.toRat ≠ x.toRat → |y.toRat - r| = |x.toRat - r| →
    x.significand % 2 = 0

/-- The width of a step at a shift. -/
def step (s : Nat) : ℚ := (2 ^ s : Nat) / (unitsPerOne : Nat)

/-- Between doubles of one exponent there is a gap. -/
theorem step_pos (s : Nat) : 0 < step s :=
  div_pos (Nat.cast_pos.mpr (Nat.two_pow_pos s)) (Nat.cast_pos.mpr unitsPerOne_pos)

/-- The gap grows with the exponent. -/
theorem step_mono {s s' : Nat} (h : s ≤ s') : step s ≤ step s' :=
  div_le_div_of_nonneg_right (Nat.cast_le.mpr (Nat.pow_le_pow_right two_pos h)) (Nat.cast_nonneg _)

/-- A double is a whole number of steps. -/
theorem magnitude_eq (m s : Nat) : magnitude m s = m * step s := by
  unfold magnitude step
  push_cast
  ring

theorem magnitude_nonneg (m s : Nat) : 0 ≤ magnitude m s := by
  rw [magnitude_eq]
  exact mul_nonneg (Nat.cast_nonneg m) (step_pos s).le

/-- The middle above is half a step away. -/
theorem highest_eq (m s : Nat) : highest m s = magnitude m s + step s / 2 := by
  unfold highest magnitude step
  generalize unitsPerOne = units
  push_cast
  field_simp
  ring

/-- The middle below is as many quarters of a step away as stand below. -/
theorem lowest_eq {m s : Nat} (hm : 0 < m) : lowest m s = magnitude m s - quartersBelow m s * step s / 4 := by
  have hquarters : quartersBelow m s ≤ 4 * m := by
    have := quartersBelow_le m s
    omega
  unfold lowest magnitude step
  -- the number of units has no part in this, and unfolded it would be hundreds of digits
  generalize unitsPerOne = units
  push_cast [Nat.cast_sub hquarters]
  field_simp

/-- It is below the double. -/
theorem lowest_lt {m s : Nat} (hm : 0 < m) : lowest m s < magnitude m s := by
  have hquarters : (0 : ℚ) < quartersBelow m s := Nat.cast_pos.mpr (quartersBelow_pos m s)
  have := mul_pos hquarters (step_pos s)
  rw [lowest_eq hm]
  linarith

/-- The middle below is not further away than half a step. -/
theorem sub_half_le_lowest {m s : Nat} (hm : 0 < m) : magnitude m s - step s / 2 ≤ lowest m s := by
  have hquarters : (quartersBelow m s : ℚ) ≤ 2 := by exact_mod_cast quartersBelow_le m s
  have hscaled := mul_le_mul_of_nonneg_right hquarters (step_pos s).le
  rw [lowest_eq hm]
  linarith

/-- It is not below half a step. -/
theorem half_step_le_lowest {m s : Nat} (hm : 0 < m) : step s / 2 ≤ lowest m s := by
  have hone : (1 : ℚ) ≤ m := by exact_mod_cast hm
  have hscaled := mul_le_mul_of_nonneg_right hone (step_pos s).le
  have hlow := sub_half_le_lowest (s := s) hm
  rw [magnitude_eq] at hlow
  linarith

theorem magnitude_zero (s : Nat) : magnitude 0 s = 0 := by rw [magnitude, Nat.zero_mul, Nat.cast_zero, zero_div]

theorem lowest_zero (s : Nat) : lowest 0 s = 0 := by
  rw [lowest, Nat.mul_zero, Nat.zero_sub, Nat.zero_mul, Nat.cast_zero, zero_div]

/-- A double rounds to itself. -/
theorem rounds_magnitude (m s : Nat) : Rounds m s (magnitude m s) := by
  have hhigh : magnitude m s < highest m s := by
    rw [highest_eq]
    have := step_pos s
    linarith
  rcases Nat.eq_zero_or_pos m with rfl | hm
  · refine ⟨?_, hhigh.le, nofun⟩
    rw [lowest_zero, magnitude_zero]
  · have hlow := lowest_lt (s := s) hm
    exact ⟨hlow.le, hhigh.le, fun _ => ⟨hlow.ne, hhigh.ne⟩⟩

/-- What rounds to a double other than zero is not zero. -/
theorem Rounds.pos {m s : Nat} {v : ℚ} (h : Rounds m s v) (hm : 0 < m) : 0 < v :=
  (half_pos (step_pos s)).trans_le ((half_step_le_lowest hm).trans h.low)

/-- Another double is at least as far away as both are from the middle between them. -/
theorem Regular.gap {m s m' s' : Nat} (h : Regular m s) (h' : Regular m' s') (hne : magnitude m' s' ≠ magnitude m s) :
    magnitude m s + step s ≤ magnitude m' s' ∨
      0 < m ∧ 2 * magnitude m' s' + quartersBelow m s * step s ≤ 2 * magnitude m s := by
  have hunits : (0 : ℚ) < (unitsPerOne : Nat) := Nat.cast_pos.mpr unitsPerOne_pos
  have hne' : m' * 2 ^ s' ≠ m * 2 ^ s := by
    intro heq
    rw [magnitude, magnitude, heq] at hne
    exact hne rfl
  -- in units both are whole numbers, between which the gaps are known
  rcases Nat.lt_or_gt_of_ne hne' with hlt | hlt
  · right
    have hle : ((2 * (m' * 2 ^ s') + quartersBelow m s * 2 ^ s : Nat) : ℚ) ≤ (2 * (m * 2 ^ s) : Nat) :=
      Nat.cast_le.mpr (h.quarters_le h' hlt)
    have hscaled := div_le_div_of_nonneg_right hle hunits.le
    refine ⟨Nat.pos_of_mul_pos_right (Nat.zero_lt_of_lt hlt), ?_⟩
    unfold magnitude step
    push_cast at hscaled ⊢
    calc _ = _ := by ring
      _ ≤ _ := hscaled
      _ = _ := by ring
  · left
    have hle : (((m + 1) * 2 ^ s : Nat) : ℚ) ≤ (m' * 2 ^ s' : Nat) := Nat.cast_le.mpr (h.step_le h' hlt)
    have hscaled := div_le_div_of_nonneg_right hle hunits.le
    unfold magnitude step
    push_cast at hscaled ⊢
    calc _ = _ := by ring
      _ ≤ _ := hscaled

/-- What rounds to a double is at least as near to it as to any other, and as near only for an even significand. -/
theorem Rounds.distance_le {m s m' s' : Nat} {v : ℚ} (hv : Rounds m s v) (h : Regular m s) (h' : Regular m' s')
    (hne : magnitude m' s' ≠ magnitude m s) :
    |magnitude m s - v| ≤ |magnitude m' s' - v| ∧
      (|magnitude m' s' - v| = |magnitude m s - v| → m % 2 = 0) := by
  obtain ⟨hlow, hhigh, hodd⟩ := hv
  have hstep := step_pos s
  have hx := abs_cases (magnitude m s - v)
  have hy := abs_cases (magnitude m' s' - v)
  have hparity := Nat.mod_two_eq_zero_or_one m
  rcases h.gap h' hne with habove | ⟨hm, hbelow⟩
  · rw [highest_eq] at hhigh hodd
    generalize magnitude m s = X at *
    generalize magnitude m' s' = Y at *
    grind
  · have hquarters : 0 < quartersBelow m s * step s := mul_pos (Nat.cast_pos.mpr (quartersBelow_pos m s)) hstep
    rw [lowest_eq hm] at hlow hodd
    generalize magnitude m s = X at *
    generalize magnitude m' s' = Y at *
    grind

theorem regular_zero : Regular 0 0 := ⟨by decide, .inl rfl, by decide⟩

/-- The number of a magnitude and a sign. -/
def signed (negative : Bool) (v : ℚ) : ℚ := if negative then -v else v

/-- The number of a finite double is its magnitude with its sign. -/
theorem toRat_finite (negative : Bool) (m s : Nat) :
    (Binary64.finite negative m s).toRat = signed negative (magnitude m s) := by
  cases negative <;> rfl

/-- With one sign, distances are those of the magnitudes. -/
theorem abs_signed_sub_signed (negative : Bool) (a b : ℚ) : |signed negative a - signed negative b| = |a - b| := by
  cases negative
  · rfl
  · simp only [signed, if_true, neg_sub_neg]
    exact abs_sub_comm b a

/-- What has the other sign is on the other side of zero. -/
theorem abs_signed_sub_signed_of_ne {sign negative : Bool} {a b : ℚ} (h : sign ≠ negative) (ha : 0 ≤ a) (hb : 0 ≤ b) :
    |signed sign a - signed negative b| = a + b := by
  cases sign <;> cases negative <;> simp only [ne_eq, not_true_eq_false, reduceCtorEq, not_false_eq_true] at h
  · simp only [signed, if_true, Bool.false_eq_true, if_false, sub_neg_eq_add]
    exact abs_of_nonneg (add_nonneg ha hb)
  · simp only [signed, if_true, Bool.false_eq_true, if_false]
    rw [← neg_add', abs_neg]
    exact abs_of_nonneg (add_nonneg ha hb)

/-- **The double that a magnitude rounds to is nearest to it**, with either sign. -/
theorem Rounds.nearestTo {m s : Nat} {v : ℚ} (hv : Rounds m s v) (h : Regular m s) (hnonneg : 0 ≤ v)
    (negative : Bool) : (Binary64.finite negative m s).NearestTo (signed negative v) := by
  have hle {m' s' : Nat} (h' : Regular m' s') : |magnitude m s - v| ≤ |magnitude m' s' - v| := by
    by_cases hne : magnitude m' s' = magnitude m s
    · rw [hne]
    · exact (hv.distance_le h h' hne).1
  -- zero is as near as anything with the other sign
  have hzero : |magnitude m s - v| ≤ v := by
    have := hle regular_zero
    rwa [magnitude_zero, zero_sub, abs_neg, abs_of_nonneg hnonneg] at this
  refine ⟨rfl, h, ?_, ?_⟩
  · intro y hfinite hproper
    cases y with
    | nan => cases hfinite
    | infinite => cases hfinite
    | finite sign m' s' =>
      have hpos := magnitude_nonneg m' s'
      rw [toRat_finite, toRat_finite, abs_signed_sub_signed]
      by_cases hsign : sign = negative
      · rw [hsign, abs_signed_sub_signed]
        exact hle hproper
      · rw [abs_signed_sub_signed_of_ne hsign hpos hnonneg]
        linarith
  · intro y hfinite hproper hne htie
    cases y with
    | nan => cases hfinite
    | infinite => cases hfinite
    | finite sign m' s' =>
      have hpos := magnitude_nonneg m' s'
      rw [toRat_finite, toRat_finite] at hne
      rw [toRat_finite, toRat_finite, abs_signed_sub_signed] at htie
      by_cases hsign : sign = negative
      · rw [hsign] at hne
        rw [hsign, abs_signed_sub_signed] at htie
        exact (hv.distance_le h hproper fun heq => hne (by rw [heq])).2 htie
      · rw [abs_signed_sub_signed_of_ne hsign hpos hnonneg] at htie
        have hY : magnitude m' s' = 0 := by linarith
        have hX : magnitude 0 0 ≠ magnitude m s := by
          intro heq
          rw [hY, ← heq, magnitude_zero] at hne
          exact hne (by simp [signed])
        refine (hv.distance_le h regular_zero hX).2 ?_
        rw [magnitude_zero, zero_sub, abs_neg, abs_of_nonneg hnonneg]
        linarith

/-- An integer has a finite double exactly if the double rounded from it is that one. -/
theorem ofInt?_eq_some_iff {n : Int} {x : Binary64} :
    ofInt? n = some x ↔ ofRatio (n < 0) n.natAbs 1 = x ∧ x.isFinite = true := by
  have hdef : ofInt? = ofInt? := rfl
  conv_rhs at hdef => delta ofInt?
  rw [hdef]
  beta_reduce
  generalize ofRatio (n < 0) n.natAbs 1 = y
  cases y <;> cases x <;> simp [isFinite]

/-- It has the sign of the integer, and the magnitude rounds to it. -/
theorem rounds_of_ofInt? {n : Int} {x : Binary64} (h : ofInt? n = some x) :
    ∃ m s, x = .finite (n < 0) m s ∧ Regular m s ∧ Rounds m s n.natAbs := by
  obtain ⟨hx, hfinite⟩ := ofInt?_eq_some_iff.mp h
  cases x with
  | nan => cases hfinite
  | infinite => cases hfinite
  | finite sign m s =>
    have hproper : Regular m s := by
      have := ofRatio_proper (n < 0) n.natAbs one_pos
      rwa [hx] at this
    obtain rfl := sign_of_ofRatio hx
    exact ⟨m, s, rfl, hproper, (ofRatio_one_eq_finite_iff _ hproper).mp hx⟩

/-- A natural number has the double that it rounds to. -/
theorem ofInt?_natCast_eq_iff {n m s : Nat} (h : Regular m s) :
    ofInt? n = some (.finite false m s) ↔ Rounds m s n := by
  have hsign : ¬ (n : Int) < 0 := by omega
  rw [ofInt?_eq_some_iff, decide_eq_false hsign, Int.natAbs_natCast, ofRatio_one_eq_finite_iff false h]
  exact and_iff_left rfl

/-- An integer is its size with its sign. -/
theorem signed_natAbs (n : Int) : signed (n < 0) (n.natAbs : ℚ) = n := by
  rcases lt_or_ge n 0 with hn | hn
  · simp only [signed, hn, decide_true, if_true]
    rw [Nat.cast_natAbs, abs_of_neg hn]
    simp
  · simp only [signed, Int.not_lt.mpr hn, decide_false, Bool.false_eq_true, if_false]
    rw [Nat.cast_natAbs, abs_of_nonneg hn]

/-- **An integer is rounded to the nearest double.** -/
theorem ofInt?_nearest {n : Int} {x : Binary64} (h : ofInt? n = some x) : x.NearestTo n := by
  obtain ⟨m, s, rfl, hregular, hrounds⟩ := rounds_of_ofInt? h
  rw [← signed_natAbs n]
  exact hrounds.nearestTo hregular (Nat.cast_nonneg _) _

/-! ## Whole numbers -/

/-- In units of a step, a whole number that rounds to a double is the double. -/
theorem Rounds.eq_of_mul_step {m s k : Nat} (h : Rounds m s (k * step s)) : magnitude m s = k * step s := by
  have hstep := step_pos s
  have hhigh := h.high
  rw [highest_eq, magnitude_eq] at hhigh
  -- it is less than a whole step away, to either side
  have hle : (k : ℚ) < m + 1 := by
    by_contra hlt
    have := mul_le_mul_of_nonneg_right (not_lt.mp hlt) hstep.le
    linarith
  have hge : (m : ℚ) < k + 1 := by
    rcases Nat.eq_zero_or_pos m with rfl | hm
    · have := Nat.cast_nonneg (α := ℚ) k
      push_cast
      linarith
    · have hlow := (sub_half_le_lowest hm).trans h.low
      rw [magnitude_eq] at hlow
      by_contra hlt
      have := mul_le_mul_of_nonneg_right (not_lt.mp hlt) hstep.le
      linarith
  have hk : k = m := by
    have hle' : k < m + 1 := by exact_mod_cast hle
    have hge' : m < k + 1 := by exact_mod_cast hge
    omega
  rw [magnitude_eq, hk]

/-- One is a whole number of steps up to the shift of the units. -/
theorem mul_step_of_le {s : Nat} (hs : s ≤ 1074) : (2 ^ (1074 - s) : Nat) * step s = 1 := by
  have hsplit : unitsPerOne = 2 ^ (1074 - s) * 2 ^ s := by
    unfold unitsPerOne
    rw [← Nat.pow_add]
    congr 1
    omega
  have hunits : ((unitsPerOne : Nat) : ℚ) ≠ 0 := (Nat.cast_pos.mpr unitsPerOne_pos).ne'
  unfold step
  rw [← mul_div_assoc, ← Nat.cast_mul, ← hsplit, div_self hunits]

/-- Beyond it a step is a whole number. -/
theorem step_add (k : Nat) : step (1074 + k) = (2 ^ k : Nat) := by
  have hsplit : 2 ^ (1074 + k) = unitsPerOne * 2 ^ k := pow_by_parts 2 rfl
  have hunits : ((unitsPerOne : Nat) : ℚ) ≠ 0 := (Nat.cast_pos.mpr unitsPerOne_pos).ne'
  rw [step, hsplit, Nat.cast_mul, mul_div_cancel_left₀ _ hunits]

/-- From some exponent on the steps are whole numbers. -/
theorem step_of_ge {s : Nat} (hs : 1074 ≤ s) : step s = (2 ^ (s - 1074) : Nat) := by
  obtain ⟨k, rfl⟩ := Nat.exists_eq_add_of_le hs
  rw [step_add, Nat.add_sub_cancel_left]

/-- Where steps are not above one, a whole number that rounds to a double is the double. -/
theorem Rounds.eq_of_le {m s n : Nat} (h : Rounds m s n) (hs : s ≤ 1074) : magnitude m s = n := by
  have hn : (n : ℚ) = (n * 2 ^ (1074 - s) : Nat) * step s := by
    rw [Nat.cast_mul, mul_assoc, mul_step_of_le hs, mul_one]
  rw [hn] at h
  rw [h.eq_of_mul_step, ← hn]

/-- A whole number of whole steps is whole. -/
theorem magnitude_of_ge (m : Nat) {s : Nat} (hs : 1074 ≤ s) : magnitude m s = (m * 2 ^ (s - 1074) : Nat) := by
  rw [magnitude_eq, step_of_ge hs, Nat.cast_mul]

/-- A whole number rounds to a whole double. -/
theorem Rounds.whole {m s n : Nat} (h : Rounds m s n) : ∃ k : Nat, magnitude m s = k := by
  rcases Nat.le_total s 1074 with hs | hs
  · exact ⟨n, h.eq_of_le hs⟩
  · exact ⟨_, magnitude_of_ge m hs⟩

/-- From `2⁵³` on all doubles are whole. -/
theorem whole_of_ge {m s : Nat} (h : Regular m s) (hle : (2 ^ 53 : Nat) ≤ magnitude m s) :
    ∃ k : Nat, magnitude m s = k := by
  rcases Nat.le_total s 1074 with hs | hs
  · exfalso
    have hstep : step s ≤ 1 := (step_mono hs).trans_eq (by simpa using step_of_ge (Nat.le_refl 1074))
    have hsmall : magnitude m s ≤ m := by
      rw [magnitude_eq]
      exact mul_le_of_le_one_right (Nat.cast_nonneg m) hstep
    exact absurd (Nat.cast_le.mp (hle.trans hsmall)) (Nat.not_le.mpr h.lt)
  · exact ⟨_, magnitude_of_ge m hs⟩

/-- Below `2⁵³` the steps are not above one. -/
theorem Rounds.shift_le {m s n : Nat} (h : Rounds m s n) (hregular : Regular m s) (hn : n < 2 ^ 53) : s ≤ 1074 := by
  by_contra hs
  have hm : 2 ^ 52 ≤ m := by
    have := hregular.leading
    omega
  have hquarters : 2 ^ 54 + quartersBelow m s ≤ 4 * m + 1 := by
    rcases quartersBelow_cases m s with ⟨hfew, hlater⟩ | ⟨hfew, -⟩ <;> omega
  have hquarters' : (2 ^ 54 + quartersBelow m s : ℚ) ≤ 4 * m + 1 := by exact_mod_cast hquarters
  have hstep : (2 : ℚ) ≤ step s := by
    rw [step_of_ge (by omega)]
    exact_mod_cast Nat.le_self_pow (by omega) 2
  have hn' : (n + 1 : ℚ) ≤ 2 ^ 53 := by exact_mod_cast hn
  have hlow := h.low
  rw [lowest_eq (by omega), magnitude_eq] at hlow
  have hwide : (2 ^ 54 - 1) * (2 : ℚ) ≤ (4 * m - quartersBelow m s) * step s :=
    mul_le_mul (by linarith) hstep (by norm_num) (by linarith)
  linarith

/-! ## Far from all doubles -/

/-- Less than half a unit rounds to zero alone. -/
theorem rounds_iff_of_lt {m s : Nat} {v : ℚ} (hregular : Regular m s) (hnonneg : 0 ≤ v) (hlt : v < step 0 / 2) :
    Rounds m s v ↔ m = 0 ∧ s = 0 := by
  constructor
  · intro h
    have hm : m = 0 := by
      by_contra hne
      have hlow := (half_step_le_lowest (Nat.pos_of_ne_zero hne)).trans h.low
      have hstep : step 0 ≤ step s := step_mono (Nat.zero_le s)
      linarith
    refine ⟨hm, ?_⟩
    have := hregular.leading
    omega
  · rintro ⟨rfl, rfl⟩
    refine ⟨?_, ?_, nofun⟩
    · rwa [lowest_zero]
    · rw [highest_eq, magnitude_zero, zero_add]
      exact hlt.le

/-- Ten to the 28th is hardly more than two to the 93rd, and the same for multiples of the exponents. -/
theorem two_pow_le_ten_pow {a b k : Nat} (ha : a = 93 * k) (hb : b = 28 * k) : 2 ^ a ≤ 10 ^ b := by
  rw [ha, hb, Nat.pow_mul, Nat.pow_mul]
  exact Nat.pow_le_pow_left (by decide) k

/-- A power of two that is below all powers of ten from there on. -/
theorem two_pow_le : 2 ^ 1023 ≤ 10 ^ 308 :=
  two_pow_le_ten_pow (show 1023 = 93 * 11 from rfl) (show 308 = 28 * 11 from rfl)

/-- No double reaches up to `10³¹⁰`. -/
theorem highest_lt {m s : Nat} (h : Regular m s) : highest m s < (10 ^ 310 : Nat) := by
  have hm : (m + 1 : ℚ) ≤ 2 ^ 53 := by exact_mod_cast h.lt
  have hs : step s ≤ (2 ^ 971 : Nat) := (step_mono h.bounded).trans_eq (step_add 971)
  have hpos := step_pos s
  have hlast : 2 ^ 53 * 2 ^ 971 < 10 ^ 310 := by
    have hle := two_pow_le
    rw [pow_by_parts 2 (show 1023 = 52 + 971 from rfl)] at hle
    rw [pow_by_parts 10 (show 310 = 2 + 308 from rfl)]
    omega
  calc highest m s = (m + 1 / 2) * step s := by
        rw [highest_eq, magnitude_eq]
        ring
    _ ≤ (2 ^ 53 : Nat) * (2 ^ 971 : Nat) :=
        mul_le_mul (by push_cast; linarith) hs hpos.le (Nat.cast_nonneg _)
    _ = (2 ^ 53 * 2 ^ 971 : Nat) := (Nat.cast_mul _ _).symm
    _ < (10 ^ 310 : Nat) := Nat.cast_lt.mpr hlast

end Binary64
end Questionnaire
