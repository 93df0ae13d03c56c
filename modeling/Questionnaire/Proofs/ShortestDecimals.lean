import Questionnaire.Proofs.ReadDecimals

/-!
# The shortest decimal of a double

Many decimals read back as a given positive double. One is chosen among them: it has the fewest digits, is nearest of
those with as many, and has even digits if two are equally near. It is found by trying grids with 1, 2, … 17 digits,
where the neighbours of the exact value tell whether any point of a grid reads back.

* `Decimal.readsBack_iff`: what the search takes for a decimal that reads back rounds to the double.
* `Decimal.nearest_of_onGrid?`: what is found on a grid is nearest of all that reads back there.
* `Decimal.digits_of_shortest`: the search ends on the first grid on which anything reads back.
* `Decimal.ChosenFor`: what is asked of the decimal; `Decimal.shortest_chosenFor`: the shortest decimal, as it is
  computed, is chosen.
-/

namespace Questionnaire

namespace Decimal

open Binary64 (Regular Rounds magnitude quartersBelow unitsPerOne)

variable {d : Decimal}

/-! ## Grids -/

theorem ten_pow_eq (k : Nat) : 10 ^ k = 5 ^ k * 2 ^ k := by rw [← Nat.mul_pow]

/-- Seventeen places are fewer than the least double takes. -/
theorem ten_pow_le_five_pow : 10 ^ 17 ≤ 5 ^ 1074 := calc
  10 ^ 17 ≤ 5 ^ 25 := by decide
  _ ≤ 5 ^ 1074 := by gcongr <;> decide

/-- So many places are those of the least double in units of it. -/
theorem ten_pow_places : 10 ^ 1074 = 5 ^ 1074 * unitsPerOne := by
  rw [unitsPerOne]
  exact ten_pow_eq 1074

section Grids

variable {m s : Nat} {value a b : Nat}

/-- What is read back lies between the quarters, and an odd double does not take their ends in. -/
theorem readsBack_iff_quarters {unit : Nat} :
    readsBack m s unit value = true ↔
      (4 * m - quartersBelow m s) * unit ≤ 4 * value ∧ 4 * value ≤ (4 * m + 2) * unit ∧
        (m % 2 = 1 → (4 * m - quartersBelow m s) * unit ≠ 4 * value ∧ 4 * value ≠ (4 * m + 2) * unit) := by
  simp only [readsBack, quartersBelow]
  generalize (4 * m - if m = 2 ^ 52 ∧ s ≠ 0 then 1 else 2) * unit = low
  split <;> simp only [Bool.and_eq_true, decide_eq_true_eq] <;> omega

/-- The decimals of 1074 places that read back are those that round to the double. -/
theorem readsBack_iff :
    readsBack m s (2 ^ s * 5 ^ 1074) value = true ↔ Rounds m s (value / (10 ^ 1074 : Nat) : ℚ) := by
  have hunits := Binary64.unitsPerOne_pos
  have hscaled (k : Nat) : k * 2 ^ s * (5 ^ 1074 * unitsPerOne) = k * (2 ^ s * 5 ^ 1074) * unitsPerOne := by
    rw [Nat.mul_assoc k, ← Nat.mul_assoc (2 ^ s), ← Nat.mul_assoc k]
  have hfour : value * (4 * unitsPerOne) = 4 * value * unitsPerOne := by
    rw [← Nat.mul_assoc, Nat.mul_comm value]
  rw [readsBack_iff_quarters, Binary64.rounds_ratio_iff (ten_pow_pos 1074), ten_pow_places, hscaled, hscaled, hfour,
    Nat.mul_le_mul_right_iff hunits, Nat.mul_le_mul_right_iff hunits, ne_eq, ne_eq, ne_eq, ne_eq,
    Nat.mul_left_inj hunits.ne', Nat.mul_left_inj hunits.ne']

/-- What is read back has no gaps. -/
theorem readsBack_between {unit : Nat} (ha : readsBack m s unit a = true) (hb : readsBack m s unit b = true)
    (hav : a ≤ value) (hvb : value ≤ b) : readsBack m s unit value = true := by
  rw [readsBack_iff_quarters] at *
  omega

/-- The double itself is read back. -/
theorem readsBack_exact {unit : Nat} (hm : 0 < m) (hunit : 0 < unit) : readsBack m s unit (m * unit) = true := by
  have hquarters := Binary64.quartersBelow_pos m s
  have hlow : (4 * m - quartersBelow m s) * unit < 4 * m * unit := Nat.mul_lt_mul_of_pos_right (by omega) hunit
  have hhigh : 4 * m * unit < (4 * m + 2) * unit := Nat.mul_lt_mul_of_pos_right (by omega) hunit
  rw [Nat.mul_assoc] at hlow hhigh
  rw [readsBack_iff_quarters]
  omega

variable {unit grid k j : Nat}

/-- What is found on a grid is a neighbour of the exact value, and the nearer one if both read back. -/
theorem onGrid?_cases (h : onGrid? m s unit grid = some k) :
    k = m * unit / grid ∧ readsBack m s unit (m * unit / grid * grid) = true ∧
        (readsBack m s unit ((m * unit / grid + 1) * grid) = true →
          2 * (m * unit % grid) < grid ∨ 2 * (m * unit % grid) = grid ∧ m * unit / grid % 2 = 0) ∨
      k = m * unit / grid + 1 ∧ readsBack m s unit ((m * unit / grid + 1) * grid) = true ∧
        (readsBack m s unit (m * unit / grid * grid) = true →
          ¬ (2 * (m * unit % grid) < grid ∨ 2 * (m * unit % grid) = grid ∧ m * unit / grid % 2 = 0)) := by
  simp only [onGrid?] at h
  split at h
  -- the point below alone, the point above alone, both, or none
  · rename_i hlower hupper
    cases h
    exact .inl ⟨rfl, hlower, fun hreads => absurd (hupper.symm.trans hreads) nofun⟩
  · rename_i hlower hupper
    cases h
    exact .inr ⟨rfl, hupper, fun hreads => absurd (hlower.symm.trans hreads) nofun⟩
  · rename_i hlower hupper
    split at h <;> rename_i hnear <;> cases h
    · exact .inl ⟨rfl, hlower, fun _ => hnear⟩
    · exact .inr ⟨rfl, hupper, fun _ => hnear⟩
  · cases h

/-- The point that is chosen on a grid is read back. -/
theorem readsBack_of_onGrid? (h : onGrid? m s unit grid = some k) : readsBack m s unit (k * grid) = true := by
  rcases onGrid?_cases h with ⟨rfl, hlower, -⟩ | ⟨rfl, hupper, -⟩
  · exact hlower
  · exact hupper

/-- If anything on the grid reads back, a neighbour of the exact value does. -/
theorem neighbour_readsBack (hm : 0 < m) (hunit : 0 < unit) (hgrid : 0 < grid)
    (hj : readsBack m s unit (j * grid) = true) :
    j ≤ m * unit / grid ∧ readsBack m s unit (m * unit / grid * grid) = true ∨
      m * unit / grid + 1 ≤ j ∧ readsBack m s unit ((m * unit / grid + 1) * grid) = true := by
  have hexact := readsBack_exact (s := s) hm hunit
  rcases Nat.lt_or_ge (m * unit / grid) j with hlt | hge
  · have hbelow : m * unit ≤ (m * unit / grid + 1) * grid := by
      rw [Nat.mul_comm _ grid]
      exact (Nat.lt_mul_div_succ _ hgrid).le
    exact .inr ⟨hlt, readsBack_between hexact hj hbelow (Nat.mul_le_mul_right grid hlt)⟩
  · exact .inl ⟨hge, readsBack_between hj hexact (Nat.mul_le_mul_right grid hge) (Nat.div_mul_le_self _ _)⟩

/-- If any point of a grid is read back, one is chosen. -/
theorem onGrid?_ne_none (hm : 0 < m) (hunit : 0 < unit) (hgrid : 0 < grid)
    (hj : readsBack m s unit (j * grid) = true) : onGrid? m s unit grid ≠ none := by
  have hneighbour := neighbour_readsBack hm hunit hgrid hj
  simp only [onGrid?]
  split
  · exact nofun
  · exact nofun
  · split <;> exact nofun
  · rename_i hlower hupper
    rw [hlower, hupper] at hneighbour
    simp at hneighbour

/-- What is found on a grid is nearest of all that reads back there, of two the even one. -/
theorem nearest_of_onGrid? (hm : 0 < m) (hunit : 0 < unit) (hgrid : 0 < grid)
    (h : onGrid? m s unit grid = some k) (hj : readsBack m s unit (j * grid) = true) :
    ((k * grid : Nat) - (m * unit : Nat) : Int).natAbs ≤ ((j * grid : Nat) - (m * unit : Nat) : Int).natAbs ∧
      (j ≠ k →
        ((j * grid : Nat) - (m * unit : Nat) : Int).natAbs = ((k * grid : Nat) - (m * unit : Nat) : Int).natAbs →
        k % 2 = 0) := by
  have hneighbour := neighbour_readsBack hm hunit hgrid hj
  have hfound := onGrid?_cases h
  have hexact := Nat.div_add_mod (m * unit) grid
  have hrest := Nat.mod_lt (m * unit) hgrid
  generalize m * unit = exact at *
  generalize exact / grid = floor at *
  generalize exact % grid = rest at *
  have hfloor : floor * grid = grid * floor := Nat.mul_comm _ _
  have hnext : (floor + 1) * grid = floor * grid + grid := Nat.succ_mul _ _
  -- a place further to either side is a whole grid further
  have hplace : j < floor ∧ j * grid + grid ≤ floor * grid ∨ j = floor ∨ j = floor + 1 ∨
      floor + 1 < j ∧ (floor + 1) * grid + grid ≤ j * grid := by
    rcases Nat.lt_trichotomy j floor with hlt | heq | hgt
    · left
      rw [← Nat.succ_mul]
      exact ⟨hlt, Nat.mul_le_mul_right grid hlt⟩
    · exact .inr (.inl heq)
    · rcases Nat.eq_or_lt_of_le (Nat.succ_le_of_lt hgt) with heq | hlt
      · exact .inr (.inr (.inl heq.symm))
      · refine .inr (.inr (.inr ⟨hlt, ?_⟩))
        rw [← Nat.succ_mul]
        exact Nat.mul_le_mul_right grid hlt
  rcases hfound with ⟨rfl, -, hnearer⟩ | ⟨rfl, -, hnearer⟩
  · rcases hplace with ⟨hlt, hle⟩ | rfl | rfl | ⟨hlt, hle⟩ <;> grind
  · rcases hplace with ⟨hlt, hle⟩ | rfl | rfl | ⟨hlt, hle⟩ <;> grind

end Grids

/-! ## The first grid with a decimal that reads back -/

/-- A step at a shift, in places of `10⁻¹⁰⁷⁴`. -/
def stepPlaces (s : Nat) : Nat := 2 ^ s * 5 ^ 1074

/-- How many places before the last of 1074 the exact value of a double has. -/
def places (m s : Nat) : Nat := (digitsOf (m * stepPlaces s)).length

/-- The grid of a number of digits. -/
def gridOf (m s digits : Nat) : Nat := 10 ^ (places m s - digits)

/-- Without a zero at the end there is nothing to trim. -/
theorem trim_eq_self {fuel : Nat} (h : d.digits % 10 ≠ 0) : trim fuel d = d := by
  cases fuel with
  | zero => rfl
  | succ fuel => simp [trim, h]

/-- What is found first is not found before. -/
theorem findSome?_range_eq_some {β : Type} {f : Nat → Option β} {b : β} {n : Nat}
    (h : (List.range n).findSome? f = some b) : ∃ i < n, f i = some b ∧ ∀ j < i, f j = none := by
  induction n with
  | zero => cases h
  | succ n ih =>
    rw [List.range_succ, List.findSome?_append, Option.or_eq_some_iff] at h
    rcases h with h | ⟨hnone, h⟩
    · obtain ⟨i, hi, hfound⟩ := ih h
      exact ⟨i, by omega, hfound⟩
    · refine ⟨n, by omega, by simpa using h, fun j hj => ?_⟩
      exact List.findSome?_eq_none_iff.mp hnone j (List.mem_range.mpr hj)

section Shortest

variable {m s : Nat} (hm : 0 < m) (h : Regular m s)

theorem stepPlaces_pos (s : Nat) : 0 < stepPlaces s := mul_pos (pow_pos two_pos s) (pow_pos (by decide) 1074)

/-- A double in places behind the point. -/
theorem magnitude_eq_places : magnitude m s = (m * stepPlaces s : Nat) / (10 ^ 1074 : Nat) := by
  rw [magnitude, Binary64.ratio_eq_ratio_iff Binary64.unitsPerOne_pos (ten_pow_pos 1074), ten_pow_places, stepPlaces,
    ← Nat.mul_assoc, Nat.mul_assoc m]

include hm in
/-- How many places it has is told by powers of ten. -/
theorem places_bounds : 10 ^ (places m s - 1) ≤ m * stepPlaces s ∧ m * stepPlaces s < 10 ^ places m s :=
  ⟨pow_length_le (Nat.mul_pos hm (stepPlaces_pos s)), lt_pow_length _⟩

include hm in
/-- There are more of them than are ever written. -/
theorem places_gt : 17 < places m s := by
  by_contra hle
  have hsmall := (length_digitsOf_le_iff (n := m * stepPlaces s) (by omega)).mp (Nat.not_lt.mp hle)
  have hlarge := ten_pow_le_five_pow
  have hstep : 5 ^ 1074 ≤ m * stepPlaces s := by
    rw [stepPlaces, ← Nat.mul_assoc]
    exact Nat.le_mul_of_pos_left _ (Nat.mul_pos hm (Nat.two_pow_pos s))
  omega

theorem gridOf_pos (m s digits : Nat) : 0 < gridOf m s digits := ten_pow_pos _

/-- With a digit less, the grid is ten times as wide. -/
theorem gridOf_succ {digits : Nat} (hdigits : digits < places m s) :
    10 * gridOf m s (digits + 1) = gridOf m s digits := by
  unfold gridOf
  rw [← Nat.pow_succ']
  congr 1
  omega

include hm in
/-- A grid takes as many digits from the exact value. -/
theorem gridOf_bounds {digits : Nat} (hdigits : digits < 17) :
    10 ^ digits * gridOf m s (digits + 1) ≤ m * stepPlaces s ∧
      m * stepPlaces s < 10 ^ (digits + 1) * gridOf m s (digits + 1) := by
  have hplaces := places_gt (s := s) hm
  have hbounds := places_bounds (s := s) hm
  unfold gridOf
  rw [← Nat.pow_add, ← Nat.pow_add]
  have hlow : digits + (places m s - (digits + 1)) = places m s - 1 := by omega
  have hhigh : digits + 1 + (places m s - (digits + 1)) = places m s := by omega
  rwa [hlow, hhigh]

include hm h in
/-- With 17 digits, some decimal reads back. -/
theorem onGrid?_seventeen : onGrid? m s (stepPlaces s) (gridOf m s 17) ≠ none := by
  have hgrid := (gridOf_bounds (s := s) hm (show 16 < 17 by omega)).1
  have hpos := gridOf_pos m s (16 + 1)
  have hunit := stepPlaces_pos s
  have hlt := h.lt
  generalize gridOf m s (16 + 1) = grid at *
  generalize stepPlaces s = unit at *
  -- a step is wider than the grid, and twice as wide where the middle below is nearer
  have hwide : grid < unit := by
    by_contra hle
    have := Nat.mul_le_mul (Nat.le_sub_one_of_lt hlt) (Nat.not_lt.mp hle)
    omega
  have hwider : m = 2 ^ 52 → 2 * grid < unit := by
    rintro rfl
    by_contra hle
    have := Nat.mul_le_mul_left (2 ^ 52) (Nat.not_lt.mp hle)
    omega
  have hexact := Nat.div_add_mod (m * unit) grid
  have hrest := Nat.mod_lt (m * unit) hpos
  have hlower : m * unit / grid * grid = grid * (m * unit / grid) := Nat.mul_comm _ _
  have hupper : (m * unit / grid + 1) * grid = grid * (m * unit / grid) + grid := by
    rw [Nat.succ_mul, hlower]
  have hquarters := Binary64.quartersBelow_cases m s
  have hhigh : (4 * m + 2) * unit = 4 * (m * unit) + 2 * unit := by ring
  have hlow : (4 * m - quartersBelow m s) * unit + quartersBelow m s * unit = 4 * (m * unit) := by
    rw [← Nat.add_mul, ← Nat.mul_assoc, Nat.sub_add_cancel (by omega)]
  by_cases hnear : quartersBelow m s = 2 ∧ 2 * (m * unit % grid) ≤ grid
  · refine onGrid?_ne_none hm hunit hpos (j := m * unit / grid) ?_
    rw [readsBack_iff_quarters, hlower]
    rw [hnear.1] at hlow ⊢
    omega
  · refine onGrid?_ne_none hm hunit hpos (j := m * unit / grid + 1) ?_
    rw [readsBack_iff_quarters, hupper]
    rcases hquarters with ⟨hq, -⟩ | ⟨hq, hfirst, -⟩ <;> rw [hq] at hlow ⊢ <;> omega

/-- The decimal with the given digits on a grid. -/
def onPlaces (m s digits k : Nat) : Decimal := ⟨k, ((places m s - digits : Nat) : Int) - 1074⟩

/-- The fewest digits on whose grid a point is chosen, or else all of them. -/
theorem shortest_eq (m s : Nat) :
    shortest m s = trim 20 (((List.range 17).findSome? fun i =>
      (onGrid? m s (stepPlaces s) (gridOf m s (i + 1))).map (onPlaces m s (i + 1))).getD ⟨m * stepPlaces s, -1074⟩) :=
  rfl

include hm h in
/-- The shortest decimal is found on the first grid on which any reads back. -/
theorem exists_shortest : ∃ i k, i < 17 ∧ onGrid? m s (stepPlaces s) (gridOf m s (i + 1)) = some k ∧
    (∀ j < i, onGrid? m s (stepPlaces s) (gridOf m s (j + 1)) = none) ∧
    shortest m s = trim 20 (onPlaces m s (i + 1) k) := by
  rw [shortest_eq]
  cases hfound : (List.range 17).findSome? fun i =>
      (onGrid? m s (stepPlaces s) (gridOf m s (i + 1))).map (onPlaces m s (i + 1)) with
  | none =>
    have hnone := List.findSome?_eq_none_iff.mp hfound 16 (by simp)
    exact absurd (Option.map_eq_none_iff.mp hnone) (onGrid?_seventeen hm h)
  | some d =>
    obtain ⟨i, hi, hd, hbefore⟩ := findSome?_range_eq_some hfound
    obtain ⟨k, hk, rfl⟩ := Option.map_eq_some_iff.mp hd
    exact ⟨i, k, hi, hk, fun j hj => Option.map_eq_none_iff.mp (hbefore j hj), rfl⟩

/-! ## What the shortest decimal is -/

/-- The value of a point on a grid. -/
theorem value_onPlaces (digits k : Nat) :
    (onPlaces m s digits k).value = (k * gridOf m s digits : Nat) / (10 ^ 1074 : Nat) := by
  have hexponent : (10 : ℚ) ^ (((places m s - digits : Nat) : Int) - 1074) =
      (10 ^ (places m s - digits) : Nat) / (10 ^ 1074 : Nat) := by
    rw [← ten_zpow_natCast, ← ten_zpow_natCast]
    exact zpow_sub₀ (by norm_num) _ _
  rw [value, onPlaces, hexponent, gridOf, Nat.cast_mul, mul_div_assoc]

include hm h in
/-- Trailing zeros are left of ten alone, and on the first grid. -/
theorem digits_of_shortest : ∃ i k, i < 17 ∧ onGrid? m s (stepPlaces s) (gridOf m s (i + 1)) = some k ∧
    (∀ j < i, onGrid? m s (stepPlaces s) (gridOf m s (j + 1)) = none) ∧ 10 ^ i ≤ k ∧
    (k < 10 ^ (i + 1) ∧ shortest m s = onPlaces m s (i + 1) k ∨
      i = 0 ∧ k = 10 ∧ shortest m s = onPlaces m s 0 1) := by
  obtain ⟨i, k, hi, hk, hbefore, hshortest⟩ := exists_shortest hm h
  have hgrid := gridOf_pos m s (i + 1)
  have hplaces := places_gt (s := s) hm
  have hbounds := gridOf_bounds (s := s) hm hi
  have hreads := readsBack_of_onGrid? hk
  have hfloor : 10 ^ i ≤ m * stepPlaces s / gridOf m s (i + 1) := (Nat.le_div_iff_mul_le hgrid).mpr hbounds.1
  have hceil : m * stepPlaces s / gridOf m s (i + 1) < 10 ^ (i + 1) := (Nat.div_lt_iff_lt_mul hgrid).mpr hbounds.2
  have hk' : k = m * stepPlaces s / gridOf m s (i + 1) ∨ k = m * stepPlaces s / gridOf m s (i + 1) + 1 :=
    (onGrid?_cases hk).imp And.left And.left
  refine ⟨i, k, hi, hk, hbefore, by omega, ?_⟩
  rcases Nat.eq_zero_or_pos i with rfl | hpos
  · -- on the first grid there is nothing to trim but the zero of ten
    by_cases hten : k = 10
    · refine .inr ⟨rfl, hten, ?_⟩
      rw [hshortest, hten]
      simp [onPlaces, trim]
      omega
    · refine .inl ⟨by omega, ?_⟩
      rw [hshortest, trim_eq_self]
      simp only [onPlaces]
      omega
  · -- a trailing zero would have been left out on the grid before
    have hnozero : k % 10 ≠ 0 := by
      intro hzero
      obtain ⟨i, rfl⟩ := Nat.exists_eq_add_one.mpr hpos
      refine onGrid?_ne_none hm (stepPlaces_pos s) (gridOf_pos m s _) (j := k / 10) ?_ (hbefore i (by omega))
      rw [← gridOf_succ (by omega), ← Nat.mul_assoc, Nat.div_mul_cancel (Nat.dvd_of_mod_eq_zero hzero)]
      exact hreads
    refine .inl ⟨?_, by rw [hshortest, trim_eq_self hnozero]⟩
    have hne : k ≠ 10 ^ (i + 1) := by
      rintro rfl
      rw [Nat.pow_succ] at hnozero
      omega
    omega

/-- A point on a grid rounds to the double exactly if it is read back. -/
theorem rounds_onPlaces_iff {digits k : Nat} :
    Rounds m s (onPlaces m s digits k).value ↔ readsBack m s (stepPlaces s) (k * gridOf m s digits) = true := by
  rw [value_onPlaces]
  exact readsBack_iff.symm

include hm in
/-- The exact value has as many digits before its last place as it has. -/
theorem magnitude_bounds : (onPlaces m s 1 1).value ≤ magnitude m s ∧ magnitude m s < (onPlaces m s 1 10).value := by
  have hbounds := gridOf_bounds (s := s) hm (show 0 < 17 by omega)
  have hpos : (0 : ℚ) < (10 ^ 1074 : Nat) := Nat.cast_pos.mpr (ten_pow_pos _)
  rw [value_onPlaces, value_onPlaces, magnitude_eq_places]
  exact ⟨div_le_div_of_nonneg_right (Nat.cast_le.mpr hbounds.1) hpos.le,
    div_lt_div_of_pos_right (Nat.cast_lt.mpr hbounds.2) hpos⟩

include hm in
/-- A decimal that reads back is on the grid of its digits, or a power of ten between it and the exact value reads
back, and so a decimal of one digit. -/
theorem onPlaces_or_beyond {c : Decimal} (hc : Rounds m s c.value) (hsize : c.size ≤ places m s) :
    c = onPlaces m s c.size c.digits ∨
      (onPlaces m s 1 10).value ≤ c.value ∧ Rounds m s (onPlaces m s 1 10).value ∨
      c.value < (onPlaces m s 1 1).value ∧ Rounds m s (onPlaces m s 1 1).value := by
  have hplaces := places_gt (s := s) hm
  have hbounds := magnitude_bounds (s := s) hm
  have hself := Binary64.rounds_magnitude m s
  -- the place of the first digit is that of the exact value, or before or behind it
  rcases lt_trichotomy (c.size + c.exponent : Int) (places m s - 1074) with hlt | heq | hgt
  · right; right
    have hbelow : c.value < (onPlaces m s 1 1).value := calc
      c.value < 10 ^ (c.size + c.exponent : Int) := c.value_lt
      _ ≤ 10 ^ (((places m s - 1 : Nat) : Int) - 1074) := ten_zpow_le (by omega)
      _ = (onPlaces m s 1 1).value := by rw [value, onPlaces, Nat.cast_one, one_mul]
    exact ⟨hbelow, hc.between hself hbelow.le hbounds.1⟩
  · left
    obtain ⟨digits, exponent⟩ := c
    simp only [onPlaces, Decimal.mk.injEq, true_and]
    simp only [] at heq
    omega
  · right; left
    have habove : (onPlaces m s 1 10).value ≤ c.value := calc
      (onPlaces m s 1 10).value = 10 ^ (1 + (((places m s - 1 : Nat) : Int) - 1074)) := by
        rw [value, onPlaces, ten_zpow_add]
        norm_num
      _ ≤ 10 ^ (c.size - 1 + c.exponent : Int) := ten_zpow_le (by omega)
      _ ≤ c.value := pow_le_value (digits_pos_of_rounds hm hc)
    exact ⟨habove, hself.between hc hbounds.2.le habove⟩

/-- Distances on a grid, told in places. -/
theorem abs_onPlaces_sub (digits k : Nat) :
    |(onPlaces m s digits k).value - magnitude m s| =
      (((k * gridOf m s digits : Nat) - (m * stepPlaces s : Nat) : Int).natAbs : ℚ) / (10 ^ 1074 : Nat) := by
  rw [value_onPlaces, magnitude_eq_places, ← sub_div, abs_div, Nat.abs_cast, Nat.cast_natAbs, Int.cast_abs,
    Int.cast_sub, Int.cast_natCast, Int.cast_natCast]

include hm in
/-- What is found on a grid is nearest of all decimals there that read back, of two the even one. -/
theorem nearest_onPlaces {digits k j : Nat} (hk : onGrid? m s (stepPlaces s) (gridOf m s digits) = some k)
    (hj : Rounds m s (onPlaces m s digits j).value) :
    |(onPlaces m s digits k).value - magnitude m s| ≤ |(onPlaces m s digits j).value - magnitude m s| ∧
      (j ≠ k → |(onPlaces m s digits j).value - magnitude m s| = |(onPlaces m s digits k).value - magnitude m s| →
        k % 2 = 0) := by
  have hpos : (0 : ℚ) < (10 ^ 1074 : Nat) := Nat.cast_pos.mpr (ten_pow_pos _)
  have hnearest := nearest_of_onGrid? hm (stepPlaces_pos s) (gridOf_pos m s digits) hk (rounds_onPlaces_iff.mp hj)
  rw [abs_onPlaces_sub, abs_onPlaces_sub, div_le_div_iff_of_pos_right hpos, div_left_inj' hpos.ne', Nat.cast_le,
    Nat.cast_inj]
  exact hnearest

include hm in
/-- To every decimal that reads back, one on the first grid is as near, and nearer if it is another number. -/
theorem exists_onPlaces_as_near {i : Nat} {c : Decimal}
    (hbefore : ∀ j < i, onGrid? m s (stepPlaces s) (gridOf m s (j + 1)) = none)
    (hc : Rounds m s c.value) (hcsize : c.size = i + 1) (hi : i < 17) :
    ∃ j ≤ 10 ^ (i + 1), Rounds m s (onPlaces m s (i + 1) j).value ∧
      |(onPlaces m s (i + 1) j).value - magnitude m s| ≤ |c.value - magnitude m s| ∧
      (|c.value - magnitude m s| = |(onPlaces m s (i + 1) j).value - magnitude m s| →
        c.value = (onPlaces m s (i + 1) j).value) := by
  have hplaces := places_gt (s := s) hm
  have hbounds := magnitude_bounds (s := s) hm
  -- one digit is enough for a power of ten
  have hfirst {k : Nat} (hround : Rounds m s (onPlaces m s 1 k).value) : i = 0 := by
    by_contra hne
    exact onGrid?_ne_none hm (stepPlaces_pos s) (gridOf_pos m s _) (rounds_onPlaces_iff.mp hround)
      (hbefore 0 (Nat.pos_of_ne_zero hne))
  rcases onPlaces_or_beyond hm hc (by omega) with heq | ⟨hle, hround⟩ | ⟨hlt, hround⟩
  · have hdigits := (length_digitsOf_le_iff (n := c.digits) (Nat.succ_pos i)).mp hcsize.le
    rw [hcsize] at heq
    exact ⟨c.digits, hdigits.le, heq ▸ hc, by rw [← heq], fun _ => by rw [← heq]⟩
  · obtain rfl := hfirst hround
    refine ⟨10, by decide, hround, ?_, ?_⟩ <;> rw [abs_of_pos (by linarith), abs_of_pos (by linarith)]
    · linarith
    · exact fun heq => sub_left_injective heq
  · obtain rfl := hfirst hround
    refine ⟨1, by decide, hround, ?_, ?_⟩ <;> rw [abs_of_nonpos (by linarith), abs_of_nonpos (by linarith)]
    · linarith
    · intro heq
      linarith

include hm in
/-- Ten is never chosen against a digit that is as near: the exact value would be nineteen halves of a power of ten,
and so its significand a multiple of nineteen, while the steps are too wide for more than nine. -/
theorem ten_not_tied {j : Nat} (hk : onGrid? m s (stepPlaces s) (gridOf m s 1) = some 10) (hj : j < 10)
    (hround : Rounds m s (onPlaces m s 1 j).value) :
    |(onPlaces m s 1 j).value - magnitude m s| ≠ |(onPlaces m s 1 10).value - magnitude m s| := by
  have hpos : (0 : ℚ) < (10 ^ 1074 : Nat) := Nat.cast_pos.mpr (ten_pow_pos _)
  have hgrid := gridOf_pos m s 1
  have hbounds := gridOf_bounds (s := s) hm (show 0 < 17 by omega)
  have hneighbour := neighbour_readsBack hm (stepPlaces_pos s) hgrid (rounds_onPlaces_iff.mp hround)
  have hexact := Nat.div_add_mod (m * stepPlaces s) (gridOf m s 1)
  have hrest := Nat.mod_lt (m * stepPlaces s) hgrid
  have hfloor : m * stepPlaces s / gridOf m s 1 < 10 := (Nat.div_lt_iff_lt_mul hgrid).mpr hbounds.2
  rw [abs_onPlaces_sub, abs_onPlaces_sub, ne_eq, div_left_inj' hpos.ne', Nat.cast_inj]
  intro htie
  rcases onGrid?_cases hk with ⟨hten, -, -⟩ | ⟨hten, hupper, hnearer⟩
  · omega
  -- ten is chosen above nine, and nine is the digit that would be as near
  have hnine : m * stepPlaces s / gridOf m s 1 = 9 := by omega
  rw [hnine] at hneighbour hnearer hupper hexact
  have hlower : readsBack m s (stepPlaces s) (9 * gridOf m s 1) = true := by
    rcases hneighbour with ⟨-, hlower⟩ | ⟨hge, -⟩
    · exact hlower
    · omega
  have hhalf := hnearer hlower
  have hnineteen : 2 * (m * stepPlaces s) = 19 * gridOf m s 1 := by
    have := Nat.mul_le_mul_right (gridOf m s 1) (Nat.le_of_lt_succ hj)
    omega
  -- nineteen divides neither two nor five, so it divides the significand
  have hdvd : 19 ∣ m := by
    have hfives (k : Nat) : Nat.Coprime 19 (5 ^ k) := .pow_right k (by decide)
    have hcoprime : Nat.Coprime 19 (2 * stepPlaces s) :=
      .mul_right (by decide) (.mul_right (.pow_right s (by decide)) (hfives 1074))
    refine hcoprime.dvd_of_dvd_mul_right ⟨gridOf m s 1, ?_⟩
    rw [← hnineteen]
    ring
  have hmany := Nat.mul_le_mul_right (stepPlaces s) (Nat.le_of_dvd hm hdvd)
  have hten := (readsBack_iff_quarters.mp hupper).2.1
  have hwidth : (4 * m + 2) * stepPlaces s = 4 * (m * stepPlaces s) + 2 * stepPlaces s := by ring
  have hpositive := stepPlaces_pos s
  omega

end Shortest

/-! ## The decimal that is chosen -/

/-- A decimal is chosen for a positive double if it reads back, no other that does has fewer digits, none with as many
digits is nearer, and its digits are even if another one is as near. -/
structure ChosenFor (d : Decimal) (x : Binary64) : Prop where
  readsBack : d.toBinary64 false = x
  fewest : ∀ c : Decimal, c.toBinary64 false = x → d.size ≤ c.size
  nearest : ∀ c : Decimal, c.toBinary64 false = x → c.size = d.size → |d.value - x.toRat| ≤ |c.value - x.toRat|
  even : ∀ c : Decimal, c.toBinary64 false = x → c.size = d.size → c.value ≠ d.value →
    |c.value - x.toRat| = |d.value - x.toRat| → d.digits % 2 = 0

section Chosen

variable {m s : Nat} (hm : 0 < m) (h : Regular m s)

include hm h in
/-- **The shortest decimal is the one that is chosen.** -/
theorem shortest_chosenFor : (shortest m s).ChosenFor (.finite false m s) := by
  obtain ⟨i, k, hi, hk, hbefore, hlow, hshortest⟩ := digits_of_shortest hm h
  have hplaces := places_gt (s := s) hm
  have hvalue : (shortest m s).value = (onPlaces m s (i + 1) k).value := by
    rcases hshortest with ⟨-, heq⟩ | ⟨rfl, rfl, heq⟩
    · rw [heq]
    · rw [heq, value_onPlaces, value_onPlaces, ← gridOf_succ (by omega), one_mul]
  have hsize : (shortest m s).size = i + 1 := by
    rcases hshortest with ⟨hhigh, heq⟩ | ⟨rfl, rfl, heq⟩
    · rw [heq]
      exact length_digitsOf_eq hlow hhigh
    · rw [heq]
      exact length_digitsOf_eq (n := 1) (k := 0) (by decide) (by decide)
  refine ⟨?_, ?_, ?_, ?_⟩
  · -- it reads back
    rw [toBinary64_eq_finite_iff _ h, hvalue]
    exact rounds_onPlaces_iff.mpr (readsBack_of_onGrid? hk)
  · -- fewer digits do not read back, since no grid before the one that was found has a point that does
    intro c hc
    rw [toBinary64_eq_finite_iff _ h] at hc
    by_contra hfewer
    have hpos := c.size_pos
    have hnone {j : Nat} (hj : j < i) {k : Nat} : ¬ Rounds m s (onPlaces m s (j + 1) k).value := fun hround =>
      onGrid?_ne_none hm (stepPlaces_pos s) (gridOf_pos m s _) (rounds_onPlaces_iff.mp hround) (hbefore j hj)
    rcases onPlaces_or_beyond hm hc (by omega) with heq | ⟨-, hround⟩ | ⟨-, hround⟩
    · obtain ⟨j, hj⟩ := Nat.exists_eq_add_one.mpr hpos
      rw [heq, hj] at hc
      exact hnone (by omega) hc
    · exact hnone (by omega) hround
    · exact hnone (by omega) hround
  · -- with as many digits, a point of the same grid is as near, and the nearest of the grid was taken
    intro c hc hcsize
    rw [toBinary64_eq_finite_iff _ h] at hc
    obtain ⟨j, -, hround, hle, -⟩ := exists_onPlaces_as_near hm hbefore hc (hcsize.trans hsize) hi
    rw [hvalue]
    exact (nearest_onPlaces hm hk hround).1.trans hle
  · -- of two that are as near, the even one was taken, and ten is never one of them
    intro c hc hcsize hne htie
    rw [toBinary64_eq_finite_iff _ h] at hc
    obtain ⟨j, hj, hround, hle, hsame⟩ := exists_onPlaces_as_near hm hbefore hc (hcsize.trans hsize) hi
    obtain ⟨hnearest, heven⟩ := nearest_onPlaces hm hk hround
    rw [hvalue] at hne htie
    have hmagnitude : (Binary64.finite false m s).toRat = magnitude m s := rfl
    rw [hmagnitude] at htie
    have hcj := hsame (le_antisymm (htie.le.trans hnearest) hle)
    rw [hcj] at hne htie
    have hjk : j ≠ k := fun heq => hne (by rw [heq])
    rcases hshortest with ⟨-, heq⟩ | ⟨rfl, rfl, -⟩
    · rw [heq]
      exact heven hjk htie
    · exact absurd htie (ten_not_tied hm hk (by omega) hround)

end Chosen

end Decimal
end Questionnaire
