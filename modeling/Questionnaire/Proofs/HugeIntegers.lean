import Mathlib.Data.List.Basic
import Mathlib.Tactic.Positivity
import Mathlib.Tactic.Ring
import Questionnaire.Answers.Text

/-!
# Integers beyond all doubles

The text of a large number is that of the nearest double. From the middle between the largest finite double and
the power of two above it on, an integer rounds past all doubles and has no text.

* `Binary64.ofInt?_eq_none_iff`: which integers are too large.
* `Json.Overflows`: the values that are or hold one of them.
* `Json.integerText_eq_error_iff`: an integer that is too large is one without a text.
-/

namespace Questionnaire

/-! ## Integers beyond all doubles -/

namespace Binary64

/-- The least magnitude that rounds past the largest finite double: half a step above it. -/
def overflowBound : Nat := 2 ^ 1024 - 2 ^ 970

/-- A power by parts, for exponents at which it is not to be computed. -/
theorem pow_by_parts (n : Nat) {a b k : Nat} (h : k = a + b) : n ^ k = n ^ a * n ^ b := by rw [h, Nat.pow_add]

theorem overflowBound_eq : overflowBound = (2 ^ 54 - 1) * 2 ^ 970 := by
  rw [overflowBound, pow_by_parts 2 (show 1024 = 54 + 970 from rfl), Nat.sub_one_mul]

theorem unitsPerOne_pos : 0 < unitsPerOne := by
  rw [unitsPerOne]
  positivity

/-- Only a whole significand above the largest shift is carried out of range. -/
theorem pack_isFinite_iff (negative : Bool) (significand shift : Nat) :
    (pack negative significand shift).isFinite = true ↔
      shift < 2045 ∨ shift = 2045 ∧ significand ≠ 2 ^ 53 := by
  unfold pack
  by_cases hcarried : significand = 2 ^ 53
  · simp only [hcarried, if_true]
    split <;> simp [isFinite] <;> omega
  · simp only [hcarried, if_false]
    split <;> simp [isFinite] <;> omega

/-- Rounding a ratio depends on the ratio alone. -/
theorem roundDiv_mul_right (num den : Nat) {scale : Nat} (hscale : 0 < scale) :
    roundDiv (num * scale) (den * scale) = roundDiv num den := by
  have hlow : 2 * (num % den * scale) < den * scale ↔ 2 * (num % den) < den := by
    rw [← Nat.mul_assoc]
    exact Nat.mul_lt_mul_right hscale
  have hhigh : den * scale < 2 * (num % den * scale) ↔ den < 2 * (num % den) := by
    rw [← Nat.mul_assoc]
    exact Nat.mul_lt_mul_right hscale
  simp only [roundDiv, Nat.mul_div_mul_right _ _ hscale, Nat.mul_mod_mul_right, hlow, hhigh]

/-- A ratio rounds up to an even number from the middle below it on. -/
theorem roundDiv_eq_two_mul_iff {num den k : Nat} (h : num < 2 * k * den) :
    roundDiv num den = 2 * k ↔ (4 * k - 1) * den ≤ 2 * num := by
  have hden : 0 < den := Nat.pos_of_mul_pos_left (Nat.zero_lt_of_lt h)
  have hnum := Nat.div_add_mod num den
  have hrest := Nat.mod_lt num hden
  have hfloor : num / den < 2 * k := (Nat.div_lt_iff_lt_mul hden).mpr h
  have hk : 0 < 2 * k := Nat.zero_lt_of_lt hfloor
  by_cases hlast : num / den + 1 = 2 * k
  · -- the floor is odd, so the middle itself rounds up
    have hmiddle : (4 * k - 1) * den = 2 * (den * (num / den)) + den := by
      have hodd : 4 * k - 1 = 2 * (num / den) + 1 := by omega
      rw [hodd]
      ring
    rw [hmiddle]
    simp only [roundDiv]
    split_ifs <;> omega
  · -- further below, neither does the ratio round to it nor does it reach the middle
    have hbelow : roundDiv num den ≠ 2 * k := by
      simp only [roundDiv]
      split_ifs <;> omega
    have hsmall : den * (num / den) + den ≤ (2 * k - 1) * den := by
      rw [← Nat.mul_succ, Nat.mul_comm den]
      exact Nat.mul_le_mul_right den (by omega)
    have hstep : (4 * k - 1) * den = 2 * ((2 * k - 1) * den) + den := by
      have htwice : 4 * k - 1 = 2 * (2 * k - 1) + 1 := by omega
      rw [htwice]
      ring
    constructor
    · intro heq
      exact absurd heq hbelow
    · intro hle
      omega

/-- The double nearest to a natural number is finite exactly below the bound. -/
theorem ofRatio_one_isFinite_iff (negative : Bool) (n : Nat) :
    (ofRatio negative n 1).isFinite = true ↔ n < overflowBound := by
  have h971 := pow_by_parts 2 (show 971 = 1 + 970 from rfl)
  have h1023 := pow_by_parts 2 (show 1023 = 53 + 970 from rfl)
  have h1024 := pow_by_parts 2 (show 1024 = 54 + 970 from rfl)
  have hpos : 0 < 2 ^ 970 := by positivity
  simp only [ofRatio, Nat.div_one, Nat.one_mul, pack_isFinite_iff]
  rcases Nat.eq_zero_or_pos n with rfl | hn
  · simp only [Nat.zero_mul, Nat.log2_zero, overflowBound]
    omega
  · -- a unit is `2 ^ 1074` times smaller than one, which moves every power of two
    have hunits := unitsPerOne_pos
    have hlog (k : Nat) : (n * unitsPerOne).log2 < k + 1074 ↔ n < 2 ^ k := by
      have hsum (m : Nat) : 2 ^ (k + m) = 2 ^ k * 2 ^ m := Nat.pow_add 2 k m
      have hscaled : 2 ^ (k + 1074) = 2 ^ k * unitsPerOne := hsum 1074
      rw [Nat.log2_lt (Nat.mul_pos hn hunits).ne', hscaled]
      exact Nat.mul_lt_mul_right hunits
    have hbelow := hlog 1023
    have hbinade := hlog 1024
    by_cases hlast : (n * unitsPerOne).log2 = 2097
    · -- in the last binade the rounding decides, everywhere else the binade
      have hround : roundDiv (n * unitsPerOne) (2 ^ 2045) = roundDiv n (2 ^ 971) := by
        have hscaled : 2 ^ 2045 = 2 ^ 971 * unitsPerOne := by
          rw [unitsPerOne, pow_by_parts 2 (show 2045 = 971 + 1074 from rfl)]
        rw [hscaled]
        exact roundDiv_mul_right n (2 ^ 971) hunits
      have htop : roundDiv n (2 ^ 971) = 2 * 2 ^ 52 ↔ (4 * 2 ^ 52 - 1) * 2 ^ 971 ≤ 2 * n :=
        roundDiv_eq_two_mul_iff (by omega)
      rw [hlast, hround, overflowBound]
      omega
    · rw [overflowBound]
      omega

/-- **An integer has no nearest finite double exactly from the bound on.** -/
theorem ofInt?_eq_none_iff (n : Int) : ofInt? n = none ↔ overflowBound ≤ n.natAbs := by
  have hfinite := ofRatio_one_isFinite_iff (n < 0) n.natAbs
  rw [← Nat.not_lt, ← hfinite]
  -- opened as a function: opened at `n`, the double would be computed to tell which case it is
  have hdef : ofInt? = ofInt? := rfl
  conv_rhs at hdef => delta ofInt?
  rw [hdef]
  beta_reduce
  generalize ofRatio (n < 0) n.natAbs 1 = x
  cases x <;> simp [isFinite]

example : ofInt? (2 ^ 1024 - 2 ^ 970) = none ∧
    ofInt? (2 ^ 1024 - 2 ^ 970 - 1) = some (.finite false (2 ^ 53 - 1) 2045) := by
  decide +kernel

end Binary64

/-! ## Values that hold them -/

namespace Json

/-- Is the value the integer, or a list or object that holds it at any depth? -/
inductive Holds (n : Int) : Json → Prop
  | itself : Holds n (.int n)
  | item {v : Json} {items : List Json} : v ∈ items → Holds n v → Holds n (.arr items)
  | entry {k : Text} {v : Json} {fields : Fields} : (k, v) ∈ fields → Holds n v → Holds n (.obj fields)

/-- Is or holds the value an integer too large for a double? -/
def Overflows (v : Json) : Prop := ∃ n : Int, Binary64.overflowBound ≤ n.natAbs ∧ v.Holds n

/-- An integer overflows from the bound on. -/
@[simp] theorem overflows_int (n : Int) : (Json.int n).Overflows ↔ Binary64.overflowBound ≤ n.natAbs := by
  constructor
  · rintro ⟨_, hbound, hholds⟩
    cases hholds
    exact hbound
  · intro hbound
    exact ⟨n, hbound, .itself⟩

/-- A list overflows if one of its items does. -/
@[simp] theorem overflows_arr (items : List Json) : (Json.arr items).Overflows ↔ ∃ v ∈ items, v.Overflows := by
  constructor
  · rintro ⟨n, hbound, hholds⟩
    cases hholds with
    | item hmem hv => exact ⟨_, hmem, n, hbound, hv⟩
  · rintro ⟨v, hmem, n, hbound, hv⟩
    exact ⟨n, hbound, .item hmem hv⟩

/-- An object overflows if one of its values does. -/
@[simp] theorem overflows_obj (fields : Fields) :
    (Json.obj fields).Overflows ↔ ∃ entry ∈ fields, entry.2.Overflows := by
  constructor
  · rintro ⟨n, hbound, hholds⟩
    cases hholds with
    | entry hmem hv => exact ⟨_, hmem, n, hbound, hv⟩
  · rintro ⟨⟨k, v⟩, hmem, n, hbound, hv⟩
    exact ⟨n, hbound, .entry hmem hv⟩

/-- Of the other values none holds an integer. -/
theorem not_overflows {v : Json} (hint : ∀ n, v ≠ .int n) (harr : ∀ items, v ≠ .arr items)
    (hobj : ∀ fields, v ≠ .obj fields) : ¬ v.Overflows := by
  rintro ⟨n, -, hholds⟩
  cases hholds with
  | itself => exact hint n rfl
  | item => exact harr _ rfl
  | entry => exact hobj _ rfl

@[simp] theorem not_overflows_null : ¬ Json.null.Overflows := not_overflows (by simp) (by simp) (by simp)

@[simp] theorem not_overflows_bool (b : Bool) : ¬ (Json.bool b).Overflows :=
  not_overflows (by simp) (by simp) (by simp)

@[simp] theorem not_overflows_float (x : Binary64) : ¬ (Json.float x).Overflows :=
  not_overflows (by simp) (by simp) (by simp)

@[simp] theorem not_overflows_str (s : Text) : ¬ (Json.str s).Overflows :=
  not_overflows (by simp) (by simp) (by simp)

/-- A number below `10²¹` has all its digits, and a double is far from its range there. -/
theorem integerText_eq_error_iff {n : Int} {e : TextError} :
    integerText n = .error e ↔ e = .integerTooLarge ∧ (Json.int n).Overflows := by
  rw [overflows_int]
  unfold integerText
  split
  · rename_i hsmall
    have hbound : 10 ^ 21 ≤ Binary64.overflowBound := by
      have hlarge : 2 ^ 70 ≤ 2 ^ 970 := by gcongr <;> decide
      rw [Binary64.overflowBound_eq]
      omega
    simp only [reduceCtorEq, false_iff, not_and]
    omega
  · rw [← Binary64.ofInt?_eq_none_iff]
    cases Binary64.ofInt? n <;> simp [eq_comm]

end Json

end Questionnaire
