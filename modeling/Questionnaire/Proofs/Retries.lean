import Mathlib.Algebra.Order.Ring.WithTop
import Mathlib.Data.ENat.Lattice
import Mathlib.Tactic.IntervalCases
import Questionnaire.Proofs.ScaledDoubles
import Questionnaire.Proofs.TransientErrors

/-!
# How a query is repeated

A query is called again after each transient error until the limit is reached, and the last outcome is what comes of
it. Between two calls there is a pause: the first delay, doubled each time, and never more than four seconds. Up to 1024
repetitions the pauses are exact, since doubling a double changes nothing but its exponent.

* `Json.Lasts`: the number of seconds for which a value stands.
* `Retry.delay_lasts`: the pause after a call.
* `Retry.Ends`, `Retry.firstSettled`: which call is the last one.
* `Retry.go_repeats`: what a run of calls does, from one step by `Retry.go_succ_of_repeatable`.
* `retries_until_settled`: calls, results and pauses of a query with its repetitions.
-/

namespace Questionnaire

/-! ## Numbers of seconds -/

/-- Does a value stand for a number of seconds, which may be infinite? -/
inductive Json.Lasts : Json → WithTop ℚ → Prop where
  | whole (n : Int) : Lasts (.int n) (n : ℚ)
  | truth (b : Bool) : Lasts (.bool b) (Json.ofTruth b : ℚ)
  | double {x : Binary64} (finite : x.isFinite = true) (proper : x.Proper) : Lasts (.float x) x.toRat
  | infinite : Lasts (.float (.infinite false)) ⊤

namespace Retry

/-- The pause after a call, counted from zero: the first one doubled each time, at most four seconds. -/
def pause (first : WithTop ℚ) (i : Nat) : WithTop ℚ := min (first * (2 ^ i : ℚ)) 4

/-- The pause after a finite first delay, as a rational number. -/
theorem pause_coe (q : ℚ) (i : Nat) : pause q i = (min (q * 2 ^ i) 4 : ℚ) := by
  rw [pause, WithTop.coe_min, WithTop.coe_mul]
  rfl

/-- An endless first delay is cut to four seconds at every pause. -/
theorem pause_top (i : Nat) : pause ⊤ i = (4 : ℚ) := by
  have hpow : ((2 ^ i : ℚ) : WithTop ℚ) ≠ 0 := by exact_mod_cast (pow_pos (two_pos (α := ℚ)) i).ne'
  rw [pause, WithTop.top_mul hpow, min_eq_right le_top]
  rfl

/-- No pause is longer than four seconds. -/
theorem pause_le (first : WithTop ℚ) (i : Nat) : pause first i ≤ 4 := min_le_right _ _

/-- Pauses do not get shorter. -/
theorem pause_mono {first : WithTop ℚ} (h : 0 ≤ first) {i j : Nat} (hij : i ≤ j) : pause first i ≤ pause first j := by
  cases first with
  | top => rw [pause_top, pause_top]
  | coe q =>
    have hq : 0 ≤ q := WithTop.coe_le_coe.mp h
    have hpow : (2 : ℚ) ^ i ≤ 2 ^ j := pow_le_pow_right₀ one_le_two hij
    rw [pause_coe, pause_coe, WithTop.coe_le_coe]
    exact min_le_min_right 4 (mul_le_mul_of_nonneg_left hpow hq)

/-- The first double of a binade lasts a power of two. -/
theorem lasts_binade {x : Binary64} {k : Nat} (hk : k ≤ 1074) (hx : x = .finite false (2 ^ 52) (1074 - k)) {q : ℚ}
    (hq : q * 2 ^ k = 2 ^ 52) : (Json.float x).Lasts q := by
  have hstep := Binary64.mul_step_of_le (Nat.sub_le 1074 k)
  have hvalue : x.toRat = q := by
    rw [hx, Binary64.toRat, Binary64.magnitude_eq]
    rw [Nat.sub_sub_self hk] at hstep
    have hdigits : ((2 ^ 52 : Nat) : ℚ) = q * 2 ^ k := by rw [hq]; norm_num
    push_cast at hstep
    rw [hdigits, mul_assoc, hstep, mul_one]
  rw [← hvalue]
  subst hx
  exact .double rfl ⟨by decide, .inr (Nat.le_refl _), (Nat.sub_le 1074 k).trans (by decide)⟩

/-- The longest delay is four seconds. -/
theorem lasts_maxDelay : maxDelay.Lasts (4 : ℚ) :=
  lasts_binade (k := 50) (by decide) (by decide +kernel) (by norm_num)

/-- A whole number of seconds is slept exactly, up to four. -/
theorem wholeDelay_lasts {n : Int} (h : 0 ≤ n) : ∃ d, wholeDelay n = .ok d ∧ d.Lasts (min (n : ℚ) 4 : ℚ) := by
  unfold wholeDelay
  by_cases hlong : 4 < n
  · have hmin : min (n : ℚ) 4 = 4 := min_eq_right (by exact_mod_cast hlong.le)
    rw [if_pos hlong, hmin]
    exact ⟨maxDelay, rfl, lasts_maxDelay⟩
  · have hmin : min (n : ℚ) 4 = n := min_eq_left (by exact_mod_cast not_lt.mp hlong)
    have hshort : Json.isTellable n = true := by interval_cases n <;> decide
    rw [if_neg hlong, if_pos hshort, hmin]
    exact ⟨.int n, rfl, .whole n⟩

/-- A double is doubled exactly while that matters. -/
theorem delay_float {x : Binary64} (hfinite : x.isFinite = true) (hproper : x.Proper) (hx : 0 ≤ x.toRat)
    {attempt : Nat} (hattempt : attempt < maxDoublings) :
    ∃ d, delay (.float x) attempt = .ok d ∧ d.Lasts (min (x.toRat * 2 ^ attempt) 4 : ℚ) := by
  simp only [delay, if_pos hattempt]
  rcases Binary64.scaleBy_cases hfinite hproper hx (Nat.le_of_lt_succ hattempt) with
    ⟨hfinite', hproper', hvalue⟩ | ⟨hlarge, hgreater⟩
  · by_cases hlong : 4 < (x.scaleBy attempt).toRat
    · rw [if_pos ((Binary64.gtRatio_four_iff hfinite').mpr hlong), min_eq_right (hvalue ▸ hlong.le)]
      exact ⟨maxDelay, rfl, lasts_maxDelay⟩
    · rw [if_neg (mt (Binary64.gtRatio_four_iff hfinite').mp hlong), ← hvalue, min_eq_left (not_lt.mp hlong)]
      exact ⟨_, rfl, .double hfinite' hproper'⟩
  · rw [if_pos hgreater, min_eq_right hlarge.le]
    exact ⟨maxDelay, rfl, lasts_maxDelay⟩

/-- The delay after a call is the pause. -/
theorem delay_lasts {base : Json} {first : WithTop ℚ} (h : base.Lasts first) (hfirst : 0 ≤ first) {attempt : Nat}
    (hattempt : attempt < maxDoublings) : ∃ d, delay base attempt = .ok d ∧ d.Lasts (pause first attempt) := by
  cases h with
  | whole n =>
    have hn : 0 ≤ n := by exact_mod_cast WithTop.coe_le_coe.mp hfirst
    have hcast : (n : ℚ) * 2 ^ attempt = (n * 2 ^ attempt : Int) := by push_cast; rfl
    rw [pause_coe, hcast]
    exact wholeDelay_lasts (mul_nonneg hn (by positivity))
  | truth b =>
    have hb : 0 ≤ Json.ofTruth b := by cases b <;> decide
    have hcast : (Json.ofTruth b : ℚ) * 2 ^ attempt = (Json.ofTruth b * 2 ^ attempt : Int) := by push_cast; rfl
    rw [pause_coe, hcast]
    exact wholeDelay_lasts (mul_nonneg hb (by positivity))
  | double hfinite hproper =>
    rw [pause_coe]
    exact delay_float hfinite hproper (WithTop.coe_le_coe.mp hfirst) hattempt
  | infinite =>
    rw [pause_top, delay, if_pos hattempt]
    exact ⟨maxDelay, rfl, lasts_maxDelay⟩

/-! ## The last call -/

section

variable {σ α : Type} (query : σ → Except Text α × σ)

/-- The state after some calls. -/
def stateAfter : Nat → σ → σ
  | 0, s => s
  | n + 1, s => stateAfter n (query s).2

/-- The outcome of a call, counted from zero, if the query is called again and again. -/
def outcome (s : σ) (n : Nat) : Except Text α := (query (stateAfter query n s)).1

end

section

variable {α : Type}

/-- Is an outcome an error after which a query is tried again? -/
def Repeatable : Except Text α → Prop
  | .error e => isTransient e = true
  | .ok _ => False

/-- The first of some outcomes that is no transient error; infinite if they all are. -/
noncomputable def firstSettled (outcomes : Nat → Except Text α) : ℕ∞ :=
  ⨅ (i : Nat) (_ : ¬ Repeatable (outcomes i)), (i : ℕ∞)

/-- Is a call the last one: is it the first whose outcome is no transient error, or is the limit reached? -/
structure Ends (outcomes : Nat → Except Text α) (limit m : Nat) : Prop where
  within : m ≤ limit
  before : ∀ i < m, Repeatable (outcomes i)
  settled : m < limit → ¬ Repeatable (outcomes m)

/-- The attempt at which a run ends is the first settled one, unless the limit comes before. -/
theorem Ends.eq_min {outcomes : Nat → Except Text α} {limit m : Nat} (h : Ends outcomes limit m) :
    (min (firstSettled outcomes) limit).toNat = m := by
  have hmin : min (firstSettled outcomes) limit = (m : ℕ∞) := by
    -- Below the limit the run ends only at a settled outcome; before its end no outcome is settled.
    apply le_antisymm
    · rcases h.within.lt_or_eq with hlt | rfl
      · exact (min_le_left _ _).trans (iInf₂_le m (h.settled hlt))
      · exact min_le_right _ _
    · apply le_min
      · apply le_iInf₂
        intro i hi
        rw [Nat.cast_le]
        by_contra hlt
        exact hi (h.before i (not_le.mp hlt))
      · exact Nat.cast_le.mpr h.within
  rw [hmin, ENat.toNat_natCast]

end

/-! ## Runs of calls -/

section

variable {σ α : Type} {query : σ → Except Text α × σ} {base : Json} {limit left attempt : Nat} {s : σ}

/-- A query is not called again after the last repetition. -/
theorem go_zero : go base limit query 0 attempt s = ⟨(query s).1.mapError .failed, (query s).2, 1, [], []⟩ := rfl

/-- Nor after an outcome that is no transient error. -/
theorem go_succ_of_settled (h : ¬ Repeatable (query s).1) :
    go base limit query (left + 1) attempt s = ⟨(query s).1.mapError .failed, (query s).2, 1, [], []⟩ := by
  rw [go]
  rcases hquery : query s with ⟨e | a, s'⟩
  · rw [hquery] at h
    have hlasting : ¬ isTransient e = true := h
    simp only [if_neg hlasting]
    rfl
  · rfl

/-- After a transient error there is a pause, and then the query is called again. -/
theorem go_succ_of_repeatable {d : Json} (h : Repeatable (query s).1) (hdelay : delay base attempt = .ok d) :
    go base limit query (left + 1) attempt s =
      let rest := go base limit query left (attempt + 1) (query s).2
      ⟨rest.result, rest.state, rest.calls + 1, d :: rest.delays, notice limit attempt d :: rest.notices⟩ := by
  rw [go]
  rcases hquery : query s with ⟨e | a, s'⟩
  · rw [hquery] at h
    have htransient : isTransient e = true := h
    simp only [htransient, if_true, hdelay]
  · rw [hquery] at h
    exact h.elim

/-- What a run of calls does that ends with a certain one. -/
structure Repeats (query : σ → Except Text α × σ) (s : σ) (first : WithTop ℚ) (attempt m : Nat)
    (done : Attempts σ α) : Prop where
  calls : done.calls = m + 1
  state : done.state = stateAfter query (m + 1) s
  result : done.result = (outcome query s m).mapError .failed
  delays : List.Forall₂ Json.Lasts done.delays ((List.range m).map fun i => pause first (attempt + i))

/-- A run of calls ends with the last one and pauses before each of the others. -/
theorem go_repeats {first : WithTop ℚ} (hbase : base.Lasts first) (hfirst : 0 ≤ first)
    (hroom : attempt + left ≤ maxDoublings) :
    ∃ m, Ends (outcome query s) left m ∧ Repeats query s first attempt m (go base limit query left attempt s) := by
  -- by induction on the repetitions that are left: after the first call there is a run with one fewer
  induction left generalizing attempt s with
  | zero =>
    refine ⟨0, ⟨Nat.le_refl _, nofun, nofun⟩, ?_⟩
    rw [go_zero]
    exact ⟨rfl, rfl, rfl, .nil⟩
  | succ left ih =>
    by_cases hrepeatable : Repeatable (query s).1
    · have hnow : attempt < maxDoublings := by omega
      have hlater : attempt + 1 + left ≤ maxDoublings := by omega
      rcases delay_lasts hbase hfirst hnow with ⟨d, hdelay, hlasts⟩
      rcases ih (s := (query s).2) hlater with ⟨m, hends, hrest⟩
      refine ⟨m + 1, ⟨?_, ?_, ?_⟩, ?_⟩
      · exact Nat.succ_le_succ hends.within
      · intro i hi
        cases i with
        | zero => exact hrepeatable
        | succ i => exact hends.before i (Nat.lt_of_succ_lt_succ hi)
      · intro hlt
        exact hends.settled (Nat.lt_of_succ_lt_succ hlt)
      · rw [go_succ_of_repeatable hrepeatable hdelay]
        refine ⟨congrArg (· + 1) hrest.calls, hrest.state, hrest.result, ?_⟩
        rw [List.range_succ_eq_map, List.map_cons, List.map_map]
        refine .cons hlasts ?_
        -- the pauses of the run that is left are those of this one from the second on
        have hshift : (fun i => pause first (attempt + i)) ∘ Nat.succ = fun i => pause first (attempt + 1 + i) := by
          funext i
          simp only [Function.comp_apply]
          congr 1
          omega
        rw [hshift]
        exact hrest.delays
    · refine ⟨0, ⟨Nat.zero_le _, nofun, fun _ => hrepeatable⟩, ?_⟩
      rw [go_succ_of_settled hrepeatable]
      exact ⟨rfl, rfl, rfl, .nil⟩

end

end Retry

open Retry

/-- **How a query is repeated.** A query is called up to the first outcome that is no transient error, or up to the
limit of at most 1024 repetitions, and its last outcome is the result: what it gave or the very error. After each call
but the last there is a pause, and the pause after call `i` lasts `2 ^ i` times as long as the first delay, or four
seconds if that is less; so pauses never get shorter and never last more than four seconds. An error is transient if
its text holds one of the marks in whatever case. -/
theorem retries_until_settled {σ α : Type} {limit : Nat} {base : Json} {first : WithTop ℚ} (hlimit : limit ≤ 1024)
    (hbase : base.Lasts first) (hfirst : 0 ≤ first) (query : σ → Except Text α × σ) (s : σ) :
    let outcomes := outcome query s
    let m := (min (firstSettled outcomes) limit).toNat
    let done := run limit base query s
    let pauses := (List.range m).map fun i => min (first * (2 ^ i : ℚ)) 4
    done.calls = m + 1 ∧ done.state = stateAfter query (m + 1) s ∧ done.result = (outcomes m).mapError .failed ∧
    done.delays.length = m ∧ List.Forall₂ Json.Lasts done.delays pauses ∧
    pauses.Pairwise (· ≤ ·) ∧ (∀ pause ∈ pauses, pause ≤ 4) ∧
    ∀ error : Text, isTransient error = true ↔ ∃ mark ∈ transientMarks, mark <:+: error.lower := by
  intro outcomes m done pauses
  have hroom : 0 + limit ≤ maxDoublings := by
    rw [Nat.zero_add]
    exact hlimit
  -- the run ends with the first call that settles it or with the limit, which determines how many there are
  have hrun : ∃ m, Ends outcomes limit m ∧ Repeats query s first 0 m done := go_repeats hbase hfirst hroom
  rcases hrun with ⟨m', hends, hdone⟩
  obtain rfl : m = m' := hends.eq_min
  have hpauses : List.Forall₂ Json.Lasts done.delays pauses := by
    have hdelays := hdone.delays
    simp only [Nat.zero_add] at hdelays
    exact hdelays
  refine ⟨hdone.calls, hdone.state, hdone.result, ?_, hpauses, ?_, ?_, fun _ => isTransient_iff⟩
  · rw [hpauses.length_eq, List.length_map, List.length_range]
  · apply List.Pairwise.map _ _ List.pairwise_lt_range
    intro i j hij
    exact pause_mono hfirst hij.le
  · intro duration hduration
    rcases List.mem_map.mp hduration with ⟨i, -, rfl⟩
    exact pause_le first i

/-- The first delay of the store is half a second, exactly. -/
theorem lasts_storeBase : storeBase.Lasts (1 / 2 : ℚ) :=
  lasts_binade (k := 53) (by decide) (by decide +kernel) (by norm_num)

/-- Two dropped connections and an answer: three calls, with pauses of half a second and of a second. -/
theorem retries_until_settled_of_two_resets :
    let script : List (Except Text Nat) :=
      [.error "[Errno 104] Connection RESET by peer", .error "Server disconnected", .ok 7]
    let done := run 3 storeBase scripted script
    storeBase.Lasts (1 / 2 : ℚ) ∧ (0 : WithTop ℚ) ≤ (1 / 2 : ℚ) ∧
    done.calls = 3 ∧ done.result = .ok 7 ∧ List.Forall₂ Json.Lasts done.delays [(1 / 2 : ℚ), (1 : ℚ)] := by
  intro script done
  have hfirst : (0 : WithTop ℚ) ≤ (1 / 2 : ℚ) := by exact_mod_cast (by norm_num : (0 : ℚ) ≤ 1 / 2)
  rcases retries_until_settled (show 3 ≤ 1024 by decide) lasts_storeBase hfirst scripted script with
    ⟨hcalls, -, -, -, hdelays, -⟩
  have hthree : (run 3 storeBase scripted script).calls = 3 := by decide +kernel
  -- The run made three calls, so its last attempt has index 2 and it slept twice.
  have hlast : (min (firstSettled (outcome scripted script)) (3 : Nat)).toNat = 2 := by
    rw [hthree] at hcalls
    omega
  have hpauses : ((List.range 2).map fun i => min (((1 / 2 : ℚ) : WithTop ℚ) * (2 ^ i : ℚ)) 4) =
      [((1 / 2 : ℚ) : WithTop ℚ), ((1 : ℚ) : WithTop ℚ)] := by
    have hpause : ∀ i, min (((1 / 2 : ℚ) : WithTop ℚ) * (2 ^ i : ℚ)) 4 = (min (1 / 2 * 2 ^ i) 4 : ℚ) :=
      pause_coe (1 / 2)
    simp only [hpause, List.range_succ, List.range_zero, List.nil_append, List.map_append, List.map_cons, List.map_nil]
    norm_num
  rw [hlast, hpauses] at hdelays
  exact ⟨lasts_storeBase, hfirst, hthree, by decide +kernel, hdelays⟩

end Questionnaire
