import Questionnaire.Proofs.Loading
import Questionnaire.Proofs.PrintedNumbers
import Questionnaire.Proofs.RelaxedRule

/-!
# Stored values and the answers they are for

A condition keeps the text of a value, written as in messages, and an answer is compared by the text that a browser
prints for it. For integers and whole doubles these part at `10²¹`, where only the browser turns to an exponent; for
fractions they part where the first digit is five to nine places behind the point.

* `Decimal.render_message_eq_iff`: where two layouts of one decimal are the same.
* `Binary64.text_message_eq_iff`: the same for fractions, told by their values.
* `Json.MatchesItself`: the values with one text for both; `Json.answerText_eq_valueText_iff`: there are no others.
* `stored_value_matches_itself_iff`: which values a loaded condition is met by.
-/

namespace Questionnaire

open Binary64 (Regular Rounds magnitude)

/-! ## Two layouts of one decimal -/

namespace Decimal

variable {d : Decimal}

/-- A fraction below `10¹⁶` is written alike in messages and by a browser, unless its first digit is five to nine
places behind the point: there the one has an exponent and the other none, or the exponents have two digits and one. -/
theorem render_message_eq_iff (hfraction : d.exponent < 0) (hsmall : (d.size - 1 + d.exponent : Int) ≤ 15) :
    d.render .message = d.render .browser ↔
      (d.size - 1 + d.exponent : Int) < -9 ∨ -4 ≤ (d.size - 1 + d.exponent : Int) := by
  have hsize : (digitsOf d.digits).length = d.size := rfl
  have hwhole : ¬ 0 ≤ d.exponent := not_le.mpr hfraction
  simp only [render, Layout.message, Layout.browser, hsize, if_neg hwhole]
  generalize (d.size - 1 + d.exponent : Int) = first at *
  by_cases hfar : first < -6
  · -- both with an exponent, of which one has at least two digits
    have hmessage : first < -4 ∨ 15 < first := by omega
    have hbrowser : first < -6 ∨ 20 < first := by omega
    have hlength := length_digitsOf_le_iff (n := first.natAbs) (k := 1) one_pos
    have hpos := length_digitsOf_pos first.natAbs
    rw [if_pos hmessage, if_pos hbrowser, String.ofList_inj, List.append_cancel_left_eq, List.cons.injEq,
      List.cons.injEq, List.append_cancel_right_eq, List.replicate_left_inj]
    simp only [true_and]
    omega
  · have hbrowser : ¬ (first < -6 ∨ 20 < first) := by omega
    rw [if_neg hbrowser]
    by_cases hnear : -4 ≤ first
    · have hmessage : ¬ (first < -4 ∨ 15 < first) := by omega
      rw [if_neg hmessage]
      exact iff_of_true rfl (.inr hnear)
    · -- one with an exponent, the other with zeros behind the point
      have hmessage : first < -4 ∨ 15 < first := by omega
      have hpoint : ¬ 0 ≤ first := by omega
      rw [if_pos hmessage, if_neg hpoint, String.ofList_inj]
      refine iff_of_false (fun heq => ?_) (by omega)
      have hmem : 'e' ∈ '0' :: '.' :: (List.replicate (-first - 1).toNat '0' ++ digitsOf d.digits) := by
        rw [← heq]
        simp
      simp [not_mem_digitsOf] at hmem

end Decimal

/-! ## Doubles as condition values -/

namespace Binary64

variable {x : Binary64}

/-- A double has an integer exactly if its value is one. -/
theorem toInt?_eq_some_iff (hfinite : x.isFinite = true) {n : Int} : x.toInt? = some n ↔ x.toRat = n := by
  obtain ⟨units, hunits, hvalue⟩ : ∃ units : Int, x.scaled = some units ∧ x.toRat = units / (unitsPerOne : Nat) := by
    cases x with
    | nan => cases hfinite
    | infinite => cases hfinite
    | finite negative m s =>
      cases negative
      · exact ⟨(m * 2 ^ s : Nat), rfl, by rw [toRat, magnitude, Int.cast_natCast]⟩
      · exact ⟨-(m * 2 ^ s : Nat), rfl, by rw [toRat, magnitude, Int.cast_neg, Int.cast_natCast, neg_div]⟩
  have hpos := unitsPerOne_pos
  have hpos' : ((unitsPerOne : Nat) : ℚ) ≠ 0 := (Nat.cast_pos.mpr hpos).ne'
  rw [toInt?, hunits, hvalue, div_eq_iff hpos']
  generalize unitsPerOne = one at *
  have hcast : (units : ℚ) = n * (one : Nat) ↔ units = n * (one : Int) := by exact_mod_cast Iff.rfl
  -- in units, the value is an integer exactly if those in one divide it
  rw [hcast]
  have hne : (one : Int) ≠ 0 := Int.natCast_ne_zero.mpr hpos.ne'
  constructor
  · intro h
    simp only [Option.ite_none_right_eq_some, Option.some.injEq] at h
    rw [← h.2, Int.ediv_mul_cancel_of_emod_eq_zero h.1]
  · rintro rfl
    simp [Int.mul_ediv_cancel _ hne]

/-- The sign of a double does not change its magnitude. -/
theorem abs_toRat_finite (negative : Bool) (m s : Nat) : |(Binary64.finite negative m s).toRat| = magnitude m s := by
  cases negative <;> simp [toRat, abs_of_nonneg (magnitude_nonneg m s)]

/-- A double is a whole number exactly if its magnitude is. -/
theorem exists_toRat_eq_iff {negative : Bool} {m s : Nat} :
    (∃ n : Int, (Binary64.finite negative m s).toRat = n) ↔ ∃ k : Nat, magnitude m s = k := by
  constructor
  · rintro ⟨n, hn⟩
    exact ⟨n.natAbs, by rw [← abs_toRat_finite negative, hn, Nat.cast_natAbs, Int.cast_abs]⟩
  · rintro ⟨k, hk⟩
    cases negative
    · exact ⟨k, by simp [toRat, hk]⟩
    · exact ⟨-k, by simp [toRat, hk]⟩

/-- The texts of one double in two layouts differ as those of its decimal do. -/
theorem text_eq_text_iff {negative : Bool} {m s : Nat} (hm : 0 < m) (layout layout' : Decimal.Layout) :
    (Binary64.finite negative m s).text layout = (Binary64.finite negative m s).text layout' ↔
      (Decimal.shortest m s).render layout = (Decimal.shortest m s).render layout' := by
  cases m with
  | zero => cases hm
  | succ m => exact String.append_right_inj _

/-- **A fraction has the same text in messages and from a browser** unless its first digit is five to nine places
behind the point. -/
theorem text_message_eq_iff (hfinite : x.isFinite = true) (hproper : x.Proper)
    (hfraction : ¬ ∃ n : Int, x.toRat = n) :
    x.text .message = x.text .browser ↔ |x.toRat| < 10 ^ (-9 : Int) ∨ 10 ^ (-4 : Int) ≤ |x.toRat| := by
  cases x with
  | nan => cases hfinite
  | infinite => cases hfinite
  | finite negative m s =>
    rw [exists_toRat_eq_iff] at hfraction
    have hm : 0 < m := by
      by_contra hzero
      rw [Nat.eq_zero_of_not_pos hzero, magnitude_zero] at hfraction
      exact hfraction ⟨0, Nat.cast_zero.symm⟩
    have hchosen := Decimal.shortest_chosenFor hm hproper
    have hdigits := Decimal.digits_pos_of_rounds hm (hchosen.rounds hproper)
    have hexponent : (Decimal.shortest m s).exponent < 0 :=
      not_le.mp (mt (hchosen.exponent_nonneg_iff hm hproper).mp hfraction)
    have hsmall : ((Decimal.shortest m s).size - 1 + (Decimal.shortest m s).exponent : Int) ≤ 15 := by
      have hbound : magnitude m s < 10 ^ ((16 : Nat) : Int) := by
        rw [Decimal.ten_zpow_natCast]
        by_contra hlarge
        have hpow : ((2 ^ 53 : Nat) : ℚ) ≤ (10 ^ 16 : Nat) := Nat.cast_le.mpr (by decide)
        exact hfraction (whole_of_ge hproper (hpow.trans (not_lt.mp hlarge)))
      have hlt := hchosen.lt_pow hproper hbound fun hrounds => hfraction <| by
        rw [Decimal.ten_zpow_natCast] at hrounds
        exact hrounds.whole
      have := mt (Decimal.pow_le_value_iff hdigits).mpr (not_le.mpr hlt)
      omega
    -- the doubles that the two powers round to, which are not below them
    have hregular : Regular 7378697629483821 1008 := ⟨by decide, .inr (by decide), by decide⟩
    obtain ⟨hrounds, hle⟩ := Decimal.rounds_ten_zpow (a := 7378697629483821) (k := 4)
      (show 1074 = 1008 + 66 from rfl) (by decide) (by decide)
    have hregular' : Regular 4835703278458517 992 := ⟨by decide, .inr (by decide), by decide⟩
    obtain ⟨hrounds', hle'⟩ := Decimal.rounds_ten_zpow (a := 4835703278458517) (k := 9)
      (show 1074 = 992 + 82 from rfl) (by decide) (by decide)
    have hfour := (hchosen.pow_le_iff hproper hregular hrounds hle).symm.trans (Decimal.pow_le_value_iff hdigits)
    have hnine := (hchosen.pow_le_iff hproper hregular' hrounds' hle').symm.trans (Decimal.pow_le_value_iff hdigits)
    push_cast at hfour hnine
    rw [text_eq_text_iff hm, Decimal.render_message_eq_iff hexponent hsmall, abs_toRat_finite, ← not_le, ← not_le,
      hnine, hfour]

end Binary64

/-! ## Condition values and their answers -/

namespace Json

/-- The values that a condition keeps: texts, truth values, integers, and the doubles that there are but for NaN and
the infinities. -/
inductive IsStored : Json → Prop
  | str (s : Text) : IsStored (.str s)
  | bool (b : Bool) : IsStored (.bool b)
  | int (n : Int) : IsStored (.int n)
  | float {x : Binary64} (hfinite : x.isFinite = true) (hproper : x.Proper) : IsStored (.float x)

/-- Does a value have one text as a condition value and as an answer? Whole numbers do below `10²¹`, fractions do but
for those from `10⁻⁹` up to below `10⁻⁴`. -/
def MatchesItself : Json → Prop
  | .str _ => True
  | .bool _ => True
  | .int n => n.natAbs < 10 ^ 21
  | .float x =>
    (∃ n : Int, x.toRat = n ∧ n.natAbs < 10 ^ 21) ∨
      (¬ ∃ n : Int, x.toRat = n) ∧ (|x.toRat| < 10 ^ (-9 : Int) ∨ 10 ^ (-4 : Int) ≤ |x.toRat|)
  | _ => False

/-- An integer is printed with all its digits below `10²¹`, and not from there on. -/
theorem intText_eq_integerText_iff (n : Int) : integerText n = .ok (intText n) ↔ n.natAbs < 10 ^ 21 := by
  rcases Nat.lt_or_ge n.natAbs (10 ^ 21) with hsmall | hlarge
  · exact iff_of_true (integerText_of_lt hsmall) hsmall
  · refine iff_of_false (fun heq => ?_) (Nat.not_lt.mpr hlarge)
    cases hx : Binary64.ofInt? n with
    | none =>
      have hoverflows : (Json.int n).Overflows := (overflows_int n).mpr ((Binary64.ofInt?_eq_none_iff n).mp hx)
      rw [integerText_eq_error_iff.mpr ⟨rfl, hoverflows⟩] at heq
      cases heq
    | some x =>
      rw [integerText_of_ge hx hlarge, Except.ok.injEq] at heq
      exact intText_ne_of_large hx hlarge heq.symm

/-- A double that is an integer has its digits below `10²¹`, and an exponent from there on. -/
theorem intText_eq_floatText_iff {x : Binary64} {n : Int} (hfinite : x.isFinite = true) (hproper : x.Proper)
    (hn : x.toRat = n) : floatText x = intText n ↔ n.natAbs < 10 ^ 21 := by
  rw [floatText, (Binary64.toInt?_eq_some_iff hfinite).mpr hn]
  simp only []
  split
  · rename_i hsmall
    exact iff_of_true rfl hsmall
  · rename_i hlarge
    refine iff_of_false (fun heq => ?_) hlarge
    cases x with
    | nan => cases hfinite
    | infinite => cases hfinite
    | finite negative m s =>
      have hmagnitude : magnitude m s = n.natAbs := by
        rw [← Binary64.abs_toRat_finite negative, hn, Nat.cast_natAbs, Int.cast_abs]
      have hmem := mem_text_browser negative hproper
        (hmagnitude ▸ Nat.cast_le.mpr (Nat.not_lt.mp hlarge))
      exact not_mem_intText n (heq ▸ hmem)

/-- **A stored value matches itself** exactly if the text that is stored for it is the one it has as an answer. -/
theorem answerText_eq_valueText_iff [Stack] {v : Json} (h : v.IsStored) :
    (∃ t, v.answerText = .ok t ∧ Condition.valueText? v = some t) ↔ v.MatchesItself := by
  cases h with
  | str s => exact iff_of_true ⟨s, rfl, rfl⟩ trivial
  | bool b => exact iff_of_true ⟨boolText b, rfl, rfl⟩ trivial
  | int n =>
    simp only [answerText, Condition.valueText?, Option.some.injEq, exists_eq_right', MatchesItself]
    exact intText_eq_integerText_iff n
  | @float x hfinite hproper =>
    simp only [answerText, Condition.valueText?, hfinite, if_true, Except.ok.injEq, MatchesItself, exists_eq_left']
    cases hint : x.toInt? with
    | some n =>
      -- a whole number, which is stored by its digits: they are what a browser prints below the bound
      have hn := (Binary64.toInt?_eq_some_iff hfinite).mp hint
      have hunique (k : Int) : x.toRat = k ↔ k = n := by rw [hn, Int.cast_inj, eq_comm]
      simp only [Option.some.injEq, hunique, exists_eq_left, exists_eq, not_true_eq_false, false_and, or_false]
      rw [eq_comm, intText_eq_floatText_iff hfinite hproper hn]
    | none =>
      -- a fraction, for which the two layouts are compared
      have hfraction : ¬ ∃ n : Int, x.toRat = n := by
        rintro ⟨n, hn⟩
        rw [(Binary64.toInt?_eq_some_iff hfinite).mpr hn] at hint
        cases hint
      have hnone : ¬ ∃ n : Int, x.toRat = n ∧ n.natAbs < 10 ^ 21 := mt (Exists.imp fun _ => And.left) hfraction
      simp only [floatText, hint, Option.some.injEq, hfraction, hnone, not_false_eq_true, true_and, false_or,
        Text.ofString_inj]
      exact Binary64.text_message_eq_iff hfinite hproper hfraction

end Json

namespace Condition

variable {c : Condition} {fields : Fields} {v : Json} {qs : List Question} {q : Question}

/-- A single value, in a list or by itself as in old forms, is stored as its text. -/
theorem values_of_shape (hnull : v ≠ .null)
    (hfields : fields.get? "values" = some (.arr [v]) ∨
      (fields.get "values").isNull = true ∧ fields.get? "value" = some v)
    (hc : (shape (.obj fields)).result = .ok c) : c.values = (valueText? v).toList := by
  have hget : (liftValue fields).get? "values" = some (.arr [v]) := by
    rcases hfields with hvalues | ⟨hvalues, hvalue⟩
    · have hgiven : (fields.get "values").isNull = false := by simp [Fields.get, hvalues, Json.isNull]
      rw [liftValue, if_neg (by simp [hgiven]), hvalues]
    · rw [liftValue, if_pos hvalues, hvalue]
      cases v <;> simp [Fields.get?_set] at hnull ⊢
  have hstored : storedValues (.arr [v]) = (valueText? v).toList := by
    simp only [storedValues, List.filterMap_cons, List.filterMap_nil]
    cases valueText? v <;> rfl
  have hread : Key.withDefault "values" (fun v => .accept (storedValues v)) [] (liftValue fields) =
      .accept (storedValues (.arr [v])) := Key.withDefault_of_get? hget rfl
  simp only [shape, Shape.record, hread, Checked.seq_result_eq_ok, Checked.map_result_eq_ok] at hc
  obtain ⟨g, values, ⟨g', source, ⟨id, -, rfl⟩, -, rfl⟩, hvalues, rfl⟩ := hc
  rw [← hstored]
  exact (Except.ok.inj hvalues).symm

/-- A list or object with one item is matched by its text. -/
theorem holdsRelaxed_single [Stack] (hq : find? qs c.source = some q) (key : Text) :
    (c.holdsRelaxed [(c.source, .arr [v])] qs = .ok true ↔ ∃ t, v.answerText = .ok t ∧ t ∈ c.values) ∧
    (c.holdsRelaxed [(c.source, .obj [(key, v)])] qs = .ok true ↔ ∃ t, v.answerText = .ok t ∧ t ∈ c.values) := by
  have hlist : Answers.given? [(c.source, .arr [v])] c.source = some (.arr [v]) := by
    simp [Answers.given?, Fields.get?]
  have hobject : Answers.given? [(c.source, .obj [(key, v)])] c.source = some (.obj [(key, v)]) := by
    simp [Answers.given?, Fields.get?]
  simp only [holdsRelaxed, hq, hlist, hobject, matchedByAny, List.mapM_cons, List.mapM_nil]
  cases v.answerText <;> simp [bind, Except.bind, pure, Except.pure]

end Condition

/-- **Which stored values match themselves.** A condition that is loaded with a single value, a text, a truth value, an
integer or a finite double, in the list of values or by itself as in old forms, is met by the list and by the object
that hold just this value exactly if the text stored for the value is the one it has as an answer. That is so for all
texts and truth values, for whole numbers below `10²¹`, and for fractions but for those from `10⁻⁹` up to below `10⁻⁴`;
for the others it never is. -/
theorem stored_value_matches_itself_iff [Stack] {fields : Fields} {c : Condition} {v : Json} {qs : List Question}
    {q : Question} (hv : v.IsStored)
    (hfields : fields.get? "values" = some (.arr [v]) ∨
      (fields.get "values").isNull = true ∧ fields.get? "value" = some v)
    (hc : (Condition.shape (.obj fields)).result = .ok c) (hq : find? qs c.source = some q) (key : Text) :
    (c.holdsRelaxed [(c.source, .arr [v])] qs = .ok true ↔ v.MatchesItself) ∧
    (c.holdsRelaxed [(c.source, .obj [(key, v)])] qs = .ok true ↔ v.MatchesItself) ∧
    ((∃ t, v.answerText = .ok t ∧ c.values = [t]) ↔ v.MatchesItself) := by
  have hnull : v ≠ .null := by
    rintro rfl
    cases hv
  have hvalues := Condition.values_of_shape hnull hfields hc
  have hmem (t : Text) : t ∈ c.values ↔ Condition.valueText? v = some t := by rw [hvalues, Option.mem_toList]
  have hsingle (t : Text) : c.values = [t] ↔ Condition.valueText? v = some t := by
    rw [hvalues]
    cases Condition.valueText? v <;> simp
  -- A single value is compared with itself, in a list as in an object.
  have hholds := Condition.holdsRelaxed_single (v := v) hq key
  have hmatches := Json.answerText_eq_valueText_iff hv
  simp only [hmem] at hholds
  simp only [hsingle]
  exact ⟨hholds.1.trans hmatches, hholds.2.trans hmatches, hmatches⟩

/-- Two and a half, stored by itself as in old forms. -/
theorem stored_value_matches_itself_for_fraction :
    let v := Json.float (.finite false 5629499534213120 1023)
    let fields : Fields := [("questionId", .str "q"), ("value", v)]
    let c : Condition := ⟨none, "q", ["2.5"]⟩
    let qs := [Question.bare "q" .textInput [] .all]
    (Condition.shape (.obj fields)).result = .ok c ∧ v.MatchesItself ∧
      c.holdsRelaxed [("q", .obj [("k", v)])] qs = .ok true ∧ c.holdsRelaxed [("q", .arr [v])] qs = .ok true := by
  intro v fields c qs
  have hv : v.IsStored := .float rfl ⟨by decide, .inr (by decide), by decide⟩
  have hc : (Condition.shape (.obj fields)).result = .ok c := by decide +kernel
  have hq : find? qs c.source = some (.bare "q" .textInput [] .all) := rfl
  obtain ⟨hlist, hobject, -⟩ := stored_value_matches_itself_iff hv (.inr ⟨rfl, rfl⟩) hc hq "k"
  have hholds : c.holdsRelaxed [("q", .arr [v])] qs = .ok true := by decide +kernel
  exact ⟨hc, hlist.mp hholds, hobject.mpr (hlist.mp hholds), hholds⟩

/-- A ten-millionth is stored as `1e-07`, while its text as an answer is `1e-7`. -/
theorem stored_fraction_misses_itself :
    let v := Json.float (.finite false 7555786372591432 998)
    let fields : Fields := [("questionId", .str "q"), ("values", .arr [v])]
    let c : Condition := ⟨none, "q", ["1e-07"]⟩
    let qs := [Question.bare "q" .textInput [] .all]
    (Condition.shape (.obj fields)).result = .ok c ∧ v.answerText = .ok "1e-7" ∧
      c.holdsRelaxed [("q", .arr [v])] qs = .ok false ∧ c.holdsRelaxed [("q", .obj [("k", v)])] qs = .ok false := by
  decide +kernel

end Questionnaire
