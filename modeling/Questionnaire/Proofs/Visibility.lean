import Mathlib.Data.List.Basic
import Questionnaire.Proofs.Answers
import Questionnaire.Proofs.Positions

/-!
# What visibility depends on

A condition of the question at a position sees only the questions in front of it: a source that stands
at the position or later counts as no source. So the question's visibility is that of the same conditions
in the shorter form that ends in front of it, whatever the rest of the form and the other answers are.

* `Condition.holdsBefore_eq_holds_take`: a position only cuts the form off.
* `visibility_depends_on_preceding`: two forms and two sets of answers that agree in front of a question
  agree on it.
-/

namespace Questionnaire

/-! ## What a condition looks at -/

/-- The kind of the source of a condition and the answer to it, if there are both. -/
def Condition.evidence? (c : Condition) (A : Answers) (qs : List Question) : Option (QuestionKind × Json) :=
  (find? qs c.source).bind fun q => (A.given? c.source).map fun v => (q.kind, v)

/-- The strict rule looks at the evidence of a condition, and does not hold without any. -/
theorem Condition.holds_eq_evidence (c : Condition) (A : Answers) (qs : List Question) :
    c.holds A qs = ((c.evidence? A qs).map fun e => c.matchedBy e.1 e.2).getD false := by
  unfold holds evidence?
  cases find? qs c.source with
  | none => rfl
  | some q => cases A.given? c.source <;> rfl

/-- In the front of a form, a condition looks at a source that stands there. -/
theorem Condition.evidence?_take (c : Condition) (A : Answers) (qs : List Question) (n : Nat) :
    c.evidence? A (qs.take n) = (indexOf? qs c.source).bind fun k =>
      if k < n then (qs[k]?).bind fun q => (A.given? c.source).map fun v => (q.kind, v) else none := by
  rw [evidence?, find?_take]
  cases indexOf? qs c.source with
  | none => rfl
  | some k => by_cases hk : k < n <;> simp [hk]

/-- What a condition looks at there is the first question that its source names. -/
theorem Condition.evidence?_take_eq_some {c : Condition} {A : Answers} {qs : List Question} {n : Nat}
    {e : QuestionKind × Json} (h : c.evidence? A (qs.take n) = some e) :
    ∃ k q, indexOf? qs c.source = some k ∧ qs[k]? = some q ∧ e.1 = q.kind ∧
      A.given? c.source = some e.2 := by
  rw [evidence?_take] at h
  obtain ⟨k, hk, h⟩ := Option.bind_eq_some_iff.mp h
  split at h
  · obtain ⟨q, hq, h⟩ := Option.bind_eq_some_iff.mp h
    obtain ⟨v, hv, rfl⟩ := Option.map_eq_some_iff.mp h
    exact ⟨k, q, hk, hq, rfl, hv⟩
  · cases h

/-! ## A position cuts the form off -/

/-- Conditions hold by the answers to the questions of the form alone. -/
theorem Condition.holds_congr (c : Condition) {A B : Answers} {qs : List Question}
    (h : ∀ p ∈ qs, A.given? p.id = B.given? p.id) : c.holds A qs = c.holds B qs := by
  unfold Condition.holds
  cases hs : find? qs c.source with
  | none => rfl
  | some source =>
    obtain ⟨hmem, hid⟩ := find?_eq_some hs
    have hsame : A.given? c.source = B.given? c.source := by simpa [hid] using h source hmem
    rw [hsame]

/-- A condition of what stands at a position holds if it does in the form that ends in front of it. -/
theorem Condition.holdsBefore_eq_holds_take (c : Condition) (own : Nat) (A : Answers) (qs : List Question) :
    c.holdsBefore (some own) A qs = c.holds A (qs.take own) := by
  unfold Condition.holdsBefore Condition.holds
  rw [find?_take, find?_eq_bind_indexOf?]
  cases hk : indexOf? qs c.source with
  | none => rfl
  | some k =>
    by_cases hown : own ≤ k
    · -- the source is the question itself or a later one
      have hlt : ¬ k < own := by omega
      simp [hown, hlt]
    · have hlt : k < own := by omega
      simp [hown, hlt]

/-- A question is shown at a position if its conditions hold in the form that ends in front of it. -/
theorem Question.isVisibleAt_eq_take (q : Question) (own : Nat) (A : Answers) (qs : List Question) :
    q.isVisibleAt (some own) A qs = q.isVisibleAt none A (qs.take own) := by
  unfold Question.isVisibleAt conditionsHold
  have heach : ∀ c : Condition, c.holdsBefore (some own) A qs = c.holdsBefore none A (qs.take own) := by
    intro c
    rw [Condition.holdsBefore_eq_holds_take]
    rfl
  simp only [heach]

/-- Two sets of answers show the same question if they agree on what the form asks. -/
theorem Question.isVisibleAt_none_congr (q : Question) {A B : Answers} {qs : List Question}
    (h : ∀ p ∈ qs, A.given? p.id = B.given? p.id) : q.isVisibleAt none A qs = q.isVisibleAt none B qs := by
  unfold Question.isVisibleAt conditionsHold
  have heach : ∀ c : Condition, c.holdsBefore none A qs = c.holdsBefore none B qs := by
    intro c
    exact c.holds_congr h
  simp only [heach]

/-- A question is shown alike in two forms that agree in front of it, by answers that agree there. -/
theorem Question.isVisibleAt_congr (q : Question) {own : Nat} {A B : Answers} {qs rs : List Question}
    (hqs : qs.take own = rs.take own) (h : ∀ p ∈ qs.take own, A.given? p.id = B.given? p.id) :
    q.isVisibleAt (some own) A qs = q.isVisibleAt (some own) B rs := by
  calc q.isVisibleAt (some own) A qs
      = q.isVisibleAt none A (qs.take own) := q.isVisibleAt_eq_take own A qs
    _ = q.isVisibleAt none B (qs.take own) := q.isVisibleAt_none_congr h
    _ = q.isVisibleAt none B (rs.take own) := by rw [hqs]
    _ = q.isVisibleAt (some own) B rs := (q.isVisibleAt_eq_take own B rs).symm

/-! ## Two runs -/

/-- **A question depends only on what precedes it**: in two forms that have the same questions up to a
position, under two sets of answers that agree on the questions in front of it, the question there is
shown in both or in neither. In particular no answer under an id that no question in front of it carries
decides it, nor does what follows it. -/
theorem visibility_depends_on_preceding (qs rs : List Question) (A B : Answers) (i : Nat) (q : Question)
    (hq : qs[i]? = some q) (hqs : qs.take (i + 1) = rs.take (i + 1))
    (hA : ∀ p ∈ qs.take i, A.given? p.id = B.given? p.id) :
    rs[i]? = some q ∧
    q.isVisibleAt (some i) A qs = q.isVisibleAt (some i) B rs ∧
    (∀ id v, (∀ p ∈ qs.take i, p.id ≠ id) →
      q.isVisibleAt (some i) (A.put id v) qs = q.isVisibleAt (some i) A qs) ∧
    (∀ later, q.isVisibleAt (some i) A (qs.take (i + 1) ++ later) = q.isVisibleAt (some i) A qs) := by
  -- a question sees the questions in front of it, and no more
  have hfront : qs.take i = rs.take i := by
    have h := congrArg (List.take i) hqs
    simpa [List.take_take] using h
  refine ⟨?_, q.isVisibleAt_congr hfront hA, ?_, ?_⟩
  · have h := congrArg (fun l => l[i]?) hqs
    simpa [List.getElem?_take, hq] using h.symm
  · intro id v hid
    apply q.isVisibleAt_congr rfl
    intro p hp
    exact Answers.given?_put_of_ne v (hid p hp)
  · intro later
    have hlong : i + 1 ≤ qs.length := (List.getElem?_eq_some_iff.mp hq).1
    have hcut : (qs.take (i + 1) ++ later).take i = qs.take i := by
      rw [List.take_append_of_le_length (by simp; omega), List.take_take]
      simp
    apply q.isVisibleAt_congr hcut
    intro p hp
    rfl

/-- A question with nothing but what visibility reads. -/
def Question.bare (id : Text) (input : Input) (conditions : List Condition) (logic : Logic) : Question :=
  { id, text := [], description := none, input, required := false, conditions? := some conditions, logic,
    placeholder := none, postcodeApi := none }

/-- The second question is shown by the answer in front of it, though the question it also refers to is
taken out, its own id comes again later and the answers to both differ. -/
theorem visibility_depends_on_preceding_in_cut_form :
    let a := Question.bare "a" (.singleChoice []) [] .all
    let q := Question.bare "b" .textInput [⟨none, "c", ["y"]⟩, ⟨none, "b", ["z"]⟩, ⟨none, "a", ["x"]⟩] .any
    let c := Question.bare "c" .textInput [] .all
    let A : Answers := [("a", .str "x"), ("c", .str "y")]
    let B : Answers := [("b", .str "z"), ("a", .str "x"), ("c", .null)]
    [a, q, c].take 2 = [a, q, q].take 2 ∧
    (∀ p ∈ [a, q, c].take 1, A.given? p.id = B.given? p.id) ∧
    q.isVisibleAt (some 1) A [a, q, c] = true ∧
    q.isVisibleAt (some 1) A [a, q, c] = q.isVisibleAt (some 1) B [a, q, q] := by
  intro a q c A B
  have hA : ∀ p ∈ [a, q, c].take 1, A.given? p.id = B.given? p.id := by decide
  exact ⟨rfl, hA, by decide, (visibility_depends_on_preceding [a, q, c] [a, q, q] A B 1 q rfl rfl hA).2.1⟩

end Questionnaire
