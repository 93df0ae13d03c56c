import Mathlib.Data.List.Forall2
import Questionnaire.Proofs.Numbering

/-!
# References of the numbered form

A reference strays if it finds nothing, although its text is the name that numbering writes somewhere. A
form with stray references is meant to be refused, since they would find something once it is numbered.
Only names of first positions are looked at, though: a reference that strays to the name of a repetition
passes, and finds the repetition.

* `Form.Strays`: a source or a value of a condition strays to a name.
* `Tracks`: a condition finds the same things before and after.
* `numbering_refuses_iff_strays_to_first`: which forms are refused, which references of the others are
  kept, and for which forms these are all.
-/

namespace Questionnaire

/-- Does a condition name a source that no question carries, or list a value that is no choice of its
source, although the text is a name that is taken? -/
def Form.Strays (taken : (Nat → Text) → List Text → Text → Prop) (form : Form) (c : Condition) : Prop :=
  (c.source ∉ questionIds form.questions ∧ taken questionName (questionIds form.questions) c.source) ∨
  ∃ k q, indexOf? form.questions c.source = some k ∧ form.questions[k]? = some q ∧
    ∃ v ∈ c.values, v ∉ q.choiceIds ∧ taken (choiceName (questionName (k + 1))) q.choiceIds v

/-- The position of the choice that a value selects among those of a source. -/
def choicePosition? (qs : List Question) (source value : Text) : Option Nat :=
  (find? qs source).bind (·.choiceIndex? value)

/-- Does a condition find its source and the choices of its values where another one finds them? -/
def Tracks (qs rs : List Question) (c d : Condition) : Prop :=
  indexOf? rs d.source = indexOf? qs c.source ∧
  List.Forall₂ (fun v w => choicePosition? rs d.source w = choicePosition? qs c.source v) c.values d.values

/-- Are the conditions of two forms related, each to the one that stands in its place? -/
def Corresponding (R : Condition → Condition → Prop) (form other : Form) : Prop :=
  List.Forall₂ (fun q r => List.Forall₂ R q.conditions r.conditions) form.questions other.questions ∧
  List.Forall₂ (fun p r => List.Forall₂ R p.conditions r.conditions) form.settings.successPages
    other.settings.successPages

/-- Is the form refused if a reference strays to any name that is written, and are else all references
kept? -/
def Form.StraysRefused (form : Form) : Prop :=
  ((∃ e, form.numbered = .error e) ↔ ∃ c ∈ form.conditions, form.Strays NamesPosition c) ∧
  ∀ other, form.numbered = .ok other →
    Corresponding (Tracks form.questions other.questions) form other

/-! ## Refusals -/

/-- Clashes are the references that stray to names of first positions. -/
theorem Form.idMap_clashes_iff (form : Form) (c : Condition) :
    form.idMap.Clashes c ↔ form.Strays NamesFirst c := by
  unfold IdMap.Clashes Form.Strays
  rw [Form.idMap_questions, Renaming.clashes_byPosition_iff]
  refine or_congr_right ?_
  cases hk : indexOf? form.questions c.source with
  | none => simp [Form.idMap_choicesOf_of_none hk, Renaming.Clashes, Renaming.names]
  | some k =>
    obtain ⟨q, hq, -⟩ := indexOf?_eq_some_iff.mp hk
    rw [Form.idMap_choicesOf hk hq]
    simp [Renaming.clashes_byPosition_iff, hq]

/-- Numbering fails at a stray reference to the name of a first occurrence. -/
theorem Form.numbered_error_iff (form : Form) :
    (∃ e, form.numbered = .error e) ↔ ∃ c ∈ form.conditions, form.Strays NamesFirst c := by
  rw [form.gives_numbered.error_iff]
  simp [Form.idMap_clashes_iff]

/-- A reference that strays to a first occurrence strays to a position. -/
theorem Form.Strays.toPosition {form : Form} {c : Condition} (h : form.Strays NamesFirst c) :
    form.Strays NamesPosition c := by
  rcases h with ⟨hsource, hname⟩ | ⟨k, q, hk, hq, v, hv, hchoice, hname⟩
  · exact .inl ⟨hsource, hname.namesPosition⟩
  · exact .inr ⟨k, q, hk, hq, v, hv, hchoice, hname.namesPosition⟩

/-! ## References -/

/-- A list and a map over its enumeration are related entry by entry. -/
theorem forall₂_map_zipIdx {α β : Type} {R : α → β → Prop} (f : α × Nat → β) (xs : List α) (n : Nat) :
    List.Forall₂ R xs ((xs.zipIdx n).map f) ↔ ∀ e ∈ xs.zipIdx n, R e.1 (f e) := by
  have hxs : xs = (xs.zipIdx n).map Prod.fst := (List.zipIdx_map_fst n xs).symm
  nth_rewrite 1 [hxs]
  rw [List.forall₂_map_left_iff, List.forall₂_map_right_iff, List.forall₂_same]

/-- What holds between a condition and its renaming holds throughout the renamed form. -/
theorem corresponding_renamed_iff {R : Condition → Condition → Prop} {P : Condition → Prop} (form : Form)
    (h : ∀ owner c position, R c (form.idMap.renamedCondition owner c position) ↔ P c) :
    Corresponding R form form.renamed ↔ ∀ c ∈ form.conditions, P c := by
  have hlist : ∀ owner cs, List.Forall₂ R cs (form.idMap.renamedConditions owner cs) ↔ ∀ c ∈ cs, P c := by
    intro owner cs
    rw [IdMap.renamedConditions, forall₂_map_zipIdx]
    simp only [h]
    exact forall_mem_zipIdx P cs 1
  rw [Corresponding, Form.renamed, Form.conditions, List.forall_mem_append, List.forall_mem_flatMap,
    List.forall_mem_flatMap, forall₂_map_zipIdx, forall₂_map_zipIdx]
  simp only [IdMap.conditions_renamedQuestion, IdMap.renamedPage, hlist]
  rw [forall_mem_zipIdx (fun q : Question => ∀ c ∈ q.conditions, P c),
    forall_mem_zipIdx (fun p : SuccessPage => ∀ c ∈ p.conditions, P c)]

/-- A value stands for the same choice under the new names, unless it is no choice and names one. -/
theorem Form.choiceIndex?_renamed_iff {form : Form} {source : Text} {k : Nat} {q : Question}
    (hk : indexOf? form.questions source = some k) (hq : form.questions[k]? = some q) (v : Text) :
    (form.idMap.renamedQuestion q (k + 1)).choiceIndex? ((form.idMap.choicesOf source).apply v) =
        q.choiceIndex? v ↔
      ¬ (v ∉ q.choiceIds ∧ NamesPosition (choiceName (questionName (k + 1))) q.choiceIds v) := by
  have hlength : q.choices.length = q.choiceIds.length := by simp [Question.choiceIds]
  rw [Question.choiceIndex?_eq_idxOf?, Question.choiceIndex?_eq_idxOf?, IdMap.choiceIds_renamedQuestion,
    Form.idMap_choicesOf hk hq, hlength]
  exact Renaming.idxOf?_apply_eq_iff (choiceName_injective _)

/-- So it selects the same choice of its source. -/
theorem Form.choicePosition?_renamed_iff {form : Form} {source : Text} {k : Nat} {q : Question}
    (hk : indexOf? form.questions source = some k) (hq : form.questions[k]? = some q) (v : Text) :
    choicePosition? form.renamed.questions (form.idMap.questions.apply source)
        ((form.idMap.choicesOf source).apply v) = choicePosition? form.questions source v ↔
      ¬ (v ∉ q.choiceIds ∧ NamesPosition (choiceName (questionName (k + 1))) q.choiceIds v) := by
  rw [choicePosition?, choicePosition?, Form.find?_renamed_apply hk hq, find?_eq_bind_indexOf?, hk,
    Option.bind_some, Option.bind_some, hq, Option.bind_some]
  exact Form.choiceIndex?_renamed_iff hk hq v

/-- A condition is tracked by its renaming unless it strays. -/
theorem Form.tracks_renamedCondition_iff (form : Form) (owner : Owner) (c : Condition) (position : Nat) :
    Tracks form.questions form.renamed.questions c (form.idMap.renamedCondition owner c position) ↔
      ¬ form.Strays NamesPosition c := by
  have hsource : indexOf? form.renamed.questions (form.idMap.questions.apply c.source) =
      indexOf? form.questions c.source ↔
      ¬ (c.source ∉ questionIds form.questions ∧
        NamesPosition questionName (questionIds form.questions) c.source) := by
    have hlength : form.questions.length = (questionIds form.questions).length := by simp [questionIds]
    rw [indexOf?_eq_idxOf?, indexOf?_eq_idxOf?, Form.questionIds_renamed, Form.idMap_questions, hlength]
    exact Renaming.idxOf?_apply_eq_iff questionName_injective
  unfold Tracks Form.Strays IdMap.renamedCondition
  rw [hsource, List.forall₂_map_right_iff, List.forall₂_same, not_or]
  refine and_congr_right fun hkept => ?_
  cases hk : indexOf? form.questions c.source with
  | none =>
    -- the source is found neither before nor after, and so is no choice
    have hafter := (hsource.mpr hkept).trans hk
    simp [choicePosition?, find?_eq_bind_indexOf?, hk, hafter]
  | some k =>
    obtain ⟨q, hq, -⟩ := indexOf?_eq_some_iff.mp hk
    simp [Form.choicePosition?_renamed_iff hk hq, hq]

/-! ## Which forms keep their references -/

/-- **Which references numbering keeps.** A form is refused exactly if one of its references strays to
the name of a first position. Otherwise each condition finds its source and its choices where it found
them before, exactly if it does not stray to any name. So to refuse all stray references and to keep all
others is what happens to a form exactly if, where one strays to the name of a repetition, another one
strays to the name of a first position. -/
theorem numbering_refuses_iff_strays_to_first (form : Form) :
    ((∃ e, form.numbered = .error e) ↔ ∃ c ∈ form.conditions, form.Strays NamesFirst c) ∧
    (∀ other, form.numbered = .ok other →
      Corresponding
        (fun c d => Tracks form.questions other.questions c d ↔ ¬ form.Strays NamesPosition c) form other) ∧
    (form.StraysRefused ↔
      ((∃ c ∈ form.conditions, form.Strays NamesPosition c) →
        ∃ c ∈ form.conditions, form.Strays NamesFirst c)) := by
  have hrefused := form.numbered_error_iff
  have hok : ∀ other, form.numbered = .ok other → other = form.renamed := by
    intro other h
    exact ((form.gives_numbered other).mp h).2
  refine ⟨hrefused, ?_, ?_⟩
  · intro other h
    rw [hok other h]
    have hall := corresponding_renamed_iff (P := fun _ => True)
      (R := fun c d => Tracks form.questions form.renamed.questions c d ↔ ¬ form.Strays NamesPosition c) form
      fun owner c position => by simp [form.tracks_renamedCondition_iff]
    exact hall.mpr (by simp)
  · constructor
    · rintro ⟨hiff, -⟩ hstrays
      exact hrefused.mp (hiff.mpr hstrays)
    · intro himp
      refine ⟨⟨?_, fun hstrays => hrefused.mpr (himp hstrays)⟩, ?_⟩
      · intro herror
        obtain ⟨c, hc, hstrays⟩ := hrefused.mp herror
        exact ⟨c, hc, hstrays.toPosition⟩
      · intro other h
        rw [hok other h, corresponding_renamed_iff form form.tracks_renamedCondition_iff]
        -- a stray reference would have had the form refused
        intro c hc hstrays
        obtain ⟨e, he⟩ := hrefused.mpr (himp ⟨c, hc, hstrays⟩)
        rw [h] at he
        cases he

/-- A source and a value that stray to the names of repetitions are not refused: the form is numbered, and
both come to find something. -/
theorem stray_references_to_repetitions_kept :
    let choice : Choice := ⟨"o", "", none, none⟩
    let toQuestion : Condition := ⟨none, "q_2", []⟩
    let toChoice : Condition := ⟨none, "x", ["q_1_opt_2"]⟩
    let form : Form := {
      title := ""
      description := ""
      questions := [.bare "x" (.singleChoice [choice, choice]) [] .all, .bare "x" .textInput [] .all,
        .bare "y" .textInput [toQuestion, toChoice] .all]
      settings := .standard }
    form.numbered = .ok form.renamed ∧
    form.Strays NamesPosition toQuestion ∧ form.Strays NamesPosition toChoice ∧
    ¬ form.StraysRefused ∧
    indexOf? form.questions "q_2" = none ∧ indexOf? form.renamed.questions "q_2" = some 1 ∧
    choicePosition? form.questions "x" "q_1_opt_2" = none ∧
    choicePosition? form.renamed.questions "q_1" "q_1_opt_2" = some 1 := by
  intro choice toQuestion toChoice form
  have hok : form.numbered = .ok form.renamed := by rfl
  have hquestion : form.Strays NamesPosition toQuestion :=
    .inl ⟨by decide, 1, by decide, by decide⟩
  have hchoice : form.Strays NamesPosition toChoice :=
    .inr ⟨0, .bare "x" (.singleChoice [choice, choice]) [] .all, by decide, by decide, "q_1_opt_2", by decide,
      by decide, 1, by decide, by decide⟩
  refine ⟨hok, hquestion, hchoice, ?_, by decide, by decide, by decide, by decide⟩
  -- A refusal of every stray reference would refuse this form, which is numbered.
  rintro ⟨hiff, -⟩
  obtain ⟨e, he⟩ := hiff.mpr ⟨toQuestion, by decide, hquestion⟩
  rw [hok] at he
  cases he

end Questionnaire
