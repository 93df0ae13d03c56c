import Mathlib.Data.List.Nodup
import Questionnaire.Proofs.Numbering
import Questionnaire.Proofs.Pieces

/-!
# Names do not clash

Numbering names the questions, choices, conditions and success pages of a form, and the names of conditions and choices
start with the name of what they belong to. The words of a name, between its underscores, tell what it was given to, so
that no name is given twice. References are renamed to the names that are given.

* `Node`: what gets a name; `Form.nodes`: all that gets one in a form.
* `Node.pieces_name`, `Node.name_injective`: the words of a name, and what they tell.
* `Form.nodeIds_renamed`: the ids of the renamed form are the names of the nodes.
* `Renaming.Relabels`: each old id has the new id of what carries it first.
* `numbered_ids_are_distinct`: the ids of the numbered form, and the map from the old to the new ones.
-/

namespace Questionnaire

/-! ## Names and their words -/

/-- What gets a name by position. Positions count from one. -/
inductive Node where
  | question (position : Nat)
  | choice (source position : Nat)
  | successPage (position : Nat)
  | condition (owner : Owner) (position : Nat)
deriving DecidableEq, Repr

/-- Where an owner stands: a word and a position. -/
def Owner.path : Owner → List (String × Nat)
  | .question position => [("q", position)]
  | .successPage position => [("success", position)]

namespace Node

/-- The name of a node. -/
def name : Node → Text
  | .question position => questionName position
  | .choice source position => choiceName (questionName source) position
  | .successPage position => successPageName position
  | .condition owner position => conditionName owner.name position

/-- Where a node stands: a word and a position for what it belongs to and for the node itself. -/
def path : Node → List (String × Nat)
  | .question position => [("q", position)]
  | .choice source position => [("q", source), ("opt", position)]
  | .successPage position => [("success", position)]
  | .condition owner position => owner.path ++ [("cond", position)]

end Node

/-- The words along a path, with the digits of the positions between them. -/
def pathWords (path : List (String × Nat)) : List Text :=
  path.flatMap fun (word, position) => [Text.ofString word, Text.ofString (toString position)]

/-- A path can be read back from its words, step by step. -/
theorem pathWords_injective : Function.Injective pathWords := by
  intro p q h
  induction p generalizing q with
  | nil =>
    cases q with
    | nil => rfl
    | cons step q => cases h
  | cons step p ih =>
    cases q with
    | nil => cases h
    | cons step' q =>
      rcases step with ⟨word, position⟩
      rcases step' with ⟨word', position'⟩
      injection h with hword h
      injection h with hposition h
      rw [Text.ofString_injective hword, digits_injective hposition, ih h]

/-- There is no underscore in the words along a path, if there is none in the words that it is made of. -/
theorem underscore_notMem_pathWords {path : List (String × Nat)}
    (h : ∀ step ∈ path, .char '_' ∉ Text.ofString step.1) : ∀ word ∈ pathWords path, .char '_' ∉ word := by
  intro word hword
  rcases List.mem_flatMap.mp hword with ⟨step, hstep, hmem⟩
  rcases List.mem_pair.mp hmem with rfl | rfl
  · exact h step hstep
  · intro hunderscore
    have hdigit := isDigit_of_mem_toString hunderscore
    revert hdigit
    decide

namespace Node

/-- A path tells the node: by its length, and by the first word and the last. -/
theorem path_injective : Function.Injective path := by
  rintro (m | ⟨s, m⟩ | m | ⟨s | s, m⟩) (n | ⟨t, n⟩ | n | ⟨t | t, n⟩) h <;> simp_all [path, Owner.path]

/-- No word of a path holds the underscore that separates them. -/
theorem underscore_notMem_path (node : Node) : ∀ step ∈ node.path, .char '_' ∉ Text.ofString step.1 := by
  have hwords : ∀ word ∈ ["q", "success", "opt", "cond"], .char '_' ∉ Text.ofString word := by decide
  intro step hstep
  apply hwords
  revert step
  rcases node with n | ⟨s, n⟩ | n | ⟨s | s, n⟩ <;> simp [path, Owner.path]

/-- A name is its path, with underscores between the words. -/
theorem name_eq_intercalate (node : Node) : node.name = Text.intercalate [.char '_'] (pathWords node.path) := by
  have hquestion : Text.ofString "q_" = Text.ofString "q" ++ [.char '_'] := rfl
  have hpage : Text.ofString "success_" = Text.ofString "success" ++ [.char '_'] := rfl
  have hchoice : Text.ofString "_opt_" = .char '_' :: (Text.ofString "opt" ++ [.char '_']) := rfl
  have hcondition : Text.ofString "_cond_" = .char '_' :: (Text.ofString "cond" ++ [.char '_']) := rfl
  cases node with
  | question position => simp [name, path, pathWords, questionName, hquestion, Text.intercalate]
  | choice source position =>
    simp [name, path, pathWords, choiceName, questionName, hquestion, hchoice, Text.intercalate]
  | successPage position => simp [name, path, pathWords, successPageName, hpage, Text.intercalate]
  | condition owner position =>
    cases owner <;>
      simp [name, path, Owner.path, Owner.name, pathWords, conditionName, questionName, successPageName, hquestion,
        hpage, hcondition, Text.intercalate]

/-- The path can be read off a name. -/
theorem pieces_name (node : Node) : Text.pieces '_' node.name = pathWords node.path := by
  have hne : pathWords node.path ≠ [] := by
    cases node with
    | condition owner position => cases owner <;> exact List.cons_ne_nil _ _
    | _ => exact List.cons_ne_nil _ _
  rw [node.name_eq_intercalate]
  exact Text.pieces_intercalate hne (underscore_notMem_pathWords node.underscore_notMem_path)

/-- No two nodes have the same name. -/
theorem name_injective : Function.Injective name := by
  intro a b h
  apply path_injective
  apply pathWords_injective
  rw [← a.pieces_name, ← b.pieces_name, h]

end Node

/-! ## The nodes of a form -/

/-- The positions of a list, from one. -/
def positions {α : Type} (xs : List α) : List Nat := List.range' 1 xs.length

namespace Form

/-- What gets a name in a form: the questions, their choices, the conditions of questions and success pages, and the
success pages. -/
def nodes (form : Form) : List Node :=
  (positions form.questions).map .question
    ++ (form.questions.zipIdx 1).flatMap (fun (q, n) => (positions q.choices).map (.choice n))
    ++ (form.questions.zipIdx 1).flatMap (fun (q, n) => (positions q.conditions).map (.condition (.question n)))
    ++ (form.settings.successPages.zipIdx 1).flatMap
      (fun (p, n) => (positions p.conditions).map (.condition (.successPage n)))
    ++ (positions form.settings.successPages).map .successPage

/-- The ids of a form: those of its questions, of their choices, of all conditions, which may have none, and of the
success pages. -/
def nodeIds (form : Form) : List (Option Text) :=
  form.questions.map (fun q => some q.id)
    ++ form.questions.flatMap (fun q => q.choiceIds.map some)
    ++ form.conditions.map (·.id)
    ++ form.settings.successPages.map (fun p => some p.id)

end Form

/-- What belongs to the elements of a list, told apart by the positions of both. -/
theorem nodup_children {α β γ : Type} (child : Nat → Nat → γ) (hchild : Function.Injective2 child)
    (children : α → List β) (xs : List α) :
    ((xs.zipIdx 1).flatMap fun (x, n) => (positions (children x)).map (child n)).Nodup := by
  rw [List.nodup_flatMap]
  constructor
  · intro e _
    exact List.Nodup.map (hchild.right _) (List.nodup_range' 1)
  · -- different elements stand at different positions
    have hpositions : ((xs.zipIdx 1).map Prod.snd).Nodup := by
      rw [List.zipIdx_map_snd]
      exact List.nodup_range' 1
    apply (List.pairwise_map.mp hpositions).imp
    intro e e' hne node hnode hnode'
    rcases List.mem_map.mp hnode with ⟨m, -, hm⟩
    rcases List.mem_map.mp hnode' with ⟨m', -, hm'⟩
    exact hne (hchild (hm.trans hm'.symm)).1

/-- An injective naming gives the positions of a list distinct names. -/
theorem nodup_map_positions {α γ : Type} (node : Nat → γ) (hnode : Function.Injective node) (xs : List α) :
    ((positions xs).map node).Nodup :=
  List.Nodup.map hnode (List.nodup_range' 1)

namespace Form

/-- No node of a form is listed twice. -/
theorem nodup_nodes (form : Form) : form.nodes.Nodup := by
  have hquestions := nodup_map_positions Node.question (fun _ _ h => by injection h) form.questions
  have hpages := nodup_map_positions Node.successPage (fun _ _ h => by injection h)
    form.settings.successPages
  have hchoices := nodup_children Node.choice (fun _ _ _ _ h => by injection h; constructor <;> assumption)
    Question.choices form.questions
  have hconditions := nodup_children (fun n => Node.condition (.question n))
    (fun _ _ _ _ h => by simpa using h) Question.conditions form.questions
  have hpageConditions := nodup_children (fun n => Node.condition (.successPage n))
    (fun _ _ _ _ h => by simpa using h) SuccessPage.conditions form.settings.successPages
  unfold nodes
  simp only [List.nodup_append']
  refine ⟨⟨⟨⟨hquestions, hchoices, ?_⟩, hconditions, ?_⟩, hpageConditions, ?_⟩, hpages, ?_⟩
  all_goals
    -- what stands in different lists differs in its constructor or in that of its owner
    intro node h h'
    simp only [List.mem_append, List.mem_map, List.mem_flatMap] at h h'
    grind

end Form

/-! ## The ids of the renamed form -/

/-- A map over an enumerated list that reads only the position is a map over the positions. -/
theorem map_zipIdx_snd {α β : Type} (f : Nat → β) (xs : List α) :
    (xs.zipIdx 1).map (fun e => f e.2) = (positions xs).map f := by
  rw [positions, ← List.zipIdx_map_snd, List.map_map]
  rfl

/-- The names of the positions are the positions, named. -/
theorem positionNames_length {α : Type} (name : Nat → Text) (xs : List α) :
    positionNames name xs.length = (positions xs).map name := by
  rw [positionNames, positions, List.range'_eq_map_range, List.map_map]
  simp [Function.comp_def, Nat.add_comm 1]

/-- Conditions are renamed by their position under their owner. -/
theorem IdMap.ids_renamedConditions (m : IdMap) (owner : Owner) (cs : List Condition) :
    (m.renamedConditions owner cs).map (·.id) = (positions cs).map fun n => some (Node.condition owner n).name := by
  rw [renamedConditions, List.map_map, ← map_zipIdx_snd]
  rfl

/-- The ids of the renamed form are the names of the nodes. -/
theorem Form.nodeIds_renamed (form : Form) : form.renamed.nodeIds = form.nodes.map fun node => some node.name := by
  -- kind by kind, the ids of the renamed form are made from the places alone
  have hquestions : form.renamed.questions.map (fun q => some q.id) =
      (positions form.questions).map fun n => some (Node.question n).name := by
    rw [← map_zipIdx_snd, renamed, List.map_map]
    rfl
  have hpages : form.renamed.settings.successPages.map (fun p => some p.id) =
      (positions form.settings.successPages).map fun n => some (Node.successPage n).name := by
    rw [← map_zipIdx_snd, renamed, List.map_map]
    rfl
  have hchoices : form.renamed.questions.flatMap (fun q => q.choiceIds.map some) =
      (form.questions.zipIdx 1).flatMap fun (q, n) =>
        (positions q.choices).map fun k => some (Node.choice n k).name := by
    rw [renamed, List.flatMap_map]
    simp only [IdMap.choiceIds_renamedQuestion, positionNames_length, List.map_map]
    rfl
  have hconditions : (form.renamed.questions.flatMap (·.conditions)).map (·.id) =
      (form.questions.zipIdx 1).flatMap fun (q, n) =>
        (positions q.conditions).map fun k => some (Node.condition (.question n) k).name := by
    rw [renamed, List.flatMap_map, List.map_flatMap]
    simp only [IdMap.conditions_renamedQuestion, IdMap.ids_renamedConditions]
  have hpageConditions : (form.renamed.settings.successPages.flatMap (·.conditions)).map (·.id) =
      (form.settings.successPages.zipIdx 1).flatMap fun (p, n) =>
        (positions p.conditions).map fun k => some (Node.condition (.successPage n) k).name := by
    rw [renamed, List.flatMap_map, List.map_flatMap]
    simp only [IdMap.renamedPage, IdMap.ids_renamedConditions]
  rw [nodeIds, conditions, List.map_append, hquestions, hpages, hchoices, hconditions, hpageConditions, nodes]
  simp only [List.map_append, List.map_flatMap, List.map_map, List.append_assoc]
  rfl

/-! ## The map from old to new ids -/

/-- Does a renaming give each id of a list the one that stands in another list where the id stands first, and are
different ids given different ones? -/
structure Renaming.Relabels (r : Renaming) (old new : List Text) : Prop where
  sameLength : new.length = old.length
  first : ∀ id, r.find? id = (old.idxOf? id).bind fun k => new[k]?
  injective : r.Injective

/-- The renaming by position relabels the first occurrence of every id, one to one. -/
theorem Renaming.relabels_byPosition {name : Nat → Text} (hname : Function.Injective name) (old : List Text) :
    (byPosition name old).Relabels old (positionNames name old.length) where
  sameLength := length_positionNames _ _
  first id := by
    rw [find?_byPosition]
    cases hk : old.idxOf? id with
    | none => rfl
    | some k => rw [Option.map_some, Option.bind_some, getElem?_positionNames, if_pos (lt_length_of_idxOf? hk)]
  injective := injective_byPosition hname old

/-- **Names do not clash.** In a numbered form every question, choice, condition and success page has an id, and no two
of them have the same, whatever their kinds. The map from old to new ids gives an old id of a question the one that the
first question with the old id has in the numbered form, and an old id of a choice of this question the one that the
first choice with the old id has there; different old ids get different new ones. -/
theorem numbered_ids_are_distinct {form numbered : Form} (h : form.numbered = .ok numbered) :
    none ∉ numbered.nodeIds ∧ numbered.nodeIds.Nodup ∧
    form.idMap.questions.Relabels (questionIds form.questions) (questionIds numbered.questions) ∧
    ∀ k q, form.questions[k]? = some q → indexOf? form.questions q.id = some k →
      ∃ r, numbered.questions[k]? = some r ∧ (form.idMap.choicesOf q.id).Relabels q.choiceIds r.choiceIds := by
  obtain rfl : numbered = form.renamed := ((form.gives_numbered numbered).mp h).2
  rw [Form.nodeIds_renamed]
  refine ⟨?_, ?_, ?_, ?_⟩
  · simp
  -- The places of a form are distinct, and the name of a place determines it.
  · apply form.nodup_nodes.map
    intro a b hsame
    exact Node.name_injective (Option.some.inj hsame)
  · rw [Form.idMap_questions, Form.questionIds_renamed]
    have hlength : form.questions.length = (questionIds form.questions).length := by simp [questionIds]
    rw [hlength]
    exact Renaming.relabels_byPosition questionName_injective _
  · intro k q hq hfirst
    refine ⟨form.idMap.renamedQuestion q (k + 1), ?_, ?_⟩
    · rw [Form.getElem?_renamed_questions, hq, Option.map_some]
    · have hlength : q.choices.length = q.choiceIds.length := by simp [Question.choiceIds]
      rw [Form.idMap_choicesOf hfirst hq, IdMap.choiceIds_renamedQuestion, hlength]
      exact Renaming.relabels_byPosition (choiceName_injective _) _

/-- Two questions share an id, and so do two choices of the first one; none of the three conditions has an id. -/
theorem numbered_ids_are_distinct_of_shared_ids :
    let choice : Text → Choice := fun id => ⟨id, "", none, none⟩
    let condition : Condition := ⟨none, "x", ["a"]⟩
    let form : Form := {
      title := ""
      description := ""
      questions := [.bare "x" (.singleChoice [choice "a", choice "a", choice "b"]) [] .all,
        .bare "x" .textInput [condition] .all]
      settings := { FormSettings.standard with successPages := [⟨"x", "", "", [condition, condition], .all⟩] } }
    form.numbered = .ok form.renamed ∧ form.renamed.nodeIds.Nodup ∧
    form.renamed.nodeIds = ["q_1", "q_2", "q_1_opt_1", "q_1_opt_2", "q_1_opt_3", "q_2_cond_1", "success_1_cond_1",
      "success_1_cond_2", "success_1"].map (fun s => some (Text.ofString s)) ∧
    indexOf? form.questions "x" = some 0 ∧
    ∃ r, form.renamed.questions[0]? = some r ∧ (form.idMap.choicesOf "x").Relabels ["a", "a", "b"] r.choiceIds := by
  intro choice condition form
  have hnumbered : form.numbered = .ok form.renamed := rfl
  rcases numbered_ids_are_distinct hnumbered with ⟨-, hdistinct, -, hchoices⟩
  exact ⟨hnumbered, hdistinct, by decide, by decide, hchoices 0 _ rfl (by decide)⟩

end Questionnaire
