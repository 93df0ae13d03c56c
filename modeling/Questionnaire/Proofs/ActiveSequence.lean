import Questionnaire.Proofs.Visibility

/-!
# The active sequence

The questions that are shown stand in the order of the form. So where no id is repeated, what is later in
the sequence is later in the form, and the other way round.

* `mem_activeIds_iff`: an id is active if a question that carries it is shown.
* `id_mem_activeIds_iff`: where no id is repeated, that is the question itself.
* `activeIds_sublist`: the sequence keeps the order of the form.
* `position_lt_of_place_lt`, `place_lt_of_position_lt`: places in the sequence and positions in the form.
* `mem_take_activeIds_iff`: what stands in front of a place is what is shown in front of its position.
* `head?_activeIds_bind_indexOf?`: the sequence starts with the first question that is shown.
-/

namespace Questionnaire

variable {qs : List Question} {A : Answers}

/-! ## What is in it -/

/-- The flag of a question is told by its place. -/
theorem getElem?_visibleFlags {i : Nat} {q : Question} (hq : qs[i]? = some q) :
    (visibleFlags qs A)[i]? = some (q.isVisibleAt (some i) A qs) := by
  rw [visibleFlags, List.getElem?_mapIdx, hq, Option.map_some]

/-- The active questions are those that are visible at their places. -/
theorem mem_activeQuestions_iff {q : Question} :
    q ∈ activeQuestions qs A ↔ ∃ i, qs[i]? = some q ∧ q.isVisibleAt (some i) A qs = true := by
  unfold activeQuestions visibleFlags
  rw [List.mem_filterMap]
  constructor
  · rintro ⟨⟨p, visible⟩, he, hp⟩
    cases visible with
    | false => cases hp
    | true =>
      obtain rfl : p = q := Option.some.inj hp
      -- the flag that stands beside the question is its own
      obtain ⟨i, hi⟩ := List.mem_iff_getElem?.mp he
      obtain ⟨hq, hshown⟩ := List.getElem?_zip_eq_some.mp hi
      rw [List.getElem?_mapIdx, hq] at hshown
      exact ⟨i, hq, Option.some.inj hshown⟩
  · rintro ⟨i, hq, hshown⟩
    refine ⟨(q, true), List.mem_iff_getElem?.mpr ⟨i, ?_⟩, rfl⟩
    rw [List.getElem?_zip_eq_some, List.getElem?_mapIdx, hq]
    exact ⟨rfl, congrArg some hshown⟩

/-- The active ids are those of questions that are visible at their places. -/
theorem mem_activeIds_iff {id : Text} :
    id ∈ activeIds qs A ↔
      ∃ (i : Nat) (q : Question), qs[i]? = some q ∧ q.id = id ∧ q.isVisibleAt (some i) A qs = true := by
  unfold activeIds
  rw [List.mem_map]
  constructor
  · rintro ⟨q, hmem, rfl⟩
    obtain ⟨i, hq, hshown⟩ := mem_activeQuestions_iff.mp hmem
    exact ⟨i, q, hq, rfl, hshown⟩
  · rintro ⟨i, q, hq, rfl, hshown⟩
    exact ⟨q, mem_activeQuestions_iff.mpr ⟨i, hq, hshown⟩, rfl⟩

/-- What is active is found in the form. -/
theorem exists_indexOf?_of_mem_activeIds {id : Text} (h : id ∈ activeIds qs A) :
    ∃ i, indexOf? qs id = some i := by
  obtain ⟨k, q, hq, rfl, -⟩ := mem_activeIds_iff.mp h
  cases hi : indexOf? qs q.id with
  | some i => exact ⟨i, rfl⟩
  | none =>
    rw [indexOf?_eq_idxOf?, idxOf?_eq_none_iff] at hi
    exact absurd (mem_questionIds_of_getElem? hq) hi

/-- Where no id is repeated, the id of a question is active if the question is shown. -/
theorem id_mem_activeIds_iff (hids : (questionIds qs).Nodup) {i : Nat} {q : Question} (hq : qs[i]? = some q) :
    q.id ∈ activeIds qs A ↔ q.isVisibleAt (some i) A qs = true := by
  rw [mem_activeIds_iff]
  constructor
  · rintro ⟨j, r, hj, hid, hshown⟩
    have hji : j = i := by
      have hfound := indexOf?_of_nodup hids hj
      rw [hid, indexOf?_of_nodup hids hq] at hfound
      exact (Option.some.inj hfound).symm
    rw [hji] at hj hshown
    have hsame : r = q := Option.some.inj (hj.symm.trans hq)
    rwa [← hsame]
  · intro hshown
    exact ⟨i, q, hq, rfl, hshown⟩

/-! ## Its order -/

/-- What is kept of a list by flags stands in the order of the list. -/
theorem filterMap_zip_sublist {α : Type} (xs : List α) (flags : List Bool) :
    ((xs.zip flags).filterMap fun (x, keep) => if keep then some x else none).Sublist xs := by
  induction xs generalizing flags with
  | nil => simp
  | cons x xs ih =>
    rcases flags with _ | ⟨_ | _, flags⟩
    · simp
    · exact (ih flags).cons x
    · exact (ih flags).cons_cons x

/-- Active ids stand in the order of the questions. -/
theorem activeIds_sublist (qs : List Question) (A : Answers) : (activeIds qs A).Sublist (questionIds qs) :=
  (filterMap_zip_sublist qs (visibleFlags qs A)).map _

/-- Where no id is repeated, none is active twice. -/
theorem nodup_activeIds (hids : (questionIds qs).Nodup) : (activeIds qs A).Nodup :=
  hids.sublist (activeIds_sublist qs A)

/-- Of distinct ids, those of a part of them in the same order are that part. -/
theorem filter_mem_of_sublist {ids all : List Text} (h : ids.Sublist all) (hall : all.Nodup) :
    all.filter (· ∈ ids) = ids := by
  induction h with
  | slnil => rfl
  | @cons part rest id hpart ih =>
    rw [List.nodup_cons] at hall
    have hnot : id ∉ part := fun hmem => hall.1 (hpart.subset hmem)
    rw [List.filter_cons_of_neg (by simpa using hnot), ih hall.2]
  | @cons_cons part rest id hpart ih =>
    rw [List.nodup_cons] at hall
    have hrest : rest.filter (· ∈ id :: part) = rest.filter (· ∈ part) := by
      apply List.filter_congr
      intro t ht
      have hne : t ≠ id := fun hsame => hall.1 (hsame ▸ ht)
      simp [hne]
    rw [List.filter_cons_of_pos (by simp), hrest, ih hall.2]

/-- Does an id stand in front of another in a form? -/
def StandsBefore (qs : List Question) (a b : Text) : Prop :=
  ∀ i j, indexOf? qs a = some i → indexOf? qs b = some j → i < j

/-- Then each id stands in front of those that follow it. -/
theorem pairwise_standsBefore_questionIds (hids : (questionIds qs).Nodup) :
    (questionIds qs).Pairwise (StandsBefore qs) := by
  rw [List.pairwise_iff_getElem]
  intro i j hi hj hij k l hk hl
  -- each of the two ids is found at its own position
  have hfound : ∀ m (hm : m < (questionIds qs).length), indexOf? qs (questionIds qs)[m] = some m := by
    intro m hm
    have hlt : m < qs.length := by simpa [questionIds] using hm
    have hid : (questionIds qs)[m] = qs[m].id := by simp [questionIds]
    rw [hid]
    exact indexOf?_of_nodup hids (List.getElem?_eq_getElem hlt)
  rw [hfound i hi] at hk
  rw [hfound j hj] at hl
  obtain rfl := Option.some.inj hk
  obtain rfl := Option.some.inj hl
  exact hij

variable {a b : Text} {i j k l : Nat}

/-- Where no id is repeated, what is later in the sequence is later in the form. -/
theorem position_lt_of_place_lt (hids : (questionIds qs).Nodup) (ha : (activeIds qs A)[k]? = some a)
    (hb : (activeIds qs A)[l]? = some b) (hi : indexOf? qs a = some i) (hj : indexOf? qs b = some j)
    (hkl : k < l) : i < j := by
  have hpairs := (pairwise_standsBefore_questionIds hids).sublist (activeIds_sublist qs A)
  obtain ⟨hk, rfl⟩ := List.getElem?_eq_some_iff.mp ha
  obtain ⟨hl, rfl⟩ := List.getElem?_eq_some_iff.mp hb
  exact List.pairwise_iff_getElem.mp hpairs k l hk hl hkl i j hi hj

/-- And what is later in the form is later in the sequence. -/
theorem place_lt_of_position_lt (hids : (questionIds qs).Nodup) (ha : (activeIds qs A)[k]? = some a)
    (hb : (activeIds qs A)[l]? = some b) (hi : indexOf? qs a = some i) (hj : indexOf? qs b = some j)
    (hij : i < j) : k < l := by
  by_contra hlk
  rcases Nat.lt_or_eq_of_le (Nat.le_of_not_lt hlk) with hlt | rfl
  · have hji : j < i := position_lt_of_place_lt hids hb ha hj hi hlt
    omega
  · obtain rfl : a = b := Option.some.inj (ha.symm.trans hb)
    have hsame : i = j := Option.some.inj (hi.symm.trans hj)
    omega

/-- What stands in front of a place of the sequence is what is shown in front of its position in the form. -/
theorem mem_take_activeIds_iff (hids : (questionIds qs).Nodup) (ha : (activeIds qs A)[k]? = some a)
    (hi : indexOf? qs a = some i) :
    b ∈ (activeIds qs A).take k ↔
      ∃ (j : Nat) (q : Question), j < i ∧ qs[j]? = some q ∧ q.id = b ∧ q.isVisibleAt (some j) A qs = true := by
  rw [mem_take_iff_getElem?]
  constructor
  · rintro ⟨l, hlk, hl⟩
    obtain ⟨j, q, hj, rfl, hshown⟩ := mem_activeIds_iff.mp (List.mem_of_getElem? hl)
    exact ⟨j, q, position_lt_of_place_lt hids hl ha (indexOf?_of_nodup hids hj) hi hlk, hj, rfl, hshown⟩
  · rintro ⟨j, q, hji, hj, rfl, hshown⟩
    obtain ⟨l, hl⟩ := List.mem_iff_getElem?.mp (mem_activeIds_iff.mpr ⟨j, q, hj, rfl, hshown⟩)
    exact ⟨l, place_lt_of_position_lt hids hl ha (indexOf?_of_nodup hids hj) hi hji, hl⟩

/-- Where no id is repeated, the sequence starts with the first question that is shown, if there is any. -/
theorem head?_activeIds_bind_indexOf? (hids : (questionIds qs).Nodup) :
    (activeIds qs A).head?.bind (indexOf? qs) = (visibleFlags qs A).findIdx? fun visible => visible := by
  cases hhead : (activeIds qs A).head? with
  | none =>
    rw [Option.bind_none, eq_comm, List.findIdx?_eq_none_iff]
    intro visible hmem
    rcases List.mem_iff_getElem?.mp hmem with ⟨i, hi⟩
    rw [visibleFlags, List.getElem?_mapIdx] at hi
    rcases Option.map_eq_some_iff.mp hi with ⟨q, hq, hshown⟩
    rw [List.head?_eq_none_iff] at hhead
    have hnot : q.id ∉ activeIds qs A := by simp [hhead]
    rw [id_mem_activeIds_iff hids hq, hshown] at hnot
    simpa using hnot
  | some id =>
    have hfirst : (activeIds qs A)[0]? = some id := by rwa [← List.head?_eq_getElem?]
    rcases mem_activeIds_iff.mp (List.mem_of_getElem? hfirst) with ⟨i, q, hq, hid, hshown⟩
    have hi : indexOf? qs id = some i := hid ▸ indexOf?_of_nodup hids hq
    rw [Option.bind_some, hi, eq_comm, List.findIdx?_eq_some_iff_getElem]
    rcases List.getElem?_eq_some_iff.mp (getElem?_visibleFlags hq) with ⟨hbound, hvalue⟩
    refine ⟨hbound, hvalue.trans hshown, ?_⟩
    -- what is shown in front would have a place in front of the first
    intro j hj hfront
    have hjq : j < qs.length := by
      have hlength : (visibleFlags qs A).length = qs.length := by simp [visibleFlags]
      omega
    have hr : qs[j]? = some qs[j] := List.getElem?_eq_getElem hjq
    have hshown' : (qs[j]).isVisibleAt (some j) A qs = true := by
      rcases List.getElem?_eq_some_iff.mp (getElem?_visibleFlags hr) with ⟨_, hvalue⟩
      rw [← hvalue]
      exact hfront
    rcases List.mem_iff_getElem?.mp ((id_mem_activeIds_iff hids hr).mpr hshown') with ⟨l, hl⟩
    have hbefore := place_lt_of_position_lt hids hl hfirst (indexOf?_of_nodup hids hr) hi hj
    omega

end Questionnaire
