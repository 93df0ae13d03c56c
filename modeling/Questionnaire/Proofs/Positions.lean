import Mathlib.Data.List.Nodup
import Questionnaire.Visibility

/-!
# Positions of ids

An id stands at the first position that carries it. In a form a question is found at the position of its
id, and every question is found so if no id is repeated.

* `indexOf?_eq_some_iff`: the position of an id is that of the first question that carries it.
* `mem_take_iff_of_idxOf?`: what is in the first part of a list of ids.
* `idxOf?_of_nodup`, `indexOf?_of_nodup`: where no id is repeated, each is found where it stands.
* `idxOf?_map_of_inj`: where an id stands once all ids are changed.
-/

namespace Questionnaire

/-! ## In a list of ids -/

/-- What is in the first part of a list stands at a position in front of the cut. -/
theorem mem_take_iff_getElem? {α : Type} {xs : List α} {x : α} {n : Nat} :
    x ∈ xs.take n ↔ ∃ k < n, xs[k]? = some x := by
  rw [List.mem_iff_getElem?]
  apply exists_congr
  intro k
  rw [List.getElem?_take]
  by_cases hk : k < n <;> simp [hk]

/-- The position of an id is one of the list. -/
theorem lt_length_of_idxOf? {ids : List Text} {id : Text} {k : Nat} (h : ids.idxOf? id = some k) :
    k < ids.length := by
  rw [List.idxOf?, List.findIdx?_eq_some_iff_getElem] at h
  exact h.1

/-- The id stands at its position. -/
theorem getElem?_of_idxOf? {ids : List Text} {id : Text} {k : Nat} (h : ids.idxOf? id = some k) :
    ids[k]? = some id := by
  rw [List.idxOf?, List.findIdx?_eq_some_iff_getElem] at h
  obtain ⟨hk, hid, -⟩ := h
  rw [List.getElem?_eq_getElem hk, eq_of_beq hid]

/-- An id stands nowhere in front of its position. -/
theorem le_of_idxOf? {ids : List Text} {id : Text} {k l : Nat} (h : ids.idxOf? id = some k)
    (hl : ids[l]? = some id) : k ≤ l := by
  rw [List.idxOf?, List.findIdx?_eq_some_iff_getElem] at h
  rcases h with ⟨_, -, hfirst⟩
  by_contra hlk
  have hlt : l < k := by omega
  rcases List.getElem?_eq_some_iff.mp hl with ⟨hbound, hid⟩
  exact hfirst l hlt (by simp [hid])

/-- An id is in the first part of a list if its position is in front of the cut. -/
theorem mem_take_iff_of_idxOf? {ids : List Text} {id : Text} {k n : Nat} (h : ids.idxOf? id = some k) :
    id ∈ ids.take n ↔ k < n := by
  rw [mem_take_iff_getElem?]
  constructor
  · rintro ⟨l, hl, hid⟩
    exact Nat.lt_of_le_of_lt (le_of_idxOf? h hid) hl
  · intro hk
    exact ⟨k, hk, getElem?_of_idxOf? h⟩

/-- An id has no position exactly if it is not in the list. -/
theorem idxOf?_eq_none_iff {ids : List Text} {id : Text} : ids.idxOf? id = none ↔ id ∉ ids := by
  rw [List.idxOf?, List.findIdx?_eq_none_iff]
  constructor
  · intro h hmem
    simpa using h id hmem
  · intro hnot x hx
    exact beq_eq_false_iff_ne.mpr fun e => hnot (e ▸ hx)

/-- Where no id is repeated, an id stands first where it stands. -/
theorem idxOf?_of_nodup {ids : List Text} (h : ids.Nodup) {id : Text} {k : Nat} (hk : ids[k]? = some id) :
    ids.idxOf? id = some k := by
  cases hl : ids.idxOf? id with
  | none => exact absurd (List.mem_of_getElem? hk) (idxOf?_eq_none_iff.mp hl)
  | some l =>
    have hsame : ids[l]? = ids[k]? := (getElem?_of_idxOf? hl).trans hk.symm
    exact congrArg some ((List.getElem?_inj (lt_length_of_idxOf? hl) h).mp hsame)

/-- Where no id is repeated, nothing in front of an id is the id. -/
theorem ne_of_mem_take {ids : List Text} (h : ids.Nodup) {a id : Text} {k : Nat} (hk : ids[k]? = some id)
    (ha : a ∈ ids.take k) : a ≠ id := by
  rintro rfl
  exact Nat.lt_irrefl k ((mem_take_iff_of_idxOf? (idxOf?_of_nodup h hk)).mp ha)

/-- Two ways to say where an id stands first. -/
theorem findIdx?_eq_idxOf? (ids : List Text) (id : Text) :
    (ids.findIdx? fun t => decide (t = id)) = ids.idxOf? id := by
  rw [List.idxOf?]
  congr 1
  funext t
  rw [Bool.eq_iff_iff]
  simp

/-- An id stands under its changed text where it stood, where no other id is changed to the same. -/
theorem idxOf?_map_of_inj {f : Text → Text} {ids : List Text} {id : Text}
    (h : ∀ t ∈ ids, f t = f id → t = id) : (ids.map f).idxOf? (f id) = ids.idxOf? id := by
  induction ids with
  | nil => rfl
  | cons t ids ih =>
    have hrest := ih fun t ht => h t (List.mem_cons_of_mem _ ht)
    rw [List.map_cons, List.idxOf?_cons, List.idxOf?_cons, hrest]
    by_cases ht : t = id
    · simp [ht]
    · have hne : f t ≠ f id := fun e => ht (h t (by simp) e)
      simp [ht, hne]

/-! ## In a form -/

/-- The ids of questions, in order. -/
def questionIds (qs : List Question) : List Text := qs.map (·.id)

/-- The id of a question in a list is among the ids. -/
theorem mem_questionIds_of_getElem? {qs : List Question} {k : Nat} {q : Question} (h : qs[k]? = some q) :
    q.id ∈ questionIds qs :=
  List.mem_map_of_mem (List.mem_of_getElem? h)

/-- A question is found at the first place with its id. -/
theorem indexOf?_eq_some_iff {qs : List Question} {id : Text} {k : Nat} :
    indexOf? qs id = some k ↔
      ∃ q, qs[k]? = some q ∧ q.id = id ∧ ∀ j < k, ∀ p, qs[j]? = some p → p.id ≠ id := by
  rw [indexOf?, List.findIdx?_eq_some_iff_getElem]
  constructor
  · rintro ⟨hk, hid, hfirst⟩
    refine ⟨qs[k], List.getElem?_eq_getElem hk, by simpa using hid, ?_⟩
    intro j hj p hp
    obtain ⟨hlt, rfl⟩ := List.getElem?_eq_some_iff.mp hp
    simpa using hfirst j hj
  · rintro ⟨q, hq, hid, hfirst⟩
    obtain ⟨hk, rfl⟩ := List.getElem?_eq_some_iff.mp hq
    refine ⟨hk, by simpa using hid, ?_⟩
    intro j hj
    simpa using hfirst j hj _ (List.getElem?_eq_getElem (Nat.lt_trans hj hk))

/-- The first question with an id is the one at the position of the id. -/
theorem find?_eq_bind_indexOf? (qs : List Question) (id : Text) :
    find? qs id = (indexOf? qs id).bind fun k => qs[k]? :=
  List.find?_eq_bind_findIdx?_getElem?

/-- What is found is in the list and has the id. -/
theorem find?_eq_some {qs : List Question} {id : Text} {q : Question} (h : find? qs id = some q) :
    q ∈ qs ∧ q.id = id := by
  refine ⟨List.mem_of_find?_eq_some h, ?_⟩
  simpa using List.find?_some h

/-- Cutting a form off loses the ids whose first question is cut off, and no other. -/
theorem find?_take (qs : List Question) (n : Nat) (id : Text) :
    find? (qs.take n) id = (indexOf? qs id).bind fun k => if k < n then qs[k]? else none := by
  have hcut : indexOf? (qs.take n) id = (indexOf? qs id).bind (Option.guard fun k => k < n) :=
    List.findIdx?_take
  rw [find?_eq_bind_indexOf?, hcut]
  cases indexOf? qs id with
  | none => rfl
  | some k => by_cases hk : k < n <;> simp [Option.guard, hk]

/-- To look for an id among things is to look for it among their ids. -/
theorem findIdx?_id_eq_idxOf? {α : Type} (id : α → Text) (xs : List α) (key : Text) :
    (xs.findIdx? fun x => id x = key) = (xs.map id).idxOf? key := by
  rw [← findIdx?_eq_idxOf?, List.findIdx?_map]
  rfl

/-- So it is with questions. -/
theorem indexOf?_eq_idxOf? (qs : List Question) (id : Text) : indexOf? qs id = (questionIds qs).idxOf? id :=
  findIdx?_id_eq_idxOf? Question.id qs id

/-- Where no id is repeated, a question is found where it stands. -/
theorem indexOf?_of_nodup {qs : List Question} (hids : (questionIds qs).Nodup) {k : Nat} {q : Question}
    (hq : qs[k]? = some q) : indexOf? qs q.id = some k := by
  rw [indexOf?_eq_idxOf?]
  apply idxOf?_of_nodup hids
  simp [questionIds, hq]

end Questionnaire
