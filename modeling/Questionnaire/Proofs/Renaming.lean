import Mathlib.Data.List.Nodup
import Questionnaire.Proofs.Answers
import Questionnaire.Proofs.Names
import Questionnaire.Proofs.Positions

/-!
# Renaming by position

A list of ids is renamed by position, and a repeated id has the name of its first position. An id that
is not in the list keeps its text, which may happen to be the name of a position.

* `Renaming.find?_byPosition`: the new name of an id is that of its first position.
* `Renaming.mem_names_byPosition`: only first positions give new names.
* `idxOf?_positionNames`: in the list of all names, a name stands at its position.
* `idxOf?_apply_byPosition`: where an id is found once everything has its new name.
-/

namespace Questionnaire

/-! ## First elements -/

section Firsts

variable {α β : Type} (id : α → Text)

/-- The head is kept unless its id has been seen. -/
theorem firsts_cons (p : Nat) (seen : List Text) (x : α) (xs : List α) :
    firsts id p seen (x :: xs) =
      if id x ∈ seen then firsts id (p + 1) seen xs
      else (p, x) :: firsts id (p + 1) (id x :: seen) xs := rfl

/-- What is found behind a first element is found one place further on. -/
theorem bind_map_succ (f : Nat → α → β) (p : Nat) (x : α) (xs : List α) (found : Option Nat) :
    ((found.map (· + 1)).bind fun k => ((x :: xs)[k]?).map (f (p + k))) =
      found.bind fun k => (xs[k]?).map (f (p + 1 + k)) := by
  cases found with
  | none => rfl
  | some k => simp [Nat.add_assoc, Nat.add_comm 1]

/-- What is made of the first element with an id is found under the id. -/
theorem lookup_firsts (f : Nat → α → β) (p : Nat) (seen : List Text) (xs : List α) (key : Text) :
    ((firsts id p seen xs).map fun (k, x) => (id x, f k x)).lookup key =
      if key ∈ seen then none
      else (xs.findIdx? fun x => id x = key).bind fun k => (xs[k]?).map (f (p + k)) := by
  induction xs generalizing p seen with
  | nil => simp [firsts]
  | cons x xs ih =>
    rw [firsts_cons]
    by_cases hx : id x ∈ seen
    · -- a repetition is skipped, and its id is not looked for
      rw [if_pos hx, ih]
      by_cases hkey : key ∈ seen
      · simp [hkey]
      · have hne : id x ≠ key := fun e => hkey (e ▸ hx)
        simp [hkey, hne, List.findIdx?_cons, bind_map_succ]
    · rw [if_neg hx, List.map_cons, List.lookup_cons, ih]
      by_cases heq : id x = key
      · have hkey : key ∉ seen := heq ▸ hx
        simp [heq, hkey, List.findIdx?_cons]
      · have hbeq : (key == id x) = false := beq_eq_false_iff_ne.mpr fun e => heq e.symm
        have hne : key ≠ id x := fun e => heq e.symm
        have hmem : key ∈ id x :: seen ↔ key ∈ seen := by simp [hne]
        simp only [hbeq, hmem, List.findIdx?_cons, heq, decide_false]
        by_cases hkey : key ∈ seen
        · simp [hkey]
        · simp [hkey, bind_map_succ]

/-- The ids of first elements are new. -/
theorem notMem_seen_of_mem_firsts {p : Nat} {seen : List Text} {xs : List α} {e : Nat × α}
    (h : e ∈ firsts id p seen xs) : id e.2 ∉ seen := by
  induction xs generalizing p seen with
  | nil => simp [firsts] at h
  | cons x xs ih =>
    rw [firsts_cons] at h
    by_cases hx : id x ∈ seen
    · rw [if_pos hx] at h
      exact ih h
    · rw [if_neg hx] at h
      rcases List.mem_cons.mp h with rfl | h
      · exact hx
      · intro hseen
        exact ih h (List.mem_cons_of_mem _ hseen)

/-- First elements have pairwise distinct ids. -/
theorem nodup_ids_firsts (p : Nat) (seen : List Text) (xs : List α) :
    ((firsts id p seen xs).map fun e => id e.2).Nodup := by
  induction xs generalizing p seen with
  | nil => simp [firsts]
  | cons x xs ih =>
    rw [firsts_cons]
    by_cases hx : id x ∈ seen
    · rw [if_pos hx]
      exact ih _ _
    · rw [if_neg hx, List.map_cons, List.nodup_cons]
      refine ⟨?_, ih _ _⟩
      intro hmem
      obtain ⟨e, he, hid⟩ := List.mem_map.mp hmem
      exact notMem_seen_of_mem_firsts id he (by simp [hid])

/-- Taking first elements by their ids is taking first ids. -/
theorem firsts_map (p : Nat) (seen : List Text) (xs : List α) :
    (firsts id p seen xs).map (fun e => (e.1, id e.2)) = firsts (fun t => t) p seen (xs.map id) := by
  induction xs generalizing p seen with
  | nil => rfl
  | cons x xs ih =>
    rw [List.map_cons, firsts_cons, firsts_cons]
    by_cases hx : id x ∈ seen
    · rw [if_pos hx, if_pos hx, ih]
    · rw [if_neg hx, if_neg hx, List.map_cons, ih]

end Firsts

/-! ## Names of positions -/

/-- Is an id the name of a position of a list? -/
def NamesPosition (name : Nat → Text) (ids : List Text) (id : Text) : Prop :=
  ∃ k < ids.length, id = name (k + 1)

instance (name : Nat → Text) (ids : List Text) (id : Text) : Decidable (NamesPosition name ids id) :=
  inferInstanceAs (Decidable (∃ k, k < ids.length ∧ id = name (k + 1)))

/-- Is an id the name of the first position of something in a list? -/
def NamesFirst (name : Nat → Text) (ids : List Text) (id : Text) : Prop :=
  ∃ old k, ids.idxOf? old = some k ∧ id = name (k + 1)

/-- The names of the positions of a list, in order. -/
def positionNames (name : Nat → Text) (n : Nat) : List Text := (List.range n).map fun k => name (k + 1)

/-- The name of a first occurrence is the name of a position. -/
theorem NamesFirst.namesPosition {name : Nat → Text} {ids : List Text} {id : Text}
    (h : NamesFirst name ids id) : NamesPosition name ids id := by
  obtain ⟨old, k, hk, rfl⟩ := h
  exact ⟨k, lt_length_of_idxOf? hk, rfl⟩

@[simp] theorem length_positionNames (name : Nat → Text) (n : Nat) : (positionNames name n).length = n := by
  simp [positionNames]

/-- The name at a place is that of the position one on, as positions are counted from 1. -/
theorem getElem?_positionNames (name : Nat → Text) (n k : Nat) :
    (positionNames name n)[k]? = if k < n then some (name (k + 1)) else none := by
  by_cases h : k < n <;> simp [positionNames, h]

/-- A name stands at its position, and nothing else is a name. -/
theorem idxOf?_positionNames {name : Nat → Text} (hname : Function.Injective name) {n k : Nat} {id : Text} :
    (positionNames name n).idxOf? id = some k ↔ k < n ∧ id = name (k + 1) := by
  constructor
  · intro h
    have hk : k < n := by simpa using lt_length_of_idxOf? h
    have hid := getElem?_of_idxOf? h
    rw [getElem?_positionNames, if_pos hk] at hid
    exact ⟨hk, (Option.some.inj hid).symm⟩
  · rintro ⟨hk, rfl⟩
    rw [List.idxOf?, List.findIdx?_eq_some_iff_getElem]
    refine ⟨by simpa using hk, by simp [positionNames], ?_⟩
    intro j hj
    have hne : name (j + 1) ≠ name (k + 1) := by
      intro e
      have hsucc : j + 1 = k + 1 := hname e
      omega
    simpa [positionNames] using hne

/-! ## What a renaming by position does -/

namespace Renaming

/-- A new name is found under some old id. -/
theorem mem_names_iff {r : Renaming} (h : (r.entries.map (·.1)).Nodup) {new : Text} :
    new ∈ r.names ↔ ∃ old, r.find? old = some new := by
  constructor
  · intro hmem
    obtain ⟨⟨old, n⟩, he, rfl⟩ := List.mem_map.mp hmem
    exact ⟨old, (lookup_eq_some_iff_mem h).mpr he⟩
  · rintro ⟨old, hold⟩
    exact List.mem_map.mpr ⟨(old, new), (lookup_eq_some_iff_mem h).mp hold, rfl⟩

/-- Does an id that has no new name equal one? -/
def Clashes (r : Renaming) (id : Text) : Prop := r.find? id = none ∧ id ∈ r.names

/-- Do different ids have different new names? -/
def Injective (r : Renaming) : Prop := ∀ a b new, r.find? a = some new → r.find? b = some new → a = b

/-- A new id that is found is one of the names. -/
theorem mem_names_of_find? {r : Renaming} {id new : Text} (h : r.find? id = some new) : new ∈ r.names := by
  obtain ⟨before, after, hsplit, -⟩ := List.lookup_eq_some_iff.mp h
  exact List.mem_map.mpr ⟨(id, new), by simp [hsplit], rfl⟩

/-- Ids that do not clash are kept apart. -/
theorem Injective.apply_inj {r : Renaming} (hr : r.Injective) {a b : Text} (ha : ¬ r.Clashes a)
    (hb : ¬ r.Clashes b) : r.apply a = r.apply b ↔ a = b := by
  refine ⟨?_, fun h => h ▸ rfl⟩
  intro h
  unfold apply at h
  cases hfa : r.find? a with
  | none =>
    cases hfb : r.find? b with
    | none => simpa [hfa, hfb] using h
    | some new =>
      -- the text of the one is the name of the other
      have heq : a = new := by simpa [hfa, hfb] using h
      exact absurd ⟨hfa, heq ▸ mem_names_of_find? hfb⟩ ha
  | some new =>
    cases hfb : r.find? b with
    | none =>
      have heq : new = b := by simpa [hfa, hfb] using h
      exact absurd ⟨hfb, heq ▸ mem_names_of_find? hfa⟩ hb
    | some other =>
      have heq : new = other := by simpa [hfa, hfb] using h
      exact hr a b new hfa (heq ▸ hfb)

/-- The renaming of nothing is injective. -/
theorem injective_empty : (⟨[]⟩ : Renaming).Injective := by
  intro a b new h
  cases h

variable (name : Nat → Text) (ids : List Text)

/-- The new name of an id is that of its first position. -/
theorem find?_byPosition (id : Text) :
    (byPosition name ids).find? id = (ids.idxOf? id).map fun k => name (k + 1) := by
  have h := lookup_firsts (fun t : Text => t) (fun k _ => name k) 1 [] ids id
  simp only [List.not_mem_nil, if_false, findIdx?_eq_idxOf?] at h
  rw [find?, byPosition, h]
  cases hk : ids.idxOf? id with
  | none => rfl
  | some k => simp [getElem?_of_idxOf? hk, Nat.add_comm 1]

/-- Only first positions give new names. -/
theorem mem_names_byPosition (id : Text) :
    id ∈ (byPosition name ids).names ↔ NamesFirst name ids id := by
  have hkeys : ((byPosition name ids).entries.map (·.1)).Nodup := by
    have h := nodup_ids_firsts (fun t : Text => t) 1 [] ids
    simpa [byPosition, Function.comp_def] using h
  rw [mem_names_iff hkeys]
  unfold NamesFirst
  constructor
  · rintro ⟨old, hold⟩
    rw [find?_byPosition] at hold
    obtain ⟨k, hk, rfl⟩ := Option.map_eq_some_iff.mp hold
    exact ⟨old, k, hk, rfl⟩
  · rintro ⟨old, k, hk, rfl⟩
    exact ⟨old, by simp [find?_byPosition, hk]⟩

/-- A renaming by position clashes at what it does not rename but names a first position. -/
theorem clashes_byPosition_iff (id : Text) :
    (byPosition name ids).Clashes id ↔ id ∉ ids ∧ NamesFirst name ids id := by
  rw [Clashes, mem_names_byPosition, find?_byPosition, Option.map_eq_none_iff, idxOf?_eq_none_iff]

/-- Different ids have different first positions, and these have different names. -/
theorem injective_byPosition {name : Nat → Text} (hname : Function.Injective name) (ids : List Text) :
    (byPosition name ids).Injective := by
  intro a b new ha hb
  rw [find?_byPosition] at ha hb
  obtain ⟨k, hk, rfl⟩ := Option.map_eq_some_iff.mp ha
  obtain ⟨j, hj, hsame⟩ := Option.map_eq_some_iff.mp hb
  have hkj : j = k := by
    have hsucc : j + 1 = k + 1 := hname hsame
    omega
  subst hkj
  exact Option.some.inj ((getElem?_of_idxOf? hk).symm.trans (getElem?_of_idxOf? hj))

/-- An id is renamed to the name of the place where it stands first. -/
theorem apply_byPosition_of_idxOf? {id : Text} {k : Nat} (h : ids.idxOf? id = some k) :
    (byPosition name ids).apply id = name (k + 1) := by
  simp [apply, find?_byPosition, h]

/-- An id that is not in the list keeps its text. -/
theorem apply_byPosition_of_notMem {id : Text} (h : id ∉ ids) : (byPosition name ids).apply id = id := by
  simp [apply, find?_byPosition, idxOf?_eq_none_iff.mpr h]

/-- Where an id is found once everything has its new name: at its first position, or if it had none, at
the position that its text happens to name. -/
theorem idxOf?_apply_byPosition {name : Nat → Text} (hname : Function.Injective name) (ids : List Text)
    (id : Text) :
    (positionNames name ids.length).idxOf? ((byPosition name ids).apply id) =
      (ids.idxOf? id).or ((positionNames name ids.length).idxOf? id) := by
  cases hk : ids.idxOf? id with
  | none => simp [apply_byPosition_of_notMem name ids (idxOf?_eq_none_iff.mp hk)]
  | some k =>
    rw [apply_byPosition_of_idxOf? name ids hk, Option.some_or]
    exact (idxOf?_positionNames hname).mpr ⟨lt_length_of_idxOf? hk, rfl⟩

/-- An id that is not in the list comes to be found exactly if its text names a position. -/
theorem idxOf?_apply_eq_iff {name : Nat → Text} (hname : Function.Injective name) {ids : List Text}
    {id : Text} :
    (positionNames name ids.length).idxOf? ((byPosition name ids).apply id) = ids.idxOf? id ↔
      ¬ (id ∉ ids ∧ NamesPosition name ids id) := by
  rw [idxOf?_apply_byPosition hname]
  cases hk : ids.idxOf? id with
  | some k =>
    have hmem : id ∈ ids := List.mem_of_getElem? (getElem?_of_idxOf? hk)
    simp [hmem]
  | none =>
    have hnot : id ∉ ids := idxOf?_eq_none_iff.mp hk
    rw [Option.none_or, Option.eq_none_iff_forall_ne_some]
    constructor
    · rintro h ⟨-, k, hlt, hid⟩
      exact h k ((idxOf?_positionNames hname).mpr ⟨hlt, hid⟩)
    · intro h k hpos
      obtain ⟨hlt, hid⟩ := (idxOf?_positionNames hname).mp hpos
      exact h ⟨hnot, k, hlt, hid⟩

end Renaming

end Questionnaire
