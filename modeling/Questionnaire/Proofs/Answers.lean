import Mathlib.Data.List.Basic
import Mathlib.Data.List.Dedup
import Mathlib.Data.List.Induction
import Mathlib.Data.List.Nodup
import Questionnaire.Answers.Basic

/-!
# Laws of answers

Answers are entries under pairwise distinct keys. Setting a key changes what is under it and nothing
else, and a list of entries whose keys are already distinct is taken over as it stands.

* `Fields.get?_set`, `Fields.get?_erase`: what is under a key after a change.
* `Fields.nodup_keys_set`, `Fields.nodup_keys_erase`: changes keep the keys distinct.
* `Fields.ofEntries_eq_self`: nothing is merged where no key is repeated.
* `Fields.keys_ofEntries`, `Fields.get?_ofEntries`: where a merged entry stands, and which value it holds.
* `Answers.given?_put`: an answer after one was recorded or taken away.
-/

namespace Questionnaire

/-- Under distinct keys, what is looked up is what is entered. -/
theorem lookup_eq_some_iff_mem {β : Type} {entries : List (Text × β)} (h : (entries.map (·.1)).Nodup)
    {key : Text} {v : β} : entries.lookup key = some v ↔ (key, v) ∈ entries := by
  induction entries with
  | nil => simp
  | cons e rest ih =>
    obtain ⟨k, w⟩ := e
    rw [List.map_cons, List.nodup_cons] at h
    rw [List.lookup_cons, List.mem_cons]
    by_cases hk : key = k
    · subst hk
      have hrest : (key, v) ∉ rest := fun hmem => h.1 (List.mem_map.mpr ⟨_, hmem, rfl⟩)
      simp [hrest, eq_comm]
    · have hbeq : (key == k) = false := beq_eq_false_iff_ne.mpr hk
      simp [hbeq, ih h.2, hk]

/-- Only a text equals a text. -/
@[simp] theorem Json.equals_str {v : Json} {s : Text} : v.equals (.str s) = true ↔ v = .str s := by
  cases v <;> simp [equals]

namespace Fields

/-- The keys of entries, in order. -/
def keys (fields : Fields) : List Text := fields.map (·.1)

@[simp] theorem keys_nil : keys [] = [] := rfl

@[simp] theorem keys_cons (key : Text) (v : Json) (fields : Fields) :
    keys ((key, v) :: fields) = key :: keys fields := rfl

@[simp] theorem get?_nil (key : Text) : get? [] key = none := rfl

/-- A key is found at the first entry with it. -/
theorem get?_cons (k key : Text) (v : Json) (fields : Fields) :
    get? ((k, v) :: fields) key = if key = k then some v else get? fields key := by
  unfold get?
  rw [List.lookup_cons]
  by_cases h : key = k
  · simp [h]
  · have hbeq : (key == k) = false := beq_eq_false_iff_ne.mpr h
    simp [h, hbeq]

/-- A key is not found exactly if no entry has it. -/
theorem get?_eq_none_iff {fields : Fields} {key : Text} : get? fields key = none ↔ key ∉ keys fields := by
  induction fields with
  | nil => simp
  | cons entry rest ih =>
    obtain ⟨k, v⟩ := entry
    rw [get?_cons, keys_cons]
    by_cases h : key = k
    · simp [h]
    · simp [h, ih]

/-- What is under a key after another or the same one was set. -/
theorem get?_set (fields : Fields) (key k : Text) (v : Json) :
    get? (set fields key v) k = if k = key then some v else get? fields k := by
  induction fields with
  | nil => simp [set, get?_cons]
  | cons entry rest ih =>
    obtain ⟨k', v'⟩ := entry
    by_cases hk : k' = key
    · -- the key is set in its place
      simp only [set, hk, if_true, get?_cons]
      by_cases h : k = key <;> simp [h]
    · simp only [set, hk, if_false, get?_cons, ih]
      by_cases h : k = k'
      · simp [h, hk]
      · simp [h]

/-- What is under a key after another or the same one was removed. -/
theorem get?_erase (fields : Fields) (key k : Text) :
    get? (erase fields key) k = if k = key then none else get? fields k := by
  induction fields with
  | nil => simp [erase]
  | cons entry rest ih =>
    obtain ⟨k', v'⟩ := entry
    have herase : erase ((k', v') :: rest) key =
        if k' = key then erase rest key else (k', v') :: erase rest key := by
      by_cases hk : k' = key <;> simp [erase, hk]
    by_cases hk : k' = key
    · rw [herase, if_pos hk, ih, get?_cons]
      by_cases h : k = key <;> simp [h, hk]
    · rw [herase, if_neg hk, get?_cons, get?_cons, ih]
      by_cases h : k = k'
      · simp [h, hk]
      · simp [h]

/-- A value that is set anew keeps its place. -/
theorem keys_set_of_mem {fields : Fields} {key : Text} (v : Json) (h : key ∈ keys fields) :
    keys (set fields key v) = keys fields := by
  induction fields with
  | nil => simp at h
  | cons entry rest ih =>
    obtain ⟨k, v'⟩ := entry
    by_cases hk : k = key
    · simp [set, hk]
    · have hrest : key ∈ keys rest := by
        rcases List.mem_cons.mp h with h | h
        · exact absurd h.symm hk
        · exact h
      simp [set, hk, ih hrest]

/-- A key that is not there is set at the end. -/
theorem set_of_notMem {fields : Fields} {key : Text} (v : Json) (h : key ∉ keys fields) :
    set fields key v = fields ++ [(key, v)] := by
  induction fields with
  | nil => rfl
  | cons entry rest ih =>
    obtain ⟨k, v'⟩ := entry
    simp only [keys_cons, List.mem_cons, not_or] at h
    have hk : k ≠ key := fun e => h.1 e.symm
    simp [set, hk, ih h.2]

/-- The keys of entries that are put together. -/
theorem keys_append (fields more : Fields) : keys (fields ++ more) = keys fields ++ keys more :=
  List.map_append

/-- The keys after one was set: as before, or one more at the end. -/
theorem keys_set (fields : Fields) (key : Text) (v : Json) :
    keys (set fields key v) = if key ∈ keys fields then keys fields else keys fields ++ [key] := by
  by_cases h : key ∈ keys fields
  · simp [h, keys_set_of_mem v h]
  · simp [h, set_of_notMem v h, keys_append]

/-- Setting a value repeats no key. -/
theorem nodup_keys_set {fields : Fields} (key : Text) (v : Json) (h : (keys fields).Nodup) :
    (keys (set fields key v)).Nodup := by
  rw [keys_set]
  split
  · exact h
  · next hnot => exact List.nodup_append.mpr ⟨h, by simp, by
      rintro a ha b hb rfl
      exact hnot (by simpa using List.mem_singleton.mp hb ▸ ha)⟩

/-- Erasing takes away one key. -/
theorem keys_erase (fields : Fields) (key : Text) :
    keys (erase fields key) = (keys fields).filter (· ≠ key) := by
  simp [keys, erase, List.filter_map, Function.comp_def]

/-- It repeats none. -/
theorem nodup_keys_erase {fields : Fields} (key : Text) (h : (keys fields).Nodup) :
    (keys (erase fields key)).Nodup := by
  rw [keys_erase]
  exact h.filter _

/-- Entries are added one after the other where no key is repeated. -/
theorem foldl_set_eq_append (fields entries : Fields) (h : (keys (fields ++ entries)).Nodup) :
    entries.foldl (fun fields (key, v) => set fields key v) fields = fields ++ entries := by
  induction entries generalizing fields with
  | nil => simp
  | cons entry rest ih =>
    obtain ⟨key, v⟩ := entry
    have hnot : key ∉ keys fields := by
      intro hmem
      rw [keys_append] at h
      exact (List.nodup_append.mp h).2.2 key hmem key (by simp) rfl
    have hnext : fields ++ (key, v) :: rest = fields ++ [(key, v)] ++ rest := by simp
    rw [List.foldl_cons]
    change rest.foldl _ (set fields key v) = _
    rw [set_of_notMem v hnot, hnext]
    apply ih
    rwa [← hnext]

/-- Entries whose keys are distinct are taken over as they stand. -/
theorem ofEntries_eq_self {entries : Fields} (h : (keys entries).Nodup) : ofEntries entries = entries :=
  foldl_set_eq_append [] entries h

/-- The last entry is set behind the others. -/
theorem ofEntries_concat (entries : Fields) (key : Text) (v : Json) :
    ofEntries (entries ++ [(key, v)]) = set (ofEntries entries) key v := by
  simp [ofEntries, List.foldl_append]

/-- Merged entries have distinct keys. -/
theorem nodup_keys_ofEntries (entries : Fields) : (keys (ofEntries entries)).Nodup :=
  List.foldlRecOn (motive := fun merged => (keys merged).Nodup) entries _ List.nodup_nil
    fun _ h entry _ => nodup_keys_set entry.1 entry.2 h

/-- Of merged entries each stands where its key stood first. -/
theorem keys_ofEntries (entries : Fields) : keys (ofEntries entries) = (keys entries).eraseDups := by
  -- on the entries from the right, as they are merged
  induction entries using List.reverseRecOn with
  | nil => rfl
  | append_singleton entries entry ih =>
    rcases entry with ⟨key, v⟩
    rw [ofEntries_concat, keys_set, ih, keys_append, List.eraseDups_append, keys_cons, keys_nil]
    by_cases h : key ∈ keys entries
    · have hold : [key].removeAll (keys entries) = [] := by simp [List.removeAll, h]
      simp [h, hold]
    · have hnew : [key].removeAll (keys entries) = [key] := by simp [List.removeAll, h]
      simp [h, hnew, List.eraseDups_cons]

/-- Of merged entries each holds the last value under its key. -/
theorem get?_ofEntries (entries : Fields) (key : Text) :
    get? (ofEntries entries) key = get? entries.reverse key := by
  induction entries using List.reverseRecOn with
  | nil => rfl
  | append_singleton entries entry ih =>
    rcases entry with ⟨k, v⟩
    rw [ofEntries_concat, get?_set, ih, List.reverse_append, List.reverse_singleton, List.singleton_append, get?_cons]

/-- No entry is merged exactly if no key is repeated. -/
theorem length_ofEntries_eq_iff {entries : Fields} :
    (ofEntries entries).length = entries.length ↔ (keys entries).Nodup := by
  constructor
  · intro hlength
    -- the keys are those of the entries without the repeated ones
    have hperm : (keys (ofEntries entries)).Perm (keys entries).dedup := by
      rw [List.perm_ext_iff_of_nodup (nodup_keys_ofEntries entries) (List.nodup_dedup _)]
      intro key
      rw [keys_ofEntries, List.mem_eraseDups, List.mem_dedup]
    have hdedup : (keys entries).dedup.length = (keys entries).length := by
      rw [← hperm.length_eq]
      simpa [keys] using hlength
    exact List.dedup_eq_self.mp ((List.dedup_sublist _).eq_of_length hdedup)
  · intro hkeys
    rw [ofEntries_eq_self hkeys]

/-- What is under a changed key, where no other key is changed to the same. -/
theorem get?_map {f : Text → Text} {g : Text → Json → Json} {fields : Fields} {key : Text}
    (h : ∀ k ∈ keys fields, f k = f key → k = key) :
    get? (fields.map fun (k, v) => (f k, g k v)) (f key) = (get? fields key).map (g key) := by
  induction fields with
  | nil => rfl
  | cons entry rest ih =>
    obtain ⟨k, v⟩ := entry
    have hrest := ih fun k' hk' => h k' (List.mem_cons_of_mem _ hk')
    rw [List.map_cons, get?_cons, get?_cons, hrest]
    by_cases hk : key = k
    · simp [hk]
    · have hne : f key ≠ f k := fun e => hk (h k (by simp) e.symm).symm
      simp [hk, hne]

/-- A key is set under its changed name, where no other key is changed to the same. -/
theorem map_set {f : Text → Text} {g : Text → Json → Json} {fields : Fields} {key : Text} (v : Json)
    (h : ∀ k ∈ keys fields, f k = f key → k = key) :
    (set fields key v).map (fun (k, v) => (f k, g k v)) =
      set (fields.map fun (k, v) => (f k, g k v)) (f key) (g key v) := by
  induction fields with
  | nil => rfl
  | cons entry rest ih =>
    obtain ⟨k, w⟩ := entry
    have hrest := ih fun k' hk' => h k' (List.mem_cons_of_mem _ hk')
    by_cases hk : k = key
    · simp [set, hk]
    · have hne : f k ≠ f key := fun e => hk (h k (by simp) e)
      simp [set, hk, hne, hrest]

/-- A key is removed under its changed name, where no other key is changed to the same. -/
theorem map_erase {f : Text → Text} {g : Text → Json → Json} {fields : Fields} {key : Text}
    (h : ∀ k ∈ keys fields, f k = f key → k = key) :
    (erase fields key).map (fun (k, v) => (f k, g k v)) =
      erase (fields.map fun (k, v) => (f k, g k v)) (f key) := by
  rw [erase, erase, List.filter_map]
  congr 1
  apply List.filter_congr
  rintro ⟨k, v⟩ he
  have hiff : f k = f key ↔ k = key := ⟨h k (List.mem_map.mpr ⟨_, he, rfl⟩), fun e => e ▸ rfl⟩
  simp [hiff]

/-- What is in entries after a key was set. -/
theorem mem_of_mem_set {fields : Fields} {key : Text} {v : Json} {entry : Text × Json}
    (h : entry ∈ set fields key v) : entry = (key, v) ∨ entry ∈ fields := by
  induction fields with
  | nil => simpa [set] using h
  | cons e rest ih =>
    obtain ⟨k, w⟩ := e
    by_cases hk : k = key
    · simp only [set, hk, if_true, List.mem_cons] at h ⊢
      rcases h with h | h
      · exact .inl h
      · exact .inr (.inr h)
    · simp only [set, hk, if_false, List.mem_cons] at h ⊢
      rcases h with h | h
      · exact .inr (.inl h)
      · rcases ih h with h | h
        · exact .inl h
        · exact .inr (.inr h)

end Fields

namespace Answers

/-- An answer after one was recorded or, by null, taken away. -/
theorem given?_put (A : Answers) (id key : Text) (v : Json) :
    (A.put id v).given? key =
      if key = id then (if v = .null then none else some v) else A.given? key := by
  -- a null is taken back, and anything else is recorded
  by_cases hnull : v = .null
  · subst hnull
    unfold given? put
    rw [Fields.get?_erase]
    by_cases h : key = id <;> simp [h]
  · have hput : A.put id v = Fields.set A id v := by
      cases v with
      | null => exact absurd rfl hnull
      | _ => rfl
    unfold given?
    rw [hput, Fields.get?_set]
    by_cases h : key = id
    · simp only [h, if_true, if_neg hnull]
      cases v with
      | null => exact absurd rfl hnull
      | _ => rfl
    · simp [h]

/-- Recording or taking away an answer changes no other answer. -/
theorem given?_put_of_ne {A : Answers} {id key : Text} (v : Json) (hne : key ≠ id) :
    (A.put id v).given? key = A.given? key := by
  rw [given?_put, if_neg hne]

end Answers
end Questionnaire
