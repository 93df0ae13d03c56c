import Questionnaire.Artifact.Behavior
import Questionnaire.Proofs.ClassPrefixes
import Questionnaire.Proofs.JsonReading
import Questionnaire.Proofs.WrittenForms

/-!
# The literal of the configuration

A script gets the form and the options as a literal that is ASCII alone and holds no `</`. Escaping and the
backslash after each `<` undo each other with the reading, except that two halves that stand next to each other
are read as the character they make.

* `guardClosings_append_cons`, `not_infix_guardClosings`: what the backslash after a `<` does.
* `spells_escapeAscii`: what stands between the quotes is read as the text it was written for.
* `Json.Plain.reads_writeIndented`: a written value, guarded, is read as it was, with its halves joined.
* `configuration_literal_decodes`: the literal is read as the configuration.
-/

namespace Questionnaire

/-! ## Joined halves -/

namespace CodePoint

/-- A number in the range of halves is read as a half. -/
theorem ofNat_of_half {n : Nat} (h : 0xD800 ≤ n ∧ n < 0xE000) :
    ∃ hindex : n - 0xD800 < 0x800, ofNat n = half ⟨n - 0xD800, hindex⟩ := by
  refine ⟨by omega, ?_⟩
  unfold ofNat
  rw [dif_pos h]

/-- A half keeps its number. -/
theorem toNat_ofNat_half {n : Nat} (h : 0xD800 ≤ n ∧ n < 0xE000) : (ofNat n).toNat = n := by
  obtain ⟨hindex, heq⟩ := ofNat_of_half h
  rw [heq]
  change 0xD800 + (n - 0xD800) = n
  omega

/-- What is read from the range is a half. -/
theorem isHalf_ofNat {n : Nat} (h : 0xD800 ≤ n ∧ n < 0xE000) : (ofNat n).isHalf = true := by
  obtain ⟨hindex, heq⟩ := ofNat_of_half h
  rw [heq]
  rfl

/-- Below the middle of the range it is a high one. -/
theorem isHighHalf_ofNat {n : Nat} (hlow : 0xD800 ≤ n) (hhigh : n < 0xDC00) : (ofNat n).isHighHalf = true := by
  have h : 0xD800 ≤ n ∧ n < 0xE000 := by omega
  simp [isHighHalf, isHalf_ofNat h, toNat_ofNat_half h, hhigh]

/-- From the middle on it is a low one. -/
theorem isLowHalf_ofNat {n : Nat} (hlow : 0xDC00 ≤ n) (hhigh : n < 0xE000) : (ofNat n).isLowHalf = true := by
  have h : 0xD800 ≤ n ∧ n < 0xE000 := by omega
  simp [isLowHalf, isHalf_ofNat h, toNat_ofNat_half h, hlow]

/-- The numbers of code points are bounded. -/
theorem toNat_lt (p : CodePoint) : p.toNat < 0x110000 := by
  cases p with
  | half index =>
    have hindex := index.isLt
    change 0xD800 + index.val < 0x110000
    omega
  | char c =>
    change c.toNat < 0x110000
    rcases c.valid with hlow | ⟨-, hhigh⟩
    · have : c.toNat < 0xD800 := hlow
      omega
    · exact hhigh

/-- A code point is the one of its number. -/
@[simp] theorem ofNat_toNat (p : CodePoint) : ofNat p.toNat = p := by
  cases p with
  | half index =>
    have hrange : 0xD800 ≤ 0xD800 + index.val ∧ 0xD800 + index.val < 0xE000 := by omega
    change ofNat (0xD800 + index.val) = half index
    obtain ⟨hindex, heq⟩ := ofNat_of_half hrange
    rw [heq]
    simp
  | char c =>
    -- a character is never in the range of halves
    have hvalid : ¬ (0xD800 ≤ c.toNat ∧ c.toNat < 0xE000) := by
      intro h
      rcases c.valid with hlow | ⟨hhigh, -⟩
      · have : c.toNat < 0xD800 := hlow
        omega
      · have : 0xDFFF < c.toNat := hhigh
        omega
    unfold ofNat toNat
    rw [dif_neg hvalid, Char.ofNat_toNat]

/-- Two halves make a character. -/
theorem isHalf_ofPair (high low : CodePoint) : (ofPair high low).isHalf = false := by
  have hrange : ¬ (0xD800 ≤ 0x10000 + (high.toNat - 0xD800) * 0x400 + (low.toNat - 0xDC00) ∧
      0x10000 + (high.toNat - 0xD800) * 0x400 + (low.toNat - 0xDC00) < 0xE000) := by omega
  unfold ofPair ofNat
  rw [dif_neg hrange]
  rfl

end CodePoint

namespace Text

/-- The first code point after the halves were joined is no low half unless it was one before. -/
theorem isLowHalf_head?_joinHalves {t : Text} (h : ∀ p ∈ t.head?, p.isLowHalf = false) :
    ∀ p ∈ t.joinHalves.head?, p.isLowHalf = false := by
  match t with
  | [] => simp [joinHalves]
  | [p] => simpa [joinHalves] using h
  | high :: low :: rest =>
    unfold joinHalves
    split
    · intro p hp
      have hp : CodePoint.ofPair high low = p := by simpa using hp
      simp [← hp, CodePoint.isLowHalf, CodePoint.isHalf_ofPair]
    · simpa using h

/-- There is nothing to join without halves. -/
theorem joinHalves_eq_self {t : Text} (h : ∀ p ∈ t, p.isHalf = false) : t.joinHalves = t := by
  induction t using joinHalves.induct with
  | case1 high low rest hpair ih =>
    have hhigh := h high (by simp)
    simp [CodePoint.isHighHalf, hhigh] at hpair
  | case2 high low rest hpair ih =>
    have hrest := ih fun p hp => h p (List.mem_cons_of_mem _ hp)
    rw [joinHalves, if_neg hpair, hrest]
  | case3 p => rfl
  | case4 => rfl

end Text

/-! ## Guarded texts -/

namespace Artifact

/-- Nothing but a less-than sign begins a closing. -/
theorem guardClosings_cons {c : CodePoint} (hc : c ≠ '<') (cs : Text) :
    guardClosings (c :: cs) = c :: guardClosings cs := by
  apply guardClosings.eq_2
  intro rest hlt _
  exact hc hlt

/-- Nothing is changed in front of the first `<`. -/
theorem guardClosings_append {a : Text} (ha : .char '<' ∉ a) (b : Text) :
    guardClosings (a ++ b) = a ++ guardClosings b := by
  induction a with
  | nil => rfl
  | cons c a ih =>
    simp only [List.mem_cons, not_or] at ha
    rw [List.cons_append, guardClosings_cons (Ne.symm ha.1), ih ha.2, List.cons_append]

/-- So a text without that sign stays as it is. -/
theorem guardClosings_eq_self {a : Text} (ha : .char '<' ∉ a) : guardClosings a = a := by
  have happend := guardClosings_append ha []
  simpa [guardClosings] using happend

/-- Texts are guarded one by one where the second does not start with a slash. -/
theorem guardClosings_append_cons {c : CodePoint} (hc : c ≠ '/') (a b : Text) :
    guardClosings (a ++ c :: b) = guardClosings a ++ guardClosings (c :: b) := by
  induction a using guardClosings.induct with
  | case1 rest ih => simp [guardClosings, ih]
  | case2 d rest hslash ih =>
    have happend : guardClosings (d :: (rest ++ c :: b)) = d :: guardClosings (rest ++ c :: b) := by
      apply guardClosings.eq_2
      intro more hlt heq
      cases rest with
      | nil => exact hc (List.cons.inj heq).1
      | cons e rest => exact hslash rest hlt (by rw [(List.cons.inj heq).1])
    have hfirst : guardClosings (d :: rest) = d :: guardClosings rest := guardClosings.eq_2 _ _ hslash
    rw [List.cons_append, happend, hfirst, ih, List.cons_append]
  | case3 => rfl

/-- A guarded text starts as the text does. -/
theorem head?_guardClosings (t : Text) : (guardClosings t).head? = t.head? := by
  unfold guardClosings
  split <;> rfl

/-- No `</` is left in a guarded text. -/
theorem not_infix_guardClosings (t : Text) : ¬ ("</" : Text) <:+: guardClosings t := by
  have hmark : ("</" : Text) = [.char '<', .char '/'] := rfl
  rw [hmark]
  induction t using guardClosings.induct with
  | case1 rest ih => simpa [guardClosings, List.infix_cons_iff, List.cons_prefix_cons] using ih
  | case2 c rest hslash ih =>
    intro h
    rw [guardClosings.eq_2 _ _ hslash, List.infix_cons_iff, List.cons_prefix_cons] at h
    rcases h with ⟨hlt, hnext⟩ | h
    · -- the slash would have to start the rest before it was guarded
      have hhead : rest.head? = some (.char '/') := by
        rw [← head?_guardClosings]
        obtain ⟨more, hmore⟩ := hnext
        rw [← hmore]
        rfl
      cases rest with
      | nil => simp at hhead
      | cons d rest => exact hslash rest hlt.symm (by rw [Option.some.inj hhead])
    · exact ih h
  | case3 => simp [guardClosings]

/-- Is a text guarded alike, whatever stands behind it? -/
def Standalone (a : Text) : Prop := ∀ b, guardClosings (a ++ b) = guardClosings a ++ guardClosings b

/-- It may be guarded apart from what follows it. -/
theorem standalone_of_notMem {a : Text} (ha : .char '<' ∉ a) : Standalone a := by
  intro b
  rw [guardClosings_append ha, guardClosings_eq_self ha]

/-- What follows the end of a text does not matter unless it ends in a `<`, or starts a pair itself. -/
theorem standalone_concat {c : CodePoint} (hlt : c ≠ '<') (hslash : c ≠ '/') (a : Text) : Standalone (a ++ [c]) := by
  intro b
  have hself := guardClosings_append_cons hslash a []
  rw [guardClosings_cons hlt] at hself
  rw [hself, List.append_assoc, List.singleton_append, guardClosings_append_cons hslash, guardClosings_cons hlt]
  simp [guardClosings]

end Artifact

/-! ## Escaped texts -/

namespace Json

open Reader Artifact

/-- The characters of an escaped unit. -/
theorem mem_unitEscape {n : Nat} {c : CodePoint} (h : c ∈ unitEscape n) : c ∈ ("\\u0123456789abcdef" : Text) := by
  have hdigit : ∀ k : Nat, .char (Text.hexDigit (k % 16)) ∈ ("0123456789abcdef" : Text) := by
    have hall : ∀ k : Fin 16, .char (Text.hexDigit k) ∈ ("0123456789abcdef" : Text) := by decide
    exact fun k => hall ⟨k % 16, Nat.mod_lt _ (by decide)⟩
  have hdigits : ∀ width k, ∀ c ∈ Text.hexDigits width k, c ∈ ("0123456789abcdef" : Text) := by
    intro width
    induction width with
    | zero => simp [Text.hexDigits]
    | succ width ih =>
      intro k c hc
      rcases List.mem_append.mp hc with hc | hc
      · exact ih _ c hc
      · exact List.mem_singleton.mp hc ▸ hdigit k
  rcases List.mem_append.mp h with h | h
  · exact List.mem_append_left ("0123456789abcdef" : Text) h
  · exact List.mem_append_right ("\\u" : Text) (hdigits 4 n c h)

/-- A short escape is a backslash and a character by which the code point is read. -/
theorem shortEscape?_eq_some {p : CodePoint} {cs : Text} (h : shortEscape? p = some cs) :
    ∃ c : CodePoint, cs = [.char '\\', c] ∧ Reader.shortEscape? c = some p ∧ c ∈ ("\"\\nrtbf" : Text) := by
  unfold shortEscape? at h
  split_ifs at h
  all_goals
    subst_vars
    cases h
    exact ⟨_, rfl, by decide, by decide⟩

/-- Quotes and backslashes have short escapes. -/
theorem ne_of_shortEscape?_eq_none {p : CodePoint} (h : shortEscape? p = none) : p ≠ '"' ∧ p ≠ '\\' := by
  constructor <;> rintro rfl <;> exact absurd h (by decide)

/-- A guarded `<` stands for itself, whether or not a backslash was put behind it. -/
theorem spells_guarded_lt {cs t : Text} (h : Spells (guardClosings cs) t) :
    Spells (guardClosings (.char '<' :: cs)) (.char '<' :: t) := by
  have hplain : ∀ {body : Text}, Spells body t → Spells (.char '<' :: body) (.char '<' :: t) :=
    fun h => h.plain (by decide) (by decide) (by decide)
  by_cases hslash : ∃ rest, cs = .char '/' :: rest
  · obtain ⟨rest, rfl⟩ := hslash
    rw [guardClosings_cons (by decide)] at h
    exact hplain h.slash
  · have hself : guardClosings (.char '<' :: cs) = .char '<' :: guardClosings cs :=
      guardClosings.eq_2 _ _ fun rest _ heq => hslash ⟨rest, heq⟩
    rw [hself]
    exact hplain h

/-- An escape by number holds no closing. -/
theorem guardClosings_unitEscape (n : Nat) (cs : Text) :
    guardClosings (unitEscape n ++ cs) = unitEscape n ++ guardClosings cs := by
  apply guardClosings_append
  intro h
  exact absurd (mem_unitEscape h) (by decide)

/-- The two units of a character beyond the first plane are halves that make it again. -/
theorem ofPair_units {n : Nat} (hlow : 0x10000 ≤ n) (hhigh : n < 0x110000) :
    CodePoint.ofPair (.ofNat (0xD800 + (n - 0x10000) / 0x400)) (.ofNat (0xDC00 + (n - 0x10000) % 0x400)) =
      .ofNat n := by
  have hfirst : (CodePoint.ofNat (0xD800 + (n - 0x10000) / 0x400)).toNat = 0xD800 + (n - 0x10000) / 0x400 :=
    CodePoint.toNat_ofNat_half (by omega)
  have hsecond : (CodePoint.ofNat (0xDC00 + (n - 0x10000) % 0x400)).toNat = 0xDC00 + (n - 0x10000) % 0x400 :=
    CodePoint.toNat_ofNat_half (by omega)
  have hsum : 0x10000 + (0xD800 + (n - 0x10000) / 0x400 - 0xD800) * 0x400 +
      (0xDC00 + (n - 0x10000) % 0x400 - 0xDC00) = n := by omega
  unfold CodePoint.ofPair
  rw [hfirst, hsecond, hsum]

/-- An escaped code point is read as it was, unless it is a high half in front of a low half. -/
theorem spells_escapeAscii_cons {p : CodePoint} {cs t : Text}
    (hapart : p.isHighHalf = true → ∀ q ∈ t.head?, q.isLowHalf = false) (h : Spells (guardClosings cs) t) :
    Spells (guardClosings (escapeAscii p ++ cs)) (p :: t) := by
  unfold escapeAscii
  cases hshort : shortEscape? p with
  | some escaped =>
    -- a backslash and a letter, which is no `<`
    obtain ⟨c, rfl, hc, hmem⟩ := shortEscape?_eq_some hshort
    have hlt : c ≠ '<' := by
      rintro rfl
      exact absurd hmem (by decide)
    have hguard : guardClosings ([.char '\\', c] ++ cs) = .char '\\' :: c :: guardClosings cs := by
      rw [List.cons_append, List.cons_append, guardClosings_cons (by decide), guardClosings_cons hlt]
      rfl
    simp only [hguard]
    exact h.short hc
  | none =>
    obtain ⟨hquote, hescape⟩ := ne_of_shortEscape?_eq_none hshort
    simp only
    split
    · next hplain =>
      by_cases hlt : p = '<'
      · subst hlt
        exact spells_guarded_lt h
      · rw [List.cons_append, guardClosings_cons hlt]
        exact h.plain hplain.1 hquote hescape
    · split
      · next hunit =>
        -- one unit, of a code point below 0x10000
        rw [guardClosings_unitEscape]
        have hspells := h.unit hunit (by simpa using hapart)
        rwa [CodePoint.ofNat_toNat] at hspells
      · next hpair =>
        -- two units, a high and a low half, which are read as the code point that they make
        have hbound := p.toNat_lt
        rw [List.append_assoc, guardClosings_unitEscape, guardClosings_unitEscape, ← List.append_assoc]
        have hhigh : (CodePoint.ofNat (0xD800 + (p.toNat - 0x10000) / 0x400)).isHighHalf = true :=
          CodePoint.isHighHalf_ofNat (by omega) (by omega)
        have hlow : (CodePoint.ofNat (0xDC00 + (p.toNat - 0x10000) % 0x400)).isLowHalf = true :=
          CodePoint.isLowHalf_ofNat (by omega) (by omega)
        have hspells := h.pair (by omega) (by omega) hhigh hlow
        rwa [ofPair_units (by omega) hbound, CodePoint.ofNat_toNat] at hspells

/-- Half a pair is escaped as a unit. -/
theorem escapeAscii_of_isHalf {p : CodePoint} (h : p.isHalf = true) :
    escapeAscii p = unitEscape p.toNat ∧ p.toNat < 0x10000 := by
  cases p with
  | char c => simp [CodePoint.isHalf] at h
  | half index =>
    have hindex := index.isLt
    have hnat : (CodePoint.half index).toNat = 0xD800 + index.val := rfl
    have hunit : 0xD800 + index.val < 0x10000 := by omega
    have hplain : ¬ (32 ≤ 0xD800 + index.val ∧ 0xD800 + index.val < 127) := by omega
    have hshort : shortEscape? (CodePoint.half index) = none := by simp [shortEscape?]
    refine ⟨?_, hunit⟩
    unfold escapeAscii
    rw [hshort, hnat]
    simp only [if_neg hplain, if_pos hunit]

/-- What is written between quotes is read as the text, with its halves joined. -/
theorem spells_escapeAscii (t : Text) : Spells (guardClosings (t.flatMap escapeAscii)) t.joinHalves := by
  induction t using Text.joinHalves.induct with
  | case1 high low rest hpair ih =>
    -- halves are escaped as units, and two such escapes are read as one character
    obtain ⟨hhigh, hlow⟩ := Bool.and_eq_true_iff.mp hpair
    obtain ⟨hhighText, hhighBound⟩ := escapeAscii_of_isHalf (p := high) (Bool.and_eq_true_iff.mp hhigh).1
    obtain ⟨hlowText, hlowBound⟩ := escapeAscii_of_isHalf (p := low) (Bool.and_eq_true_iff.mp hlow).1
    have hspells := ih.pair hhighBound hlowBound (by simpa using hhigh) (by simpa using hlow)
    rw [CodePoint.ofNat_toNat, CodePoint.ofNat_toNat] at hspells
    rw [Text.joinHalves, if_pos hpair, List.flatMap_cons, List.flatMap_cons, hhighText, hlowText,
      guardClosings_unitEscape, guardClosings_unitEscape, ← List.append_assoc]
    exact hspells
  | case2 high low rest hpair ih =>
    have hapart : high.isHighHalf = true → ∀ p ∈ (Text.joinHalves (low :: rest)).head?, p.isLowHalf = false := by
      intro hhigh
      apply Text.isLowHalf_head?_joinHalves
      simpa [hhigh] using hpair
    rw [Text.joinHalves, if_neg hpair, List.flatMap_cons]
    exact spells_escapeAscii_cons hapart ih
  | case3 p =>
    have hempty : Spells (guardClosings []) [] := spells_nil
    exact spells_escapeAscii_cons (by simp) hempty
  | case4 => exact spells_nil

/-- A literal is guarded by itself, for it ends in a quote. -/
theorem guardClosings_quoteAscii_append (t b : Text) :
    guardClosings (quoteAscii t ++ b) = literal (guardClosings (t.flatMap escapeAscii)) ++ guardClosings b := by
  have happend : quoteAscii t ++ b = .char '"' :: (t.flatMap escapeAscii ++ .char '"' :: b) := by
    simp [quoteAscii, Text.ofString]
  rw [happend, guardClosings_cons (by decide), guardClosings_append_cons (by decide), guardClosings_cons (by decide)]
  simp [literal]

/-- What is guarded in a literal stands between its quotes. -/
theorem guardClosings_quoteAscii (t : Text) :
    guardClosings (quoteAscii t) = literal (guardClosings (t.flatMap escapeAscii)) := by
  have h := guardClosings_quoteAscii_append t []
  simpa [guardClosings] using h

/-! ## Written values -/

mutual
/-- The value with two halves that stand next to each other joined in its texts. -/
def joined : Json → Json
  | .str s => .str s.joinHalves
  | .arr items => .arr (joinedItems items)
  | .obj fields => .obj (joinedFields fields)
  | .null => .null
  | .bool b => .bool b
  | .int n => .int n
  | .float x => .float x

/-- The same of the items of a list. -/
def joinedItems : List Json → List Json
  | [] => []
  | v :: vs => joined v :: joinedItems vs

/-- The same of the values of an object; keys have no halves to join. -/
def joinedFields : List (Text × Json) → List (Text × Json)
  | [] => []
  | (k, v) :: vs => (k, joined v) :: joinedFields vs
end

/-- Is a value without doubles, repeated keys and keys that hold pairs of halves? -/
inductive Plain : Json → Prop
  | null : Plain .null
  | bool (b : Bool) : Plain (.bool b)
  | int (n : Int) : Plain (.int n)
  | str (s : Text) : Plain (.str s)
  | arr {items : List Json} (h : ∀ v ∈ items, Plain v) : Plain (.arr items)
  | obj {fields : Fields} (hdistinct : (Fields.keys fields).Nodup)
    (hkeys : ∀ k ∈ Fields.keys fields, k.joinHalves = k) (h : ∀ e ∈ fields, Plain e.2) : Plain (.obj fields)

/-- Sign and digits are the characters of an integer. -/
theorem mem_intText {n : Int} {c : CodePoint} (h : c ∈ intText n) : c = '-' ∨ Text.isDigit c = true := by
  rw [intText_eq] at h
  rcases List.mem_append.mp h with h | h
  · split at h
    · exact .inl (List.mem_singleton.mp h)
    · simp at h
  · exact .inr (isDigit_of_mem_digits h)

/-- Integers are written without a less-than sign. -/
theorem notMem_intText (n : Int) : .char '<' ∉ intText n := by
  intro h
  rcases mem_intText h with h | h <;> exact absurd h (by decide)

/-- No written value ends in a `<`. -/
theorem Plain.standalone {v : Json} (h : v.Plain) (depth : Nat) : Standalone (v.writeIndented depth) := by
  cases h with
  | null => exact standalone_of_notMem (a := "null") (by decide)
  | bool b => cases b <;> exact standalone_of_notMem (by rw [writeIndented]; decide)
  | int n => exact standalone_of_notMem (notMem_intText n)
  | str s => exact standalone_concat (by decide) (by decide) _
  | @arr items _ =>
    cases items with
    | nil => exact standalone_of_notMem (a := "[]") (by decide)
    | cons v vs => exact standalone_concat (by decide) (by decide) _
  | @obj fields _ _ _ =>
    cases fields with
    | nil => exact standalone_of_notMem (a := "\x7b\x7d") (by decide)
    | cons v vs => exact standalone_concat (by decide) (by decide) _

/-- A line break with its indentation is blank. -/
theorem allBlank_newline (depth : Nat) : AllBlank (newline depth) := by
  intro c hc
  rcases List.mem_cons.mp hc with rfl | hc
  · rfl
  · rw [(List.mem_replicate.mp hc).2]
    rfl

/-- Blanks in front of something are left as they are. -/
theorem guardClosings_newline_append (depth : Nat) (b : Text) :
    guardClosings (newline depth ++ b) = newline depth ++ guardClosings b := by
  apply guardClosings_append
  intro h
  exact absurd (allBlank_newline depth _ h) (by decide)

/-- Items that are read one by one are read as a list. -/
theorem readsItems_writeIndentedItems {depth : Nat} (outer : Nat) (v : Json) (vs : List Json)
    (hplain : ∀ w ∈ v :: vs, w.Plain)
    (h : ∀ w ∈ v :: vs, Reads (guardClosings (w.writeIndented depth)) w.joined) :
    ReadsItems (guardClosings (writeIndentedItems depth (v :: vs) ++ (newline outer ++ [.char ']'])))
      (joinedItems (v :: vs)) := by
  have hclose : guardClosings (newline outer ++ [.char ']']) = newline outer ++ [.char ']'] := by
    rw [guardClosings_newline_append]
    rfl
  induction vs generalizing v with
  | nil =>
    rw [writeIndentedItems, (hplain v (by simp)).standalone, hclose]
    exact .last (h v (by simp)) (allBlank_newline outer)
  | cons w vs ih =>
    obtain ⟨hv, hplain⟩ := List.forall_mem_cons.mp hplain
    obtain ⟨hread, hreads⟩ := List.forall_mem_cons.mp h
    -- the first item and its comma, then a line break, and the other items as a list
    have happend : writeIndentedItems depth (v :: w :: vs) ++ (newline outer ++ [.char ']']) =
        v.writeIndented depth ++ (.char ',' :: (newline depth ++
          (writeIndentedItems depth (w :: vs) ++ (newline outer ++ [.char ']'])))) := by
      simp [writeIndentedItems, Text.ofString]
    rw [happend, hv.standalone, guardClosings_cons (by decide), guardClosings_newline_append, ← List.cons_append]
    exact .cons hread (allBlank_newline depth) (ih w hplain hreads)

/-- Entries that are read one by one are read as an object. -/
theorem readsMembers_writeIndentedFields {depth : Nat} (outer : Nat) (e : Text × Json) (es : Fields)
    (hplain : ∀ e' ∈ e :: es, e'.2.Plain) (hkeys : ∀ e' ∈ e :: es, e'.1.joinHalves = e'.1)
    (h : ∀ e' ∈ e :: es, Reads (guardClosings (e'.2.writeIndented depth)) e'.2.joined) :
    ReadsMembers (guardClosings (writeIndentedFields depth (e :: es) ++ (newline outer ++ [.char '\x7d'])))
      (joinedFields (e :: es)) := by
  have hclose : guardClosings (newline outer ++ [.char '\x7d']) = newline outer ++ [.char '\x7d'] := by
    rw [guardClosings_newline_append]
    rfl
  have hblank : AllBlank [.char ' '] := by simp [AllBlank, isBlank]
  -- what is written for one entry in front of others
  have hentry : ∀ k v b, (v : Json).Plain →
      guardClosings (quoteAscii k ++ (.char ':' :: .char ' ' :: (v.writeIndented depth ++ b))) =
      entry (guardClosings (k.flatMap escapeAscii)) [.char ' '] (guardClosings (v.writeIndented depth)) ++
        guardClosings b := by
    intro k v b hv
    rw [guardClosings_quoteAscii_append, guardClosings_cons (by decide), guardClosings_cons (by decide),
      hv.standalone]
    simp [entry]
  have hspells : ∀ k : Text, k.joinHalves = k → Spells (guardClosings (k.flatMap escapeAscii)) k := by
    intro k hk
    have hspells := spells_escapeAscii k
    rwa [hk] at hspells
  induction es generalizing e with
  | nil =>
    obtain ⟨k, v⟩ := e
    simp only [List.mem_singleton, forall_eq] at hplain hkeys h
    have happend : writeIndentedFields depth [(k, v)] ++ (newline outer ++ [.char '\x7d']) =
        quoteAscii k ++ (.char ':' :: .char ' ' :: (v.writeIndented depth ++ (newline outer ++ [.char '\x7d']))) := by
      simp [writeIndentedFields, Text.ofString]
    rw [happend, hentry k v _ hplain, hclose]
    exact .last (hspells k hkeys) hblank h (allBlank_newline outer)
  | cons e' es ih =>
    obtain ⟨k, v⟩ := e
    obtain ⟨hv, hplain⟩ := List.forall_mem_cons.mp hplain
    obtain ⟨hk, hkeys⟩ := List.forall_mem_cons.mp hkeys
    obtain ⟨hread, hreads⟩ := List.forall_mem_cons.mp h
    have happend : writeIndentedFields depth ((k, v) :: e' :: es) ++ (newline outer ++ [.char '\x7d']) =
        quoteAscii k ++ (.char ':' :: .char ' ' :: (v.writeIndented depth ++ (.char ',' :: (newline depth ++
          (writeIndentedFields depth (e' :: es) ++ (newline outer ++ [.char '\x7d'])))))) := by
      simp [writeIndentedFields, Text.ofString]
    rw [happend, hentry k v _ hv, guardClosings_cons (by decide), guardClosings_newline_append, ← List.cons_append]
    exact .cons (hspells k hk) hblank hread (allBlank_newline depth) (ih e' hplain hkeys hreads)

/-- Joining halves changes no key. -/
theorem keys_joinedFields (fields : Fields) : Fields.keys (joinedFields fields) = Fields.keys fields := by
  induction fields with
  | nil => rfl
  | cons e fields ih =>
    obtain ⟨k, v⟩ := e
    simp [joinedFields, ih]

/-- A written value, guarded, is read as it was, with its halves joined. -/
theorem Plain.reads_writeIndented {v : Json} (h : v.Plain) (depth : Nat) :
    Reads (guardClosings (v.writeIndented depth)) v.joined := by
  induction h generalizing depth with
  | null => exact reads_null
  | bool b =>
    have hself : guardClosings (boolText b) = boolText b := by cases b <;> rfl
    rw [writeIndented, hself]
    exact reads_bool b
  | int n =>
    rw [writeIndented, guardClosings_eq_self (notMem_intText n)]
    exact reads_int n
  | str s =>
    rw [writeIndented, guardClosings_quoteAscii]
    exact reads_str (spells_escapeAscii s)
  | @arr items hplain ih =>
    cases items with
    | nil => exact reads_nil allBlank_nil
    | cons v vs =>
      have hitems := readsItems_writeIndentedItems depth v vs hplain fun w hw => ih w hw (depth + 1)
      -- a new line has nothing to guard, so what is guarded are the brackets and the items
      have happend : writeIndented depth (.arr (v :: vs)) = .char '[' :: (newline (depth + 1) ++
          (writeIndentedItems (depth + 1) (v :: vs) ++ (newline depth ++ [.char ']']))) := by
        simp [writeIndented, Text.ofString]
      rw [happend, guardClosings_cons (by decide), guardClosings_newline_append, ← List.cons_append]
      exact reads_arr (allBlank_newline _) hitems
  | @obj fields hdistinct hkeys hplain ih =>
    cases fields with
    | nil => exact reads_empty allBlank_nil
    | cons e es =>
      have hmembers := readsMembers_writeIndentedFields depth e es hplain
        (fun e' he' => hkeys e'.1 (List.mem_map.mpr ⟨e', he', rfl⟩)) fun e' he' => ih e' he' (depth + 1)
      have happend : writeIndented depth (.obj (e :: es)) = .char '\x7b' :: (newline (depth + 1) ++
          (writeIndentedFields (depth + 1) (e :: es) ++ (newline depth ++ [.char '\x7d']))) := by
        simp [writeIndented, Text.ofString]
      rw [happend, guardClosings_cons (by decide), guardClosings_newline_append, ← List.cons_append]
      exact reads_obj (allBlank_newline _) hmembers (by rwa [keys_joinedFields])

mutual
/-- The texts in a value, keys left out. -/
def texts : Json → List Text
  | .str s => [s]
  | .arr items => textsOfItems items
  | .obj fields => textsOfFields fields
  | .null | .bool _ | .int _ | .float _ => []

/-- The texts in the items of a list. -/
def textsOfItems : List Json → List Text
  | [] => []
  | v :: vs => texts v ++ textsOfItems vs

/-- The texts in the values of an object. -/
def textsOfFields : List (Text × Json) → List Text
  | [] => []
  | (_, v) :: vs => texts v ++ textsOfFields vs
end

mutual
/-- There is nothing to join in a value without halves. -/
theorem joined_eq_self : ∀ v : Json, (∀ t ∈ v.texts, t.joinHalves = t) → v.joined = v
  | .null, _ | .bool _, _ | .int _, _ | .float _, _ => rfl
  | .str s, h => by rw [joined, h s (by simp [texts])]
  | .arr items, h => by rw [joined, joinedItems_eq_self items h]
  | .obj fields, h => by rw [joined, joinedFields_eq_self fields h]

/-- A list whose texts have nothing to join stays as it is. -/
theorem joinedItems_eq_self : ∀ vs : List Json, (∀ t ∈ textsOfItems vs, t.joinHalves = t) → joinedItems vs = vs
  | [], _ => rfl
  | v :: vs, h => by
    rw [joinedItems, joined_eq_self v fun t ht => h t (List.mem_append_left _ ht),
      joinedItems_eq_self vs fun t ht => h t (List.mem_append_right _ ht)]

/-- So does an object. -/
theorem joinedFields_eq_self : ∀ vs : List (Text × Json), (∀ t ∈ textsOfFields vs, t.joinHalves = t) →
    joinedFields vs = vs
  | [], _ => rfl
  | (_, v) :: vs, h => by
    rw [joinedFields, joined_eq_self v fun t ht => h t (List.mem_append_left _ ht),
      joinedFields_eq_self vs fun t ht => h t (List.mem_append_right _ ht)]
end

/-! ### Characters -/

/-- Is a text made of line feeds and the printable characters of ASCII alone? -/
def IsAsciiLines (t : Text) : Prop := ∀ c ∈ t, c = '\n' ∨ 32 ≤ c.toNat ∧ c.toNat ≤ 126

instance (t : Text) : Decidable (IsAsciiLines t) :=
  inferInstanceAs (Decidable (∀ c ∈ t, c = '\n' ∨ 32 ≤ c.toNat ∧ c.toNat ≤ 126))

theorem IsAsciiLines.append {a b : Text} (ha : IsAsciiLines a) (hb : IsAsciiLines b) : IsAsciiLines (a ++ b) := by
  intro c hc
  rcases List.mem_append.mp hc with hc | hc
  · exact ha c hc
  · exact hb c hc

/-- An escape by number is made of ASCII characters. -/
theorem isAsciiLines_unitEscape (n : Nat) : IsAsciiLines (unitEscape n) := by
  have hall : IsAsciiLines "\\u0123456789abcdef" := by decide
  exact fun c hc => hall c (mem_unitEscape hc)

/-- Any character becomes ASCII ones: itself, a short escape, or one or two by number. -/
theorem isAsciiLines_escapeAscii (p : CodePoint) : IsAsciiLines (escapeAscii p) := by
  unfold escapeAscii
  -- a short escape, a plain character, one unit, or a pair of units
  cases hshort : shortEscape? p with
  | some escaped =>
    obtain ⟨c, rfl, -, hmem⟩ := shortEscape?_eq_some hshort
    have hall : IsAsciiLines "\"\\nrtbf" := by decide
    intro d hd
    rcases List.mem_cons.mp hd with rfl | hd
    · exact hall _ (by decide)
    · exact List.mem_singleton.mp hd ▸ hall c hmem
  | none =>
    simp only
    split
    · next hplain =>
      intro c hc
      rw [List.mem_singleton.mp hc]
      exact .inr ⟨hplain.1, by omega⟩
    · split
      · exact isAsciiLines_unitEscape _
      · exact (isAsciiLines_unitEscape _).append (isAsciiLines_unitEscape _)

/-- So does a text between its quotes. -/
theorem isAsciiLines_quoteAscii (t : Text) : IsAsciiLines (quoteAscii t) := by
  have hquote : IsAsciiLines "\"" := by decide
  have hbody : IsAsciiLines (t.flatMap escapeAscii) := by
    intro c hc
    obtain ⟨p, -, hp⟩ := List.mem_flatMap.mp hc
    exact isAsciiLines_escapeAscii p c hp
  exact (hquote.append hbody).append hquote

/-- Line breaks are allowed. -/
theorem isAsciiLines_newline (depth : Nat) : IsAsciiLines (newline depth) := by
  intro c hc
  rcases List.mem_cons.mp hc with rfl | hc
  · exact .inl rfl
  · rw [(List.mem_replicate.mp hc).2]
    decide

/-- Items are separated by commas and line breaks. -/
theorem isAsciiLines_writeIndentedItems (depth : Nat) (vs : List Json)
    (h : ∀ v ∈ vs, IsAsciiLines (v.writeIndented depth)) : IsAsciiLines (writeIndentedItems depth vs) := by
  have hcomma : IsAsciiLines "," := by decide
  match vs with
  | [] => simp [writeIndentedItems, IsAsciiLines]
  | [v] => exact h v (by simp)
  | v :: w :: vs =>
    obtain ⟨hv, hvs⟩ := List.forall_mem_cons.mp h
    exact ((hv.append hcomma).append (isAsciiLines_newline depth)).append
      (isAsciiLines_writeIndentedItems depth (w :: vs) hvs)

/-- So are entries, with a colon behind each key. -/
theorem isAsciiLines_writeIndentedFields (depth : Nat) (fields : List (Text × Json))
    (h : ∀ e ∈ fields, IsAsciiLines (e.2.writeIndented depth)) :
    IsAsciiLines (writeIndentedFields depth fields) := by
  have hcomma : IsAsciiLines "," := by decide
  have hcolon : IsAsciiLines ": " := by decide
  match fields with
  | [] => simp [writeIndentedFields, IsAsciiLines]
  | [(k, v)] =>
    have hv := h (k, v) (by simp)
    exact ((isAsciiLines_quoteAscii k).append hcolon).append hv
  | (k, v) :: e :: es =>
    obtain ⟨hv, hes⟩ := List.forall_mem_cons.mp h
    exact (((((isAsciiLines_quoteAscii k).append hcolon).append hv).append hcomma).append
      (isAsciiLines_newline depth)).append (isAsciiLines_writeIndentedFields depth (e :: es) hes)

/-- A value is written in printable ASCII, on lines. -/
theorem Plain.isAsciiLines {v : Json} (h : v.Plain) (depth : Nat) : IsAsciiLines (v.writeIndented depth) := by
  induction h generalizing depth with
  | null => exact (by decide : IsAsciiLines "null")
  | bool b =>
    rw [writeIndented]
    cases b <;> decide
  | int n =>
    intro c hc
    rcases mem_intText hc with rfl | hdigit
    · decide
    · obtain ⟨hlow, hhigh⟩ := Bool.and_eq_true_iff.mp hdigit
      have hlow : 48 ≤ c.toNat := of_decide_eq_true hlow
      have hhigh : c.toNat ≤ 57 := of_decide_eq_true hhigh
      exact .inr ⟨by omega, by omega⟩
  | str s => exact isAsciiLines_quoteAscii s
  | @arr items hplain ih =>
    have hopen : IsAsciiLines "[" := by decide
    have hclose : IsAsciiLines "]" := by decide
    -- an empty list stands on one line
    cases items with
    | nil => exact (by decide : IsAsciiLines "[]")
    | cons v vs =>
      have hitems := isAsciiLines_writeIndentedItems (depth + 1) (v :: vs) fun w hw => ih w hw (depth + 1)
      exact (((hopen.append (isAsciiLines_newline _)).append hitems).append (isAsciiLines_newline _)).append hclose
  | @obj fields hdistinct hkeys hplain ih =>
    have hopen : IsAsciiLines "\x7b" := by decide
    have hclose : IsAsciiLines "\x7d" := by decide
    cases fields with
    | nil => exact (by decide : IsAsciiLines "\x7b\x7d")
    | cons e es =>
      have hfields := isAsciiLines_writeIndentedFields (depth + 1) (e :: es) fun e' he' => ih e' he' (depth + 1)
      exact (((hopen.append (isAsciiLines_newline _)).append hfields).append (isAsciiLines_newline _)).append hclose

/-- Guarding adds backslashes alone. -/
theorem isAsciiLines_guardClosings {t : Text} (h : IsAsciiLines t) : IsAsciiLines (guardClosings t) := by
  induction t using guardClosings.induct with
  | case1 rest ih =>
    obtain ⟨hlt, h⟩ := List.forall_mem_cons.mp h
    obtain ⟨hslash, hrest⟩ := List.forall_mem_cons.mp h
    have hbackslash : IsAsciiLines [.char '\\'] := by decide
    rw [guardClosings]
    exact List.forall_mem_cons.mpr ⟨hlt, hbackslash.append (List.forall_mem_cons.mpr ⟨hslash, ih hrest⟩)⟩
  | case2 c rest hslash ih =>
    obtain ⟨hc, hrest⟩ := List.forall_mem_cons.mp h
    rw [guardClosings.eq_2 _ _ hslash]
    exact List.forall_mem_cons.mpr ⟨hc, ih hrest⟩
  | case3 => exact h

end Json

/-! ## Written forms -/

/-- Are entries plain, with keys that are some of the names in their order? -/
structure Fields.PlainUnder (names : List Text) (fields : Fields) : Prop where
  keys : (Fields.keys fields).Sublist names
  values : ∀ e ∈ fields, e.2.Plain

namespace Fields.PlainUnder

variable {names names' : List Text} {fields fields' : Fields}

theorem nil : PlainUnder [] [] := ⟨List.Sublist.refl _, by simp⟩

theorem cons (key : Text) {v : Json} (hv : v.Plain) (h : PlainUnder names fields) :
    PlainUnder (key :: names) ((key, v) :: fields) :=
  ⟨h.keys.cons_cons key, List.forall_mem_cons.mpr ⟨hv, h.values⟩⟩

/-- Objects with keys of some names may be put together. -/
theorem append (h : PlainUnder names fields) (h' : PlainUnder names' fields') :
    PlainUnder (names ++ names') (fields ++ fields') := by
  constructor
  · rw [keys_append]
    exact h.keys.append h'.keys
  · intro e he
    rcases List.mem_append.mp he with he | he
    · exact h.values e he
    · exact h'.values e he

/-- An entry that may be left out has a name all the same. -/
theorem optional (key : Text) {v? : Option Json} (h : ∀ v ∈ v?, v.Plain) :
    PlainUnder [key] (Fields.optional key v?) := by
  cases v? with
  | none => exact ⟨List.nil_sublist _, by simp [Fields.optional]⟩
  | some v => exact cons key (h v rfl) nil

/-- The same for a text. -/
theorem optionalText (key : Text) (text? : Option Text) : PlainUnder [key] (Fields.optionalText key text?) := by
  apply optional key
  intro v hv
  obtain ⟨s, -, rfl⟩ := Option.map_eq_some_iff.mp hv
  exact .str s

/-- An object is plain if its entries are and the names are distinct and without pairs of halves. -/
theorem plain (h : PlainUnder names fields) (hnames : names.Nodup ∧ ∀ k ∈ names, k.joinHalves = k) :
    (Json.obj fields).Plain :=
  .obj (hnames.1.sublist h.keys) (fun k hk => hnames.2 k (h.keys.subset hk)) h.values

end Fields.PlainUnder

/-- A list of written parts is plain if the parts are. -/
theorem Json.Plain.map {α : Type} {write : α → Json} (h : ∀ a, (write a).Plain) (items : List α) :
    (Json.arr (items.map write)).Plain := by
  refine .arr fun v hv => ?_
  obtain ⟨a, -, rfl⟩ := List.mem_map.mp hv
  exact h a

/-- So is one that may be left out. -/
theorem Fields.PlainUnder.optionalList {α : Type} (key : Text) {write : α → Json} (h : ∀ a, (write a).Plain)
    (items? : Option (List α)) :
    PlainUnder [key] (Fields.optional key (items?.map fun items => .arr (items.map write))) := by
  apply optional key
  intro v hv
  obtain ⟨items, -, rfl⟩ := Option.map_eq_some_iff.mp hv
  exact .map h items

open Fields.PlainUnder

/-- A written choice has distinct keys and plain values. -/
theorem Choice.plain_toJson (c : Choice) : c.toJson.Plain := by
  have hids := cons "id" (.str c.id) (cons "text" (.str c.text) nil)
  exact ((hids.append (optionalText "icon" c.icon)).append (optionalText "description" c.description)).plain (by decide)

/-- So has a written condition. -/
theorem Condition.plain_toJson (c : Condition) : c.toJson.Plain := by
  have hvalues : (Json.arr (c.values.map .str)).Plain := .map .str c.values
  have hrest := cons "questionId" (.str c.source) (cons "values" hvalues nil)
  exact ((optionalText "id" c.id).append hrest).plain (by decide)

/-- So has a written question, with its choices and conditions. -/
theorem Question.plain_toJson (q : Question) : q.toJson.Plain := by
  have hids := cons "id" (.str q.id) (cons "text" (.str q.text) nil)
  have hkind := cons "type" (.str q.kind.word) (cons "required" (.bool q.required) nil)
  have hlogic := cons "conditionLogic" (.str q.logic.word) nil
  -- the entries in the order in which they are written
  have hlists := ((((hids.append (optionalText "description" q.description)).append hkind).append
    (optionalList "options" Choice.plain_toJson q.input.choices?)).append
    (optionalList "conditions" Condition.plain_toJson q.conditions?)).append hlogic
  exact ((hlists.append (optionalText "placeholder" q.placeholder)).append
    (optionalText "postcodeApi" q.postcodeApi)).plain (by decide)

/-- So has a written page. -/
theorem SuccessPage.plain_toJson (p : SuccessPage) : p.toJson.Plain := by
  have hconditions := Json.Plain.map Condition.plain_toJson p.conditions
  have hrest := cons "conditions" hconditions (cons "conditionLogic" (.str p.logic.word) nil)
  exact (cons "id" (.str p.id) (cons "name" (.str p.name)
    (cons "url" (.str p.url) hrest))).plain (by decide)

/-- So have written settings. -/
theorem FormSettings.plain_toJson (s : FormSettings) : s.toJson.Plain := by
  have hpages := cons "successPages" (.map SuccessPage.plain_toJson s.successPages) nil
  have hlookup := cons "postcodeApiUrl" (.str s.postcodeApiUrl)
    (cons "postcodeApiKey" (.str s.postcodeApiKey) hpages)
  have htargets := cons "submitUrl" (.str s.submitUrl)
    (cons "zapierWebhookUrl" (.str s.webhookUrl) hlookup)
  exact (cons "backgroundColor" (.str s.backgroundColor)
    (cons "buttonColor" (.str s.buttonColor) htargets)).plain (by decide)

/-- So has a written form. -/
theorem Form.plain_toJson (f : Form) : f.toJson.Plain := by
  have hsettings := cons "settings" f.settings.plain_toJson nil
  have hquestions := cons "questions" (.map Question.plain_toJson f.questions) hsettings
  exact (cons "title" (.str f.title) (cons "description" (.str f.description)
    hquestions)).plain (by decide)

/-! ## The configuration -/

/-- What the script is told: the form and the options. -/
def configurationOf (form : Form) (classPrefix storageKey : Text) (redirectDelay : Int) : Json :=
  .obj [("prefix", .str classPrefix), ("storageKey", .str storageKey), ("redirectDelayMs", .int redirectDelay),
    ("definition", form.toJson)]

/-- The configuration has distinct keys and plain values, whatever the form is. -/
theorem plain_configurationOf (form : Form) (classPrefix storageKey : Text) (redirectDelay : Int) :
    (configurationOf form classPrefix storageKey redirectDelay).Plain := by
  have hform := cons "redirectDelayMs" (.int redirectDelay) (cons "definition" form.plain_toJson nil)
  exact (cons "prefix" (.str classPrefix) (cons "storageKey" (.str storageKey) hform)).plain (by decide)

/-- **The literal of the configuration decodes to the form.** For every form, every accepted prefix, every storage key
and every redirect delay, the script assigns a literal of line feeds and printable ASCII without `</`. It is parsed as
the prefix, the key, the delay and the form as it is written, key by key and in that order, and exactly so if no text
among them holds half a pair; halves that stand next to each other are read as the character they make. What is read as
the definition is the form. -/
theorem configuration_literal_decodes {form : Form} {options : ArtifactOptions} {a : Artifact} {key : Text}
    {delay : Int} (hform : Artifact.ofForm form options = .ok a) (hkey : options.storageKey = .str key)
    (hdelay : options.redirectDelay = .int delay) :
    let config := configurationOf form options.classPrefix key delay
    (∃ before after : Text, a.behavior = before ++ "var CONFIG = " ++ a.configLiteral ++ ";\n" ++ after) ∧
    (∀ c ∈ a.configLiteral, c = '\n' ∨ 32 ≤ c.toNat ∧ c.toNat ≤ 126) ∧
    ¬ ("</" : Text) <:+: a.configLiteral ∧
    Json.parse a.configLiteral = .ok config.joined ∧
    ((∀ t ∈ config.texts, ∀ p ∈ t, p.isHalf = false) → Json.parse a.configLiteral = .ok config) ∧
    Form.shape (config.field "definition") = .accept form := by
  intro config
  have hconfig : a.config = config := by
    have hprefix := Artifact.ofString_classPrefix hform
    obtain ⟨-, rfl⟩ := Artifact.ofForm_eq_ok.mp hform
    simp only [Artifact.config, hprefix, hkey, hdelay, config, configurationOf]
  have hplain : config.Plain := plain_configurationOf form options.classPrefix key delay
  have hliteral : a.configLiteral = Artifact.guardClosings (config.writeIndented 0) := by
    rw [Artifact.configLiteral, hconfig]
    rfl
  have hparse : Json.parse a.configLiteral = .ok config.joined := by
    rw [hliteral]
    exact Json.Reader.parse_of_reads (hplain.reads_writeIndented 0)
  refine ⟨?_, ?_, ?_, hparse, ?_, ?_⟩
  · have hopening : ("// Quote Form Script\n(function () \x7b\n  'use strict';\n\n  var CONFIG = " : Text) =
        "// Quote Form Script\n(function () \x7b\n  'use strict';\n\n  " ++ ("var CONFIG = " : Text) := rfl
    refine ⟨"// Quote Form Script\n(function () \x7b\n  'use strict';\n\n  ",
      String.join (Artifact.runtime.map fun l => l ++ "\n") ++ ("\x7d)();\n" : Text), ?_⟩
    rw [Artifact.behavior, Artifact.configuration, hopening]
    simp only [List.append_assoc]
  · rw [hliteral]
    exact Json.isAsciiLines_guardClosings (hplain.isAsciiLines 0)
  · rw [hliteral]
    exact Artifact.not_infix_guardClosings _
  · intro hwhole
    have hself : config.joined = config :=
      Json.joined_eq_self config fun t ht => Text.joinHalves_eq_self (hwhole t ht)
    rw [hparse, hself]
  · have hfield : config.field "definition" = form.toJson := by
      simp [config, configurationOf, Json.field, Fields.get, Fields.get?_cons]
    rw [hfield]
    exact Form.shape_toJson form

/-- A form of texts that could end a script or a literal, or be escaped in more than one way. -/
def awkwardForm : Form where
  title := "</script><\\/<!-- \"\\\n"
  description := "\x00\x7f\u2028😀"
  questions := [{
    id := "</", text := "<", description := some "/", input := .singleChoice [⟨"<\\\\/", "", some "\\", none⟩],
    required := true, conditions? := some [⟨none, "\"", ["\t", ""]⟩], logic := .any, placeholder := none,
    postcodeApi := some "\r" }]
  settings := .standard

/-- The literal of such a form is parsed as that form, whatever the key and however negative the delay. -/
theorem configuration_literal_decodes_of_awkward_form :
    ∃ a, Artifact.ofForm awkwardForm ⟨"p_", .str "</", .int (-1)⟩ = .ok a ∧
      Json.parse a.configLiteral = .ok (configurationOf awkwardForm "p_" "</" (-1)) := by
  have hwhole : ∀ t ∈ (configurationOf awkwardForm "p_" "</" (-1)).texts, ∀ p ∈ t, p.isHalf = false := by
    decide +kernel
  obtain ⟨a, hform⟩ : ∃ a, Artifact.ofForm awkwardForm ⟨"p_", .str "</", .int (-1)⟩ = .ok a := ⟨_, rfl⟩
  exact ⟨a, hform, (configuration_literal_decodes hform rfl rfl).2.2.2.2.1 hwhole⟩

end Questionnaire
