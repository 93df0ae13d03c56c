import Questionnaire.Proofs.ConfigurationLiteral
import Questionnaire.Proofs.Loading

/-!
# Reading back what is on one line

A value without doubles that is written on one line is read as it was, halves of pairs included: here only
control characters are escaped as units, and none of them is half a pair.

* `Json.spells_escape`: what stands between the quotes is read as the text.
* `Json.Exact.reads_write`, `Json.Exact.parse_write`: a written value is read as it was.
* `Text.Whole`: the texts that are sent as they are; `Json.whole_write_obj` and others find them among written
  values.
-/

namespace Questionnaire

namespace Json

open Reader

/-- An escaped text is read as it was. -/
theorem spells_escape (t : Text) : Spells (t.flatMap escape) t := by
  induction t with
  | nil => exact spells_nil
  | cons p t ih =>
    rw [List.flatMap_cons, escape]
    cases hshort : shortEscape? p with
    | some escaped =>
      obtain ⟨c, rfl, hc, -⟩ := shortEscape?_eq_some hshort
      exact ih.short hc
    | none =>
      obtain ⟨hquote, hescape⟩ := ne_of_shortEscape?_eq_none hshort
      dsimp only
      split
      · next hcontrol =>
        -- a control is no half, so what follows cannot make a pair with it
        have hhigh : p.isHighHalf = false := by
          cases p with
          | char c => rfl
          | half index =>
            have hnat : (CodePoint.half index).toNat = 0xD800 + index.val := rfl
            omega
        have hspells := ih.unit (n := p.toNat) (by omega) (by simp [hhigh])
        rwa [CodePoint.ofNat_toNat] at hspells
      · next hplain => exact ih.plain (by omega) hquote hescape

/-- A quoted text is a literal, escaped one code point after the other. -/
theorem quote_eq_literal (t : Text) : quote t = literal (t.flatMap escape) := by
  simp [quote, literal, Text.ofString]

/-- Is a value without doubles and repeated keys? -/
inductive Exact : Json → Prop
  | null : Exact .null
  | bool (b : Bool) : Exact (.bool b)
  | int (n : Int) : Exact (.int n)
  | str (s : Text) : Exact (.str s)
  | arr {items : List Json} (h : ∀ v ∈ items, Exact v) : Exact (.arr items)
  | obj {fields : Fields} (hdistinct : (Fields.keys fields).Nodup) (h : ∀ e ∈ fields, Exact e.2) :
    Exact (.obj fields)

/-- Items that are read one by one are read as a list. -/
theorem readsItems_writeItems (v : Json) (vs : List Json) (h : ∀ w ∈ v :: vs, Reads w.write w) :
    ReadsItems (writeItems (v :: vs) ++ [.char ']']) (v :: vs) := by
  induction vs generalizing v with
  | nil => exact .last (h v (by simp)) allBlank_nil
  | cons w vs ih =>
    obtain ⟨hv, hvs⟩ := List.forall_mem_cons.mp h
    have happend : writeItems (v :: w :: vs) ++ [.char ']'] =
        v.write ++ (.char ',' :: [] ++ (writeItems (w :: vs) ++ [.char ']'])) := by
      simp [writeItems, Text.ofString]
    rw [happend]
    exact .cons hv allBlank_nil (ih w hvs)

/-- Entries that are read one by one are read as an object. -/
theorem readsMembers_writeFields (e : Text × Json) (es : Fields) (h : ∀ e' ∈ e :: es, Reads e'.2.write e'.2) :
    ReadsMembers (writeFields (e :: es) ++ [.char '\x7d']) (e :: es) := by
  -- the text of an entry, in the form in which it is read
  have hentry (k : Text) (v : Json) (b : Text) :
      quote k ++ (.char ':' :: (v.write ++ b)) = entry (k.flatMap escape) [] v.write ++ b := by
    simp [quote_eq_literal, entry]
  induction es generalizing e with
  | nil =>
    obtain ⟨k, v⟩ := e
    have happend : writeFields [(k, v)] ++ [.char '\x7d'] =
        quote k ++ (.char ':' :: (v.write ++ ([] ++ [.char '\x7d']))) := by
      simp [writeFields, Text.ofString]
    rw [happend, hentry]
    exact .last (spells_escape k) allBlank_nil (h (k, v) (by simp)) allBlank_nil
  | cons e' es ih =>
    obtain ⟨k, v⟩ := e
    obtain ⟨hv, hes⟩ := List.forall_mem_cons.mp h
    have happend : writeFields ((k, v) :: e' :: es) ++ [.char '\x7d'] =
        quote k ++ (.char ':' :: (v.write ++
          (.char ',' :: [] ++ (writeFields (e' :: es) ++ [.char '\x7d'])))) := by
      simp [writeFields, Text.ofString]
    rw [happend, hentry]
    exact .cons (spells_escape k) allBlank_nil hv allBlank_nil (ih e' hes)

/-- **A value on one line is read as it was.** -/
theorem Exact.reads_write {v : Json} (h : v.Exact) : Reads v.write v := by
  -- by induction on the value, with what is read of its items and entries as hypotheses
  induction h with
  | null => exact reads_null
  | bool b => exact reads_bool b
  | int n => exact reads_int n
  | str s =>
    rw [write, quote_eq_literal]
    exact reads_str (spells_escape s)
  | @arr items _ ih =>
    cases items with
    | nil => exact reads_nil allBlank_nil
    | cons v vs =>
      have happend : write (.arr (v :: vs)) = .char '[' :: [] ++ (writeItems (v :: vs) ++ [.char ']']) := by
        simp [write, Text.ofString]
      rw [happend]
      exact reads_arr allBlank_nil (readsItems_writeItems v vs ih)
  | @obj fields hdistinct _ ih =>
    cases fields with
    | nil => exact reads_empty allBlank_nil
    | cons e es =>
      have happend : write (.obj (e :: es)) =
          .char '\x7b' :: [] ++ (writeFields (e :: es) ++ [.char '\x7d']) := by
        simp [write, Text.ofString]
      rw [happend]
      exact reads_obj allBlank_nil (readsMembers_writeFields e es ih) hdistinct

/-- A value that is written exactly is read back. -/
theorem Exact.parse_write {v : Json} (h : v.Exact) : parse v.write = .ok v :=
  parse_of_reads h.reads_write

end Json

/-! ## Written values without halves -/

/-- Is a text made of characters alone? -/
def Text.Whole (t : Text) : Prop := ∀ p ∈ t, p.isHalf = false

instance (t : Text) : Decidable t.Whole := inferInstanceAs (Decidable (∀ p ∈ t, p.isHalf = false))

/-- A string has no halves. -/
theorem Text.whole_ofString (s : String) : (ofString s).Whole := by
  simp [Whole, ofString, CodePoint.isHalf]

/-- Texts without halves may be put together. -/
theorem Text.whole_append {a b : Text} : (a ++ b).Whole ↔ a.Whole ∧ b.Whole := by
  simp only [Whole, List.forall_mem_append]

/-- A text without halves can be sent as it is. -/
theorem Text.Whole.utf8_eq {t : Text} (h : t.Whole) : t.utf8 = .ok t.string := by
  rw [utf8, utf8Fault?_eq_none_iff.mpr h]

/-- A text is sent as bytes unless zeros show a wider form, and without a byte order mark it is read as it is. -/
theorem Text.ofSent?_of_bytes {s : String} (hbytes : ByteForm.ofBytes s.toUTF8.toList = .bytes)
    (hmark : (ofString s).head? ≠ some (.char '\ufeff')) : ofSent? s = some (ofString s) := by
  have hplain : withoutMark s = ofString s := by
    unfold withoutMark
    split
    · next rest heq => simp [heq] at hmark
    · rfl
  simp only [ofSent?, hbytes, hplain]

/-- A string that is read as the bytes it is made of is parsed as the text it is. -/
theorem Json.parseSent_of_bytes [Stack] {s : String} {t : Text} (ht : Text.ofString s = t)
    (hbytes : Text.ByteForm.ofBytes s.toUTF8.toList = .bytes) (hmark : t.head? ≠ some (.char '\ufeff')) :
    Json.parseSent s = Reader.parseText Text.maxDigits Stack.readingRoom t := by
  subst ht
  unfold Json.parseSent
  rw [Text.ofSent?_of_bytes hbytes hmark]

namespace Json

/-- Escaping brings in no halves. -/
theorem whole_escape {p : CodePoint} (hp : p.isHalf = false) : (escape p).Whole := by
  unfold escape
  cases hshort : shortEscape? p with
  | some escaped =>
    obtain ⟨c, rfl, -, hc⟩ := shortEscape?_eq_some hshort
    have hall : Text.Whole "\"\\nrtbf" := Text.whole_ofString _
    intro q hq
    rcases List.mem_cons.mp hq with rfl | hq
    · rfl
    · rw [List.mem_singleton.mp hq]
      exact hall c hc
  | none =>
    dsimp only
    -- by its number, or as it is
    split
    · exact fun q hq => Text.whole_ofString "\\u0123456789abcdef" q (mem_unitEscape hq)
    · simpa [Text.Whole] using hp

/-- A literal has no halves but those of its text. -/
theorem whole_quote {t : Text} (h : t.Whole) : (quote t).Whole := by
  have hbody : Text.Whole (t.flatMap escape) := by
    intro q hq
    obtain ⟨p, hp, hq⟩ := List.mem_flatMap.mp hq
    exact whole_escape (h p hp) q hq
  exact Text.whole_append.mpr ⟨Text.whole_append.mpr ⟨Text.whole_ofString _, hbody⟩, Text.whole_ofString _⟩

/-- Truth values are words. -/
theorem whole_boolText (b : Bool) : (boolText b).Whole := by
  cases b <;> exact Text.whole_ofString _

/-- An object has no halves but those of its keys and its values as they are written. -/
theorem whole_write_obj {fields : Fields} (h : ∀ e ∈ fields, e.1.Whole ∧ e.2.write.Whole) :
    (write (.obj fields)).Whole := by
  have hfields : (writeFields fields).Whole := by
    induction fields with
    | nil => exact Text.whole_ofString ""
    | cons e es ih =>
      obtain ⟨k, v⟩ := e
      obtain ⟨⟨hk, hv⟩, hes⟩ := List.forall_mem_cons.mp h
      have hentry : (quote k ++ ":" ++ v.write).Whole :=
        Text.whole_append.mpr ⟨Text.whole_append.mpr ⟨whole_quote hk, Text.whole_ofString _⟩, hv⟩
      cases es with
      | nil => exact hentry
      | cons e es =>
        exact Text.whole_append.mpr ⟨Text.whole_append.mpr ⟨hentry, Text.whole_ofString _⟩, ih hes⟩
  exact Text.whole_append.mpr ⟨Text.whole_append.mpr ⟨Text.whole_ofString _, hfields⟩, Text.whole_ofString _⟩

/-- A value without halves in its text is read from what was sent. -/
theorem Exact.parse_sent {v : Json} (h : v.Exact) (hwhole : v.write.Whole) :
    parse (Text.ofString v.write.string) = .ok v := by
  rw [Text.ofString_string hwhole, h.parse_write]

end Json
end Questionnaire
