import Questionnaire.Proofs.CompactReading
import Questionnaire.Proofs.Pieces
import Questionnaire.Proofs.Steps
import Questionnaire.Proofs.Utf8Reading
import Questionnaire.Web.Percent

/-!
# Parameters read from a form

A form is taken apart at its ampersands and each piece at its first equals sign; a plus sign stands for a blank, and
bytes after percent signs for characters. Neither sign stands in a name or a value that was written, so parameters that
were written in a form are read from it as they were, whatever characters they hold. A query takes in a form as it is.

* `Percent.formEntries`: the parameters of a form.
* `Percent.decodedBytes_formChar`: a character is read as it was written.
* `Percent.formDecoded_of_formText`: so is a text.
* `Percent.formEntries_of_form`: so are parameters.
* `Percent.encodeChars_of_form`: a form in a query.
-/

namespace Questionnaire.Percent

/-! ## Reading -/

/-- What a character of a form stands for before percent signs are resolved. -/
def unplus (c : Char) : Char := if c = '+' then ' ' else c

/-- The text that is written in a form. -/
def formDecoded (t : Text) : Text := decode (String.ofList (t.string.toList.map unplus))

/-- The parameter for which a piece of a form stands; one without an equals sign is a name with an empty value. -/
def formEntry (piece : Text) : Text × Text :=
  let (name, value) := Text.splitAt '=' piece
  (formDecoded name, formDecoded (value.getD []))

/-- The parameters of a form. An empty piece stands for none. -/
def formEntries (t : Text) : List (Text × Text) := ((Text.pieces '&' t).filter (· ≠ [])).map formEntry

/-! ## Characters -/

/-- A hexadecimal digit is read as the number that it stands for. -/
theorem hexValue?_upperHexDigit : ∀ n < 16, Text.hexValue? (upperHexDigit n) = some n := by decide

/-- Hexadecimal digits are never encoded themselves. -/
theorem isUnreserved_upperHexDigit : ∀ n < 16, isUnreserved (upperHexDigit n) = true := by decide

/-- May a character stand in a name or a value of a form? -/
def inForm (c : Char) : Bool := isUnreserved c || c = '+' || c = '%'

/-- A character that is not unreserved is none of the unreserved ones. -/
theorem ne_of_isUnreserved {c d : Char} (h : isUnreserved c = true) (hd : isUnreserved d = false) : c ≠ d := by
  rintro rfl
  rw [h] at hd
  cases hd

/-- The same for the characters that may stand in a form. -/
theorem ne_of_inForm {c d : Char} (h : inForm c = true) (hd : inForm d = false) : c ≠ d := by
  rintro rfl
  rw [h] at hd
  cases hd

/-- A byte is written as a percent sign and digits. -/
theorem mem_escapeByte {b : UInt8} {c : Char} (h : c ∈ escapeByte b) : c = '%' ∨ isUnreserved c = true := by
  have hb := b.toNat_lt
  simp only [escapeByte, List.mem_cons, List.not_mem_nil, or_false] at h
  rcases h with rfl | rfl | rfl
  · exact .inl rfl
  · exact .inr (isUnreserved_upperHexDigit _ (by omega))
  · exact .inr (isUnreserved_upperHexDigit _ (by omega))

/-- So is a character, byte by byte. -/
theorem mem_escape {c d : Char} (h : d ∈ escape c) : d = '%' ∨ isUnreserved d = true := by
  rcases List.mem_flatMap.mp h with ⟨b, -, hd⟩
  exact mem_escapeByte hd

/-- Whatever stands for a character may stand in a form. -/
theorem inForm_of_mem_formChar {c d : Char} (h : d ∈ formChar c) : inForm d = true := by
  unfold formChar at h
  -- a space, an unreserved character, and any other
  split at h
  · rw [List.mem_singleton.mp h]
    rfl
  · split at h
    · next hc =>
      rw [List.mem_singleton.mp h, inForm, hc]
      rfl
    · rcases mem_escape h with rfl | hd
      · rfl
      · rw [inForm, hd]
        rfl

/-! ## A character is read as it was written -/

/-- Only a percent sign takes in what follows it. -/
theorem decodedBytes_of_ne {c : Char} (h : c ≠ '%') (rest : List Char) :
    decodedBytes (c :: rest) = String.utf8EncodeChar c ++ decodedBytes rest := by
  rw [← Text.toUTF8_singleton, decodedBytes]
  intro a b rest' hc
  exact absurd hc h

/-- The two digits behind a percent sign make up the byte again. -/
theorem decodedBytes_escapeByte (b : UInt8) (rest : List Char) :
    decodedBytes (escapeByte b ++ rest) = b :: decodedBytes rest := by
  have hb := b.toNat_lt
  -- the byte is put together from its two digits
  have hsum : b.toNat / 16 * 16 + b.toNat % 16 = b.toNat := by omega
  simp only [escapeByte, List.cons_append, List.nil_append]
  rw [decodedBytes, hexValue?_upperHexDigit _ (by omega), hexValue?_upperHexDigit _ (by omega)]
  simp only [hsum, Nat.toUInt8_eq, UInt8.ofNat_toNat]

/-- The bytes of an encoded character are read one after the other. -/
theorem decodedBytes_escape (c : Char) (rest : List Char) :
    decodedBytes (escape c ++ rest) = String.utf8EncodeChar c ++ decodedBytes rest := by
  have hbytes : ∀ bytes : List UInt8, decodedBytes (bytes.flatMap escapeByte ++ rest) = bytes ++ decodedBytes rest := by
    intro bytes
    induction bytes with
    | nil => rfl
    | cons b bytes ih =>
      rw [List.flatMap_cons, List.append_assoc, decodedBytes_escapeByte, ih]
      rfl
  rw [escape, Text.toUTF8_singleton, hbytes]

/-- Nothing but the plus sign stands for a space. -/
theorem unplus_of_isUnreserved {c : Char} (h : isUnreserved c = true) : unplus c = c :=
  if_neg (ne_of_isUnreserved h rfl)

/-- An encoded character holds no plus sign. -/
theorem map_unplus_escape (c : Char) : (escape c).map unplus = escape c := by
  have hkept : ∀ d ∈ escape c, unplus d = d := by
    intro d hd
    rcases mem_escape hd with rfl | hd
    · rfl
    · exact unplus_of_isUnreserved hd
  exact (List.map_congr_left hkept).trans (List.map_id _)

/-- Blanks come back from plus signs, and plus signs from the bytes after percent signs. -/
theorem decodedBytes_formChar (c : Char) (rest : List Char) :
    decodedBytes ((formChar c).map unplus ++ rest) = String.utf8EncodeChar c ++ decodedBytes rest := by
  unfold formChar
  by_cases hblank : c = ' '
  · rw [if_pos hblank, hblank]
    exact decodedBytes_of_ne (by decide) rest
  · rw [if_neg hblank]
    by_cases hunreserved : isUnreserved c = true
    · rw [if_pos hunreserved, List.map_singleton, unplus_of_isUnreserved hunreserved]
      exact decodedBytes_of_ne (ne_of_isUnreserved hunreserved rfl) rest
    · rw [if_neg hunreserved, map_unplus_escape]
      exact decodedBytes_escape c rest

/-- What holds of one character with anything behind it holds of all of them. -/
theorem decodedBytes_flatMap_formChar (cs : List Char) :
    decodedBytes ((cs.flatMap formChar).map unplus) = cs.flatMap String.utf8EncodeChar := by
  induction cs with
  | nil => rfl
  | cons c cs ih => rw [List.flatMap_cons, List.map_append, decodedBytes_formChar, ih, List.flatMap_cons]

/-! ## Texts and parameters -/

variable {t : Text} {s : String}

/-- A text that can be written has no halves, and is written character by character. -/
theorem formText_eq (h : formText t = .ok s) : ∃ u : String, t = u ∧ s = String.ofList (u.toList.flatMap formChar) := by
  unfold formText Text.utf8 at h
  cases hfault : Text.utf8Fault? t with
  | some e =>
    rw [hfault] at h
    cases h
  | none =>
    rw [hfault] at h
    cases h
    exact ⟨t.string, (Text.ofString_string (Text.utf8Fault?_eq_none_iff.mp hfault)).symm, rfl⟩

/-- A text is read from a form as it was written. -/
theorem formDecoded_of_formText (h : formText t = .ok s) : formDecoded s = t := by
  rcases formText_eq h with ⟨u, rfl, rfl⟩
  rw [formDecoded, Text.string_ofString, String.toList_ofList, decode, String.toList_ofList,
    decodedBytes_flatMap_formChar, Text.ofBytes_flatMap, String.ofList_toList]

/-- A written text holds what may stand in a form. -/
theorem inForm_of_formText (h : formText t = .ok s) : ∀ c ∈ s.toList, inForm c = true := by
  rcases formText_eq h with ⟨u, rfl, rfl⟩
  intro c hc
  rw [String.toList_ofList] at hc
  rcases List.mem_flatMap.mp hc with ⟨d, -, hd⟩
  exact inForm_of_mem_formChar hd

/-- So it holds none of the signs between the parts of a form. -/
theorem notMem_of_formText (h : formText t = .ok s) {d : Char} (hd : inForm d = false) :
    CodePoint.char d ∉ (s : Text) := by
  intro hmem
  rcases List.mem_map.mp hmem with ⟨c, hc, heq⟩
  exact ne_of_inForm (inForm_of_formText h c hc) hd (CodePoint.char.inj heq)

/-- A parameter is its name and its value with a sign between them. -/
theorem formParameter_eq {p : Text × Text} (h : formParameter p = .ok s) :
    ∃ name value, formText p.1 = .ok name ∧ formText p.2 = .ok value ∧ s = name ++ "=" ++ value := by
  unfold formParameter at h
  simp only [bind_eq_ok_iff] at h
  rcases h with ⟨name, hname, value, hvalue, h⟩
  cases h
  exact ⟨name, value, hname, hvalue, rfl⟩

/-- A parameter is read back as its name and its value, split at the first equality sign. -/
theorem formEntry_of_formParameter {p : Text × Text} (h : formParameter p = .ok s) : formEntry s = p := by
  rcases formParameter_eq h with ⟨name, value, hname, hvalue, rfl⟩
  have hsplit : Text.splitAt '=' (name ++ "=" ++ value : String) = (Text.ofString name, some (value : Text)) := by
    rw [Text.ofString_append, Text.ofString_append, List.append_assoc]
    exact Text.splitAt_append (notMem_of_formText hname rfl) _
  have hentry : formEntry (name ++ "=" ++ value : String) = (formDecoded name, formDecoded value) := by
    rw [formEntry, hsplit]
    rfl
  rw [hentry, formDecoded_of_formText hname, formDecoded_of_formText hvalue]

/-- A written parameter is not empty, nor does it hold the sign between parameters. -/
theorem piece_of_formParameter {p : Text × Text} (h : formParameter p = .ok s) :
    CodePoint.char '&' ∉ (s : Text) ∧ (s : Text) ≠ [] := by
  rcases formParameter_eq h with ⟨name, value, hname, hvalue, rfl⟩
  rw [Text.ofString_append, Text.ofString_append]
  constructor
  · simp only [List.mem_append, not_or]
    exact ⟨⟨notMem_of_formText hname rfl, by decide⟩, notMem_of_formText hvalue rfl⟩
  · intro hnil
    -- even with an empty name and an empty value, the equality sign is there
    have hsign := (List.append_eq_nil_iff.mp (List.append_eq_nil_iff.mp hnil).1).2
    cases hsign

/-- A form is its parameters with signs between them. -/
theorem form_eq {ps : List (Text × Text)} (h : form ps = .ok s) :
    ∃ parts, List.Forall₂ (fun p part => formParameter p = .ok part) ps parts ∧ s = "&".intercalate parts := by
  unfold form at h
  simp only [bind_eq_ok_iff] at h
  rcases h with ⟨parts, hparts, h⟩
  cases h
  exact ⟨parts, mapM_eq_ok_iff.mp hparts, rfl⟩

/-- What holds of each parameter in a form holds of each of the pieces that are written. -/
theorem forall_mem_of_forall₂ {ps : List (Text × Text)} {parts : List String} {P : String → Prop}
    (hparts : List.Forall₂ (fun p part => formParameter p = .ok part) ps parts)
    (hpart : ∀ p part, formParameter p = .ok part → P part) : ∀ part ∈ parts, P part := by
  induction hparts with
  | nil => nofun
  | cons h _ ih => exact List.forall_mem_cons.mpr ⟨hpart _ _ h, ih⟩

/-- **Parameters are read from a form as they were written.** -/
theorem formEntries_of_form {ps : List (Text × Text)} (h : form ps = .ok s) : formEntries s = ps := by
  rcases form_eq h with ⟨parts, hparts, rfl⟩
  -- what was written for a parameter is not empty and has no ampersand, so it comes back as one piece
  have hpieces : ∀ piece ∈ parts.map Text.ofString, CodePoint.char '&' ∉ piece ∧ piece ≠ [] := by
    intro piece hpiece
    rcases List.mem_map.mp hpiece with ⟨part, hpart, rfl⟩
    exact forall_mem_of_forall₂ hparts (fun _ _ => piece_of_formParameter) part hpart
  have hentries : (parts.map Text.ofString).map formEntry = ps := by
    clear h hpieces
    induction hparts with
    | nil => rfl
    | cons hpart _ ih => rw [List.map_cons, List.map_cons, formEntry_of_formParameter hpart, ih]
  rw [← hentries]
  cases parts with
  | nil => rfl
  | cons part parts =>
    have hkept : ∀ piece ∈ (part :: parts).map Text.ofString, decide (piece ≠ []) = true := by
      intro piece hpiece
      exact decide_eq_true (hpieces piece hpiece).2
    have hapart : Text.pieces '&' ("&".intercalate (part :: parts)) = (part :: parts).map Text.ofString := by
      rw [Text.ofString_intercalate]
      exact Text.pieces_intercalate (by simp) fun piece hpiece => (hpieces piece hpiece).1
    rw [formEntries, hapart, List.filter_eq_self.mpr hkept]

/-! ## A form in a query -/

/-- What a parameter is written with may stand in a query as it is. -/
theorem inQuery_of_formParameter {p : Text × Text} (h : formParameter p = .ok s) :
    ∀ c ∈ s.toList, isUnreserved c || inQuery c := by
  -- a query may hold what a form may, and the signs between its parts
  have hinForm : ∀ c, inForm c = true → isUnreserved c || inQuery c := by
    intro c hc
    simp only [inForm, Bool.or_eq_true, decide_eq_true_eq] at hc
    rcases hc with (hc | rfl) | rfl
    · rw [hc]
      rfl
    · rfl
    · rfl
  rcases formParameter_eq h with ⟨name, value, hname, hvalue, rfl⟩
  intro c hc
  simp only [String.toList_append, List.mem_append] at hc
  rcases hc with (hc | hc) | hc
  · exact hinForm c (inForm_of_formText hname c hc)
  · rw [List.mem_singleton.mp hc]
    rfl
  · exact hinForm c (inForm_of_formText hvalue c hc)

/-- So may a whole form. -/
theorem inQuery_of_form {ps : List (Text × Text)} (h : form ps = .ok s) :
    ∀ c ∈ s.toList, isUnreserved c || inQuery c := by
  rcases form_eq h with ⟨parts, hparts, rfl⟩
  rw [String.toList_intercalate]
  apply Text.forall_mem_intercalate
  · intro c hc
    rw [List.mem_singleton.mp hc]
    rfl
  · rw [List.forall_mem_map]
    exact forall_mem_of_forall₂ hparts fun _ _ => inQuery_of_formParameter

/-- No character of a form ends a query. -/
theorem notMem_of_form {ps : List (Text × Text)} (h : form ps = .ok s) : CodePoint.char '#' ∉ (s : Text) := by
  intro hmem
  rcases List.mem_map.mp hmem with ⟨c, hc, heq⟩
  have hallowed := inQuery_of_form h c hc
  rw [CodePoint.char.inj heq] at hallowed
  cases hallowed

/-- A query takes in a form as it is. -/
theorem encodeChars_of_form {ps : List (Text × Text)} (h : form ps = .ok s) : encodeChars inQuery s = s := by
  have hkept : ∀ cs : List Char, (∀ c ∈ cs, isUnreserved c || inQuery c) →
      (cs.flatMap fun c => if isUnreserved c || inQuery c then [c] else escape c) = cs := by
    intro cs hcs
    induction cs with
    | nil => rfl
    | cons c cs ih =>
      rw [List.forall_mem_cons] at hcs
      rw [List.flatMap_cons, if_pos hcs.1, ih hcs.2]
      rfl
  rw [encodeChars, hkept _ (inQuery_of_form h), String.ofList_toList]

end Questionnaire.Percent
