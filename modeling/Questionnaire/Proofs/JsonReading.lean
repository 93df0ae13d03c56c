import Mathlib.Data.List.TakeWhile
import Questionnaire.Json.Reader
import Questionnaire.Json.Writer
import Questionnaire.Proofs.Answers

/-!
# What the reader reads

A text is read as a value if the reader finds the value in front of whatever follows and stops there. Which
texts are read as which values is said rule by rule, as the notation says it: a list is read if its items are,
wherever there are blanks between them.

* `Reader.Spells`: what stands between the quotes of a literal; a rule for each way to write a code point.
* `Reader.Reads`, `Reader.ReadsItems`, `Reader.ReadsMembers`: values, items of lists, entries of objects.
* `parse_of_reads`: a text that is read as a value is parsed as it.
-/

namespace Questionnaire.Json.Reader

open Text (hexValue? hexDigit hexDigits isDigit natOfDigits)

/-! ## Blanks -/

/-- Is a text blank? -/
def AllBlank (w : Text) : Prop := ∀ c ∈ w, isBlank c = true

theorem allBlank_nil : AllBlank [] := by simp [AllBlank]

/-- Blanks in front are skipped. -/
theorem skipBlanks_append {w : Text} (hw : AllBlank w) (cs : Text) : skipBlanks (w ++ cs) = skipBlanks cs :=
  List.dropWhile_append_of_pos hw

/-- Nothing is skipped in front of something else. -/
theorem skipBlanks_cons {c : CodePoint} (hc : isBlank c = false) (cs : Text) : skipBlanks (c :: cs) = c :: cs := by
  simp [skipBlanks, hc]

/-! ## Integers -/

/-- Does a text not go on with what could belong to an integer in front of it? -/
def EndsInteger (rest : Text) : Prop :=
  ∀ c ∈ rest.head?, isDigit c = false ∧ c ≠ '.' ∧ c ≠ 'e' ∧ c ≠ 'E'

/-- An integer ends at blanks and at what it would end at without them. -/
theorem EndsInteger.blanks {w rest : Text} (hw : AllBlank w) (hrest : EndsInteger rest) :
    EndsInteger (w ++ rest) := by
  cases w with
  | nil => exact hrest
  | cons c w =>
    intro d hd
    have hd : c = d := by simpa using hd
    have hblank := hw c (by simp)
    simp only [isBlank, Bool.or_eq_true, decide_eq_true_eq] at hblank
    rcases hblank with ((rfl | rfl) | rfl) | rfl <;> subst hd <;> decide

/-- The digits of a number as a text. -/
def digits (n : Nat) : Text := (Decimal.digitsOf n).map .char

/-- The digits of a number are digits. -/
theorem isDigit_of_mem_digits {n : Nat} {c : CodePoint} (h : c ∈ digits n) : isDigit c = true := by
  obtain ⟨d, hd, rfl⟩ := List.mem_map.mp h
  have hd : d.isDigit = true := Nat.isDigit_of_mem_toDigits (by decide) (by decide) hd
  exact hd

/-- There is one at least. -/
theorem digits_ne_nil (n : Nat) : digits n ≠ [] := by
  simp [digits, Decimal.digitsOf, Nat.toDigits_ne_nil]

/-- The digits of a number start with a digit. -/
theorem exists_digits_eq_cons (n : Nat) : ∃ d ds, digits n = d :: ds ∧ isDigit d = true := by
  obtain ⟨d, ds, heq⟩ := List.exists_cons_of_ne_nil (digits_ne_nil n)
  exact ⟨d, ds, heq, isDigit_of_mem_digits (n := n) (by rw [heq]; simp)⟩

/-- They are read as the number. -/
theorem natOfDigits_digits (n : Nat) : natOfDigits (digits n) = n := by
  have hfold : natOfDigits (digits n) = Nat.ofDigitChars 10 (Decimal.digitsOf n) 0 := by
    rw [Nat.ofDigitChars_eq_foldl, natOfDigits, digits, List.foldl_map]
    simp only [Nat.mul_comm 10]
    rfl
  rw [hfold, Decimal.digitsOf, Nat.ofDigitChars_ten_toDigits]

/-- The digits of a number other than zero do not start with one. -/
theorem head?_toDigits_ne_zero {n : Nat} (h : n ≠ 0) : (Nat.toDigits 10 n).head? ≠ some '0' := by
  induction n using Nat.strong_induction_on with
  | _ n ih =>
    by_cases hn : n < 10
    · simp [Nat.toDigits_of_lt_base hn, h]
    · rw [Nat.toDigits_of_base_le (by decide) (by omega), List.head?_append]
      have hrest := ih (n / 10) (by omega) (by omega)
      cases hd : Nat.toDigits 10 (n / 10) with
      | nil => exact absurd hd Nat.toDigits_ne_nil
      | cons d ds => simpa [hd] using hrest

/-- They do not start with a zero, unless the number is zero. -/
theorem head?_digits_ne_zero {n : Nat} (h : n ≠ 0) (rest : Text) : (digits n ++ rest).head? ≠ some (.char '0') := by
  have hdigits := head?_toDigits_ne_zero h
  unfold digits Decimal.digitsOf
  cases hd : Nat.toDigits 10 n with
  | nil => exact absurd hd Nat.toDigits_ne_nil
  | cons d ds => simpa [hd] using hdigits

/-- All that belongs to digits in front is taken. -/
theorem span_digits (n : Nat) {rest : Text} (hrest : EndsInteger rest) :
    (digits n ++ rest).takeWhile isDigit = digits n ∧ (digits n ++ rest).dropWhile isDigit = rest := by
  have hall : ∀ c ∈ digits n, isDigit c = true := fun c => isDigit_of_mem_digits
  rw [List.takeWhile_append_of_pos hall, List.dropWhile_append_of_pos hall]
  cases rest with
  | nil => simp
  | cons c rest =>
    have hc := (hrest c rfl).1
    simp [hc]

/-- So they are the whole part of a number, if no digit follows. -/
theorem wholePart?_digits (n : Nat) {rest : Text} (hrest : EndsInteger rest) :
    wholePart? (digits n ++ rest) = some (digits n, rest) := by
  obtain ⟨htake, hdrop⟩ := span_digits n hrest
  by_cases hn : n = 0
  · subst hn
    rfl
  · have hhead := head?_digits_ne_zero hn rest
    unfold wholePart?
    split
    · next heq => exact absurd (by rw [heq]; rfl) hhead
    · simp [htake, hdrop, digits_ne_nil]

/-- Where the number ends, no fraction follows. -/
theorem fractionPart?_eq_none {rest : Text} (hrest : EndsInteger rest) : fractionPart? rest = none := by
  unfold fractionPart?
  split
  · exact absurd rfl (hrest _ rfl).2.1
  · rfl

/-- Nor does an exponent. -/
theorem exponentPart?_eq_none {rest : Text} (hrest : EndsInteger rest) : exponentPart? rest = none := by
  cases rest with
  | nil => rfl
  | cons c rest =>
    have hc := (hrest c rfl).2.2
    simp [exponentPart?, hc]

/-- An integer is written with a sign if it is negative, and its digits. -/
theorem intText_eq (n : Int) : intText n = (if n < 0 then [CodePoint.char '-'] else []) ++ digits n.natAbs := by
  by_cases h : n < 0 <;> simp [intText, digits, Text.ofString, h]

/-- An integer is read up to where it ends. -/
theorem number_intText {limit : Nat} (n : Int) {rest : Text} (hrest : EndsInteger rest)
    (hlimit : (intText n).length ≤ limit) : number limit (intText n ++ rest) = .ok (.int n, rest) := by
  have hwhole := wholePart?_digits n.natAbs hrest
  have hfraction := fractionPart?_eq_none hrest
  have hexponent := exponentPart?_eq_none hrest
  rw [intText_eq] at hlimit ⊢
  rw [List.length_append] at hlimit
  have hsize := natOfDigits_digits n.natAbs
  have hsign : n < 0 → -(n.natAbs : Int) = n := by omega
  have hnone : ¬ n < 0 → (n.natAbs : Int) = n := by omega
  generalize n.natAbs = m at *
  have hshort : ¬ limit < (digits m).length := by omega
  by_cases hn : n < 0
  · have hvalue := hsign hn
    simp [number, hn, hwhole, hfraction, hexponent, hshort, hsize, hvalue]
  · -- without a sign, the text starts with a digit
    have hvalue := hnone hn
    obtain ⟨d, ds, heq, hd⟩ := exists_digits_eq_cons m
    have hdigit : d ≠ '-' := by
      rintro rfl
      exact absurd hd (by decide)
    rw [heq] at hwhole hshort hsize ⊢
    rw [List.cons_append] at hwhole
    rw [List.length_cons] at hshort
    simp [number, hn, hdigit, hwhole, hfraction, hexponent, hshort, hsize, hvalue]

/-! ## Literals -/

/-- Is what stands between quotes the literal of a text? -/
def Spells (body t : Text) : Prop := ∀ start rest, stringBody start (body ++ CodePoint.char '"' :: rest) = .ok (t, rest)

/-- The empty text is spelt by nothing. -/
theorem spells_nil : Spells [] [] := fun _ _ => rfl

@[simp] theorem Result.cons_ok (c : CodePoint) (t rest : Text) :
    Result.cons c (.ok (t, rest)) = .ok (c :: t, rest) := rfl

/-- What is put in front of what is read. -/
theorem Result.cons_eq_ok {c : CodePoint} {r : Result Text} {t rest : Text} :
    r.cons c = .ok (t, rest) ↔ ∃ t', r = .ok (t', rest) ∧ t = c :: t' := by
  rcases r with stop | ⟨cs, more⟩
  · simp [Result.cons, Except.map]
  · simp only [cons_ok, Except.ok.injEq, Prod.mk.injEq]
    constructor
    · rintro ⟨rfl, rfl⟩
      exact ⟨cs, ⟨rfl, rfl⟩, rfl⟩
    · rintro ⟨_, ⟨rfl, rfl⟩, rfl⟩
      exact ⟨rfl, rfl⟩

/-- Most characters stand for themselves. -/
theorem stringBody_plain {c : CodePoint} (hcontrol : 32 ≤ c.toNat) (hquote : c ≠ '"') (hescape : c ≠ '\\')
    (start cs : Text) : stringBody start (c :: cs) = (stringBody start cs).cons c := by
  rw [stringBody.eq_7 start c cs hquote (fun _ _ _ _ _ _ h => absurd h hescape) (fun _ h => absurd h hescape)
    (fun _ _ h => absurd h hescape) (fun h => absurd h hescape), if_neg (by omega)]

/-- A character that is no mark spells itself. -/
theorem Spells.plain {c : CodePoint} {body t : Text} (hcontrol : 32 ≤ c.toNat) (hquote : c ≠ '"')
    (hescape : c ≠ '\\') (h : Spells body t) : Spells (c :: body) (c :: t) := by
  intro start rest
  rw [List.cons_append, stringBody_plain hcontrol hquote hescape, h, Result.cons_ok]

/-- Some characters are written as another one after a backslash. -/
theorem stringBody_short {c escaped : CodePoint} (hc : shortEscape? c = some escaped) (start cs : Text) :
    stringBody start ('\\' :: c :: cs) = (stringBody start cs).cons escaped := by
  have hunit : c ≠ 'u' := by
    rintro rfl
    have hnone : shortEscape? 'u' = none := by decide
    rw [hnone] at hc
    cases hc
  rw [stringBody.eq_5 start c cs (fun _ _ _ _ _ _ h => absurd h hunit) (fun h => absurd h hunit)]
  simp [hc]

/-- A short escape spells its character. -/
theorem Spells.short {c escaped : CodePoint} {body t : Text} (hc : shortEscape? c = some escaped)
    (h : Spells body t) : Spells ('\\' :: c :: body) (escaped :: t) := by
  intro start rest
  rw [List.cons_append, List.cons_append, stringBody_short hc, h, Result.cons_ok]

/-- A slash may be written after a backslash. -/
theorem Spells.slash {body t : Text} (h : Spells ('/' :: body) t) : Spells ('\\' :: '/' :: body) t := by
  intro start rest
  have hplain := stringBody_plain (c := '/') (by decide) (by decide) (by decide) start
    (body ++ CodePoint.char '"' :: rest)
  have hslash : shortEscape? '/' = some (.char '/') := rfl
  have hread := h start rest
  rw [List.cons_append, hplain] at hread
  rw [List.cons_append, List.cons_append, stringBody_short hslash, hread]

/-! ### Units -/

/-- A hexadecimal digit is read as its value. -/
theorem hexValue?_hexDigit {n : Nat} (h : n < 16) : hexValue? (hexDigit n) = some n := by
  have hall : ∀ k : Fin 16, hexValue? (hexDigit k) = some k.val := by decide
  exact hall ⟨n, h⟩

/-- The escape of a unit: a backslash, a `u` and four digits, by which the unit is read. -/
theorem unitEscape_eq {n : Nat} (h : n < 0x10000) :
    ∃ a b c d : CodePoint, unitEscape n = (['\\', 'u', a, b, c, d] : Text) ∧ unit? a b c d = some (.ofNat n) := by
  refine ⟨hexDigit (n / 16 / 16 / 16 % 16), hexDigit (n / 16 / 16 % 16), hexDigit (n / 16 % 16), hexDigit (n % 16),
    rfl, ?_⟩
  have hvalue : ((n / 16 / 16 / 16 % 16 * 16 + n / 16 / 16 % 16) * 16 + n / 16 % 16) * 16 + n % 16 = n := by omega
  unfold unit?
  rw [hexValue?_hexDigit (Nat.mod_lt _ (by decide)), hexValue?_hexDigit (Nat.mod_lt _ (by decide)),
    hexValue?_hexDigit (Nat.mod_lt _ (by decide)), hexValue?_hexDigit (Nat.mod_lt _ (by decide))]
  simp only [hvalue]

/-- Where the escape of a low half is in front, the text that is read starts with it. -/
theorem head?_of_lowHalf? {cs t rest start : Text} {low : CodePoint} (hlow : lowHalf? cs = some low)
    (hread : stringBody start cs = .ok (t, rest)) : low.isLowHalf = true ∧ t.head? = some low := by
  unfold lowHalf? at hlow
  split at hlow
  · next a b c d e more =>
    obtain ⟨hunit, hlow⟩ := Option.filter_eq_some_iff.mp hlow
    refine ⟨hlow, ?_⟩
    -- a low half is no high half, so it is read by itself
    have hhigh : low.isHighHalf = false := by
      simp only [CodePoint.isLowHalf, Bool.and_eq_true, decide_eq_true_eq] at hlow
      simp [CodePoint.isHighHalf, hlow.2]
    rw [stringBody.eq_3] at hread
    simp only [hunit, hhigh, Bool.false_eq_true, if_false] at hread
    obtain ⟨t', -, rfl⟩ := Result.cons_eq_ok.mp hread
    rfl
  · exact absurd hlow (by simp)

/-- The escape of a unit stands for its code point, unless it is a high half in front of a low half. -/
theorem Spells.unit {n : Nat} {body t : Text} (hn : n < 0x10000)
    (hapart : (CodePoint.ofNat n).isHighHalf = true → ∀ p ∈ t.head?, p.isLowHalf = false) (h : Spells body t) :
    Spells (unitEscape n ++ body) (.ofNat n :: t) := by
  intro start rest
  obtain ⟨a, b, c, d, heq, hunit⟩ := unitEscape_eq hn
  have hread := h start rest
  -- the closing quote is behind the digits at least
  obtain ⟨e, more, htail⟩ := List.exists_cons_of_ne_nil (l := body ++ CodePoint.char '"' :: rest) (by simp)
  have hlone :
      (if (CodePoint.ofNat n).isHighHalf = true then lowHalf? (body ++ CodePoint.char '"' :: rest) else none) =
        none := by
    split
    · next hhigh =>
      cases hlow : lowHalf? (body ++ CodePoint.char '"' :: rest) with
      | none => rfl
      | some low =>
        obtain ⟨hhalf, hhead⟩ := head?_of_lowHalf? hlow hread
        exact absurd hhalf (by simp [hapart hhigh low hhead])
    · rfl
  rw [heq, List.append_assoc, htail]
  rw [htail] at hlone hread
  simp only [List.cons_append, List.nil_append]
  rw [stringBody.eq_3]
  simp only [hunit, hlone, hread, Result.cons_ok]

/-- The escapes of two halves stand for their character. -/
theorem Spells.pair {high low : Nat} {body t : Text} (hhigh : high < 0x10000) (hlow : low < 0x10000)
    (hhighHalf : (CodePoint.ofNat high).isHighHalf = true) (hlowHalf : (CodePoint.ofNat low).isLowHalf = true)
    (h : Spells body t) :
    Spells (unitEscape high ++ unitEscape low ++ body) (.ofPair (.ofNat high) (.ofNat low) :: t) := by
  intro start rest
  obtain ⟨a, b, c, d, heq, hunit⟩ := unitEscape_eq hhigh
  obtain ⟨a', b', c', d', heq', hunit'⟩ := unitEscape_eq hlow
  have hread := h start rest
  obtain ⟨e, more, htail⟩ := List.exists_cons_of_ne_nil (l := body ++ CodePoint.char '"' :: rest) (by simp)
  rw [heq, heq', List.append_assoc, List.append_assoc, htail]
  rw [htail] at hread
  have hfound : lowHalf? ('\\' :: 'u' :: a' :: b' :: c' :: d' :: e :: more) = some (.ofNat low) := by
    simp [lowHalf?, hunit', hlowHalf]
  simp only [List.cons_append, List.nil_append]
  rw [stringBody.eq_3]
  simp only [hunit, hhighHalf, if_true, hfound, hread, Result.cons_ok]

/-! ## Values -/

/-- Can a value be told by the code point it starts with, and not taken for a blank or a closing bracket? -/
def Opens (s : Text) : Prop := ∃ c cs, s = c :: cs ∧ isBlank c = false ∧ c ≠ ']' ∧ c ≠ '\x7d'

/-- Is a text read as a value, whatever follows that does not go on with a number? The limits need not be above
the length of the text, and the steps not above twice that. -/
structure Reads (s : Text) (v : Json) : Prop where
  opens : Opens s
  value_eq : ∀ (limit depth fuel : Nat) (rest : Text), s.length ≤ limit → s.length ≤ depth → 2 * s.length ≤ fuel →
    EndsInteger rest → value limit depth fuel (s ++ rest) = .ok (v, rest)

/-- Is a text read as the items of a list up to its closing bracket? -/
structure ReadsItems (s : Text) (vs : List Json) : Prop where
  opens : Opens s
  items_eq : ∀ (limit depth fuel : Nat) (rest : Text), s.length ≤ limit → s.length ≤ depth → 2 * s.length < fuel →
    items limit depth fuel (s ++ rest) = .ok (vs, rest)

/-- Is a text read as the entries of an object up to its closing brace? -/
structure ReadsMembers (s : Text) (entries : List (Text × Json)) : Prop where
  opens : Opens s
  members_eq : ∀ (limit depth fuel : Nat) (rest : Text), s.length ≤ limit → s.length ≤ depth → 2 * s.length < fuel →
    members limit depth fuel (s ++ rest) = .ok (entries, rest)

/-- Blanks in front of a value are skipped, and no more. -/
theorem Opens.skipBlanks {w s : Text} (hw : AllBlank w) (hs : Opens s) (rest : Text) :
    skipBlanks (w ++ (s ++ rest)) = s ++ rest := by
  obtain ⟨c, cs, rfl, hblank, -⟩ := hs
  rw [skipBlanks_append hw, List.cons_append, skipBlanks_cons hblank]

/-- A text that does not start with a bracket or a quote is a word or a number. -/
theorem value_eq_scalar {limit depth fuel : Nat} {c : CodePoint} (hquote : c ≠ '"') (hlist : c ≠ '[')
    (hobject : c ≠ '\x7b') (cs : Text) : value limit depth (fuel + 1) (c :: cs) = scalar limit (c :: cs) := by
  apply value.eq_7
  · intro _ h
    exact hquote (List.cons.inj h).1
  · intro _ _ h
    exact hlist (List.cons.inj h).1
  · intro _ _ _ h
    exact hlist (List.cons.inj h).1
  · intro _ _ h
    exact hobject (List.cons.inj h).1
  · intro _ _ _ h
    exact hobject (List.cons.inj h).1

/-! ### Words and numbers -/

/-- A text is read as a value if the reader of words and numbers does so. -/
theorem Reads.of_scalar {c : CodePoint} {cs : Text} {v : Json} (hblank : isBlank c = false)
    (hplain : c ∉ (['"', '[', ']', '\x7b', '\x7d'] : Text))
    (h : ∀ (limit : Nat) (rest : Text), (c :: cs).length ≤ limit → EndsInteger rest →
      scalar limit (c :: cs ++ rest) = .ok (v, rest)) : Reads (c :: cs) v := by
  simp only [List.mem_cons, List.not_mem_nil, or_false, not_or] at hplain
  obtain ⟨hquote, hlist, hclose, hobject, hclose'⟩ := hplain
  constructor
  · exact ⟨c, cs, rfl, hblank, hclose, hclose'⟩
  · intro limit depth fuel rest hlimit _ hfuel hrest
    obtain ⟨fuel, rfl⟩ : ∃ f, fuel = f + 1 := ⟨fuel - 1, by simp at hfuel; omega⟩
    rw [List.cons_append, value_eq_scalar hquote hlist hobject, ← List.cons_append]
    exact h limit rest hlimit hrest

/-- The word for null is read. -/
theorem reads_null : Reads "null" .null :=
  .of_scalar (by decide) (by decide) fun _ _ _ _ => rfl

/-- So are the words for the truth values. -/
theorem reads_bool (b : Bool) : Reads (boolText b) (.bool b) := by
  cases b
  · exact .of_scalar (by decide) (by decide) fun _ _ _ _ => rfl
  · exact .of_scalar (by decide) (by decide) fun _ _ _ _ => rfl

/-- A digit is no other sign. -/
theorem ne_of_isDigit {c d : CodePoint} (hd : isDigit d = true) (hc : isDigit c = false) : d ≠ c := by
  rintro rfl
  simp [hc] at hd

/-- What starts with a digit is no word. -/
theorem scalar_eq_number {limit : Nat} {d : CodePoint} (hd : isDigit d = true) (cs : Text) :
    scalar limit (d :: cs) = number limit (d :: cs) := by
  have hhead : ∀ {c : CodePoint} {rest : Text}, isDigit c = false → d :: cs = c :: rest → False :=
    fun hc h => ne_of_isDigit hd hc (List.cons.inj h).1
  exact scalar.eq_7 _ _ (fun _ => hhead (by decide)) (fun _ => hhead (by decide)) (fun _ => hhead (by decide))
    (fun _ => hhead (by decide)) (fun _ => hhead (by decide)) (fun _ => hhead (by decide))

/-- Nor is what starts with a sign and a digit. -/
theorem scalar_sign_eq_number {limit : Nat} {d : CodePoint} (hd : isDigit d = true) (cs : Text) :
    scalar limit (.char '-' :: d :: cs) = number limit (.char '-' :: d :: cs) := by
  have hhead : ∀ {c : CodePoint} {rest : Text}, c ≠ '-' → .char '-' :: d :: cs = c :: rest → False :=
    fun hc h => hc (List.cons.inj h).1.symm
  have hI : d ≠ 'I' := ne_of_isDigit hd (by decide)
  exact scalar.eq_7 _ _ (fun _ => hhead (by decide)) (fun _ => hhead (by decide)) (fun _ => hhead (by decide))
    (fun _ => hhead (by decide)) (fun _ => hhead (by decide))
    (fun _ h => hI (List.cons.inj (List.cons.inj h).2).1)

/-- An integer is read from its digits, with a sign or without. -/
theorem reads_int (n : Int) : Reads (intText n) (.int n) := by
  obtain ⟨d, ds, heq, hd⟩ := exists_digits_eq_cons n.natAbs
  have hread : ∀ (limit : Nat) (rest : Text), (intText n).length ≤ limit → EndsInteger rest →
      number limit (intText n ++ rest) = .ok (.int n, rest) :=
    fun limit rest hlimit hrest => number_intText n hrest hlimit
  rw [intText_eq, heq] at hread ⊢
  -- the first character tells a number from the other values: a sign or a digit
  by_cases hn : n < 0
  · simp only [if_pos hn, List.cons_append, List.nil_append] at hread ⊢
    refine .of_scalar (by decide) (by decide) fun limit rest hlimit hrest => ?_
    rw [← hread limit rest hlimit hrest]
    exact scalar_sign_eq_number hd _
  · simp only [if_neg hn, List.nil_append] at hread ⊢
    have hblank : isBlank d = false := by
      simp [isBlank, ne_of_isDigit hd (c := ' ') (by decide), ne_of_isDigit hd (c := '\t') (by decide),
        ne_of_isDigit hd (c := '\n') (by decide), ne_of_isDigit hd (c := '\r') (by decide)]
    have hplain : d ∉ (['"', '[', ']', '\x7b', '\x7d'] : Text) := by
      intro hmem
      have hall : ∀ c ∈ (['"', '[', ']', '\x7b', '\x7d'] : Text), isDigit c = false := by decide
      simp [hall d hmem] at hd
    refine .of_scalar hblank hplain fun limit rest hlimit hrest => ?_
    rw [← hread limit rest hlimit hrest]
    exact scalar_eq_number hd _

/-! ### Texts, lists and objects -/

/-- The literal of a text in quotes. -/
def literal (body : Text) : Text := CodePoint.char '"' :: body ++ [CodePoint.char '"']

/-- A key is read as a text is. -/
theorem name_literal {body t : Text} (h : Spells body t) (rest : Text) :
    name (literal body ++ rest) = .ok (t, rest) := by
  have happend : literal body ++ rest = CodePoint.char '"' :: (body ++ CodePoint.char '"' :: rest) := by
    simp [literal]
  rw [happend]
  exact h _ rest

/-- A literal is read as the text that it spells. -/
theorem reads_str {body t : Text} (h : Spells body t) : Reads (literal body) (.str t) := by
  constructor
  · exact ⟨_, _, rfl, by decide, by decide, by decide⟩
  · intro limit depth fuel rest _ _ hfuel _
    obtain ⟨fuel, rfl⟩ : ∃ f, fuel = f + 1 := ⟨fuel - 1, by simp [literal] at hfuel; omega⟩
    have hname := name_literal h rest
    unfold literal at hname ⊢
    rw [List.cons_append, List.cons_append] at hname ⊢
    rw [value.eq_2, hname]
    rfl

/-- An empty list may have blanks between its brackets. -/
theorem reads_nil {w : Text} (hw : AllBlank w) : Reads (.char '[' :: w ++ [.char ']']) (.arr []) := by
  constructor
  · exact ⟨_, _, rfl, by decide, by decide, by decide⟩
  · intro limit depth fuel rest _ hdepth hfuel _
    obtain ⟨depth, rfl⟩ : ∃ d, depth = d + 1 := ⟨depth - 1, by simp at hdepth; omega⟩
    obtain ⟨fuel, rfl⟩ : ∃ f, fuel = f + 1 := ⟨fuel - 1, by simp at hfuel; omega⟩
    have hskip : skipBlanks (w ++ [.char ']'] ++ rest) = .char ']' :: rest := by
      rw [List.append_assoc, skipBlanks_append hw]
      exact skipBlanks_cons (by decide) rest
    rw [List.cons_append, List.cons_append, value.eq_4, hskip]
    rfl

/-- A list is read item by item. -/
theorem reads_arr {w s : Text} {vs : List Json} (hw : AllBlank w) (h : ReadsItems s vs) :
    Reads (.char '[' :: w ++ s) (.arr vs) := by
  constructor
  · exact ⟨_, _, rfl, by decide, by decide, by decide⟩
  · intro limit depth fuel rest hlimit hdepth hfuel _
    simp only [List.length_append, List.length_cons] at hlimit hdepth hfuel
    -- a list takes one of the depth and one of the fuel, and its items have the rest
    obtain ⟨depth, rfl⟩ : ∃ d, depth = d + 1 := ⟨depth - 1, by omega⟩
    obtain ⟨fuel, rfl⟩ : ∃ f, fuel = f + 1 := ⟨fuel - 1, by omega⟩
    have hskip := h.opens.skipBlanks hw rest
    have hitems := h.items_eq limit depth fuel rest (by omega) (by omega) (by omega)
    obtain ⟨c, cs, rfl, -, hclose, -⟩ := h.opens
    rw [List.cons_append, List.cons_append, List.append_assoc, value.eq_4, hskip]
    simp only [List.cons_append] at hitems ⊢
    split
    · next heq => exact absurd (List.cons.inj heq).1 hclose
    · rw [hitems]
      rfl

/-- What opens a text opens a longer one. -/
theorem Opens.append {s : Text} (h : Opens s) (more : Text) : Opens (s ++ more) := by
  obtain ⟨c, cs, rfl, hc⟩ := h
  exact ⟨c, cs ++ more, rfl, hc⟩

/-- A comma or a closing bracket ends an integer. -/
theorem endsInteger_cons {c : CodePoint} (hc : c ∈ ([',', ']', '\x7d'] : Text)) (rest : Text) :
    EndsInteger (c :: rest) := by
  have hall : ∀ c ∈ ([',', ']', '\x7d'] : Text), isDigit c = false ∧ c ≠ '.' ∧ c ≠ 'e' ∧ c ≠ 'E' := by decide
  intro d hd
  have hd : c = d := by simpa using hd
  exact hd ▸ hall c hc

/-- The last item of a list, and its closing bracket. -/
theorem ReadsItems.last {s w : Text} {v : Json} (h : Reads s v) (hw : AllBlank w) :
    ReadsItems (s ++ (w ++ [.char ']'])) [v] := by
  constructor
  · exact h.opens.append _
  · intro limit depth fuel rest hlimit hdepth hfuel
    simp only [List.length_append] at hlimit hdepth hfuel
    obtain ⟨fuel, rfl⟩ : ∃ f, fuel = f + 1 := ⟨fuel - 1, by omega⟩
    have hclose : EndsInteger (w ++ (.char ']' :: rest)) := .blanks hw (endsInteger_cons (by simp) rest)
    have hvalue := h.value_eq limit depth fuel _ (by omega) (by omega) (by omega) hclose
    have hskip : skipBlanks (w ++ (.char ']' :: rest)) = .char ']' :: rest := by
      rw [skipBlanks_append hw, skipBlanks_cons (by decide)]
    have happend : s ++ (w ++ [.char ']']) ++ rest = s ++ (w ++ (.char ']' :: rest)) := by simp
    rw [happend, items, hvalue]
    simp only [hskip]

/-- An item of a list in front of others. -/
theorem ReadsItems.cons {s w s' : Text} {v : Json} {vs : List Json} (h : Reads s v) (hw : AllBlank w)
    (hs : ReadsItems s' vs) : ReadsItems (s ++ (.char ',' :: w ++ s')) (v :: vs) := by
  constructor
  · exact h.opens.append _
  · intro limit depth fuel rest hlimit hdepth hfuel
    simp only [List.length_append, List.length_cons] at hlimit hdepth hfuel
    obtain ⟨fuel, rfl⟩ : ∃ f, fuel = f + 1 := ⟨fuel - 1, by omega⟩
    have hcomma : EndsInteger (.char ',' :: (w ++ (s' ++ rest))) := endsInteger_cons (by simp) _
    have hvalue := h.value_eq limit depth fuel _ (by omega) (by omega) (by omega) hcomma
    have hskip : skipBlanks (.char ',' :: (w ++ (s' ++ rest))) = .char ',' :: (w ++ (s' ++ rest)) :=
      skipBlanks_cons (by decide) _
    have hitems := hs.items_eq limit depth fuel rest (by omega) (by omega) (by omega)
    have happend : s ++ (.char ',' :: w ++ s') ++ rest = s ++ (.char ',' :: (w ++ (s' ++ rest))) := by simp
    rw [happend, items, hvalue]
    simp only [hskip, hs.opens.skipBlanks hw, hitems]
    rfl

/-- What an entry of an object is read from, blanks between the colon and the value included. -/
def entry (body w s : Text) : Text := literal body ++ (.char ':' :: w ++ s)

/-- An entry starts with its key. -/
theorem opens_entry (body w s : Text) : Opens (entry body w s) :=
  ⟨_, _, rfl, by decide, by decide, by decide⟩

/-- An entry is read as its key and its value, and the reading goes on behind it. -/
theorem members_entry {body w s key : Text} {v : Json} (hkey : Spells body key) (hw : AllBlank w) (h : Reads s v)
    {limit depth fuel : Nat} {rest : Text} (hlimit : s.length ≤ limit) (hdepth : s.length ≤ depth)
    (hfuel : 2 * s.length ≤ fuel) (hrest : EndsInteger rest) :
    members limit depth (fuel + 1) (entry body w s ++ rest) =
      match skipBlanks rest with
      | .char '\x7d' :: rest => .ok ([(key, v)], rest)
      | .char ',' :: rest => (members limit depth fuel (skipBlanks rest)).map fun (vs, rest) => ((key, v) :: vs, rest)
      | rest => .error ⟨.expectedComma, rest.length⟩ := by
  have hname := name_literal hkey (.char ':' :: (w ++ (s ++ rest)))
  have hcolon : skipBlanks (.char ':' :: (w ++ (s ++ rest))) = .char ':' :: (w ++ (s ++ rest)) :=
    skipBlanks_cons (by decide) _
  have hvalue := h.value_eq limit depth fuel rest hlimit hdepth hfuel hrest
  have happend : entry body w s ++ rest = literal body ++ (.char ':' :: (w ++ (s ++ rest))) := by simp [entry]
  rw [happend, members, hname]
  simp only [hcolon, h.opens.skipBlanks hw]
  generalize value limit depth fuel (s ++ rest) = r at hvalue ⊢
  subst hvalue
  rfl

/-- The last entry of an object, and its closing brace. -/
theorem ReadsMembers.last {body w s w' key : Text} {v : Json} (hkey : Spells body key) (hw : AllBlank w)
    (h : Reads s v) (hw' : AllBlank w') : ReadsMembers (entry body w s ++ (w' ++ [.char '\x7d'])) [(key, v)] := by
  constructor
  · exact (opens_entry body w s).append _
  · intro limit depth fuel rest hlimit hdepth hfuel
    simp only [entry, List.length_append, List.length_cons] at hlimit hdepth hfuel
    obtain ⟨fuel, rfl⟩ : ∃ f, fuel = f + 1 := ⟨fuel - 1, by omega⟩
    have hclose : EndsInteger (w' ++ (.char '\x7d' :: rest)) := .blanks hw' (endsInteger_cons (by simp) rest)
    have hskip : skipBlanks (w' ++ (.char '\x7d' :: rest)) = .char '\x7d' :: rest := by
      rw [skipBlanks_append hw', skipBlanks_cons (by decide)]
    have happend : entry body w s ++ (w' ++ [.char '\x7d']) ++ rest =
        entry body w s ++ (w' ++ (.char '\x7d' :: rest)) := by simp
    rw [happend, members_entry hkey hw h (by omega) (by omega) (by omega) hclose, hskip]
    rfl

/-- An entry of an object in front of others. -/
theorem ReadsMembers.cons {body w s w' s' key : Text} {v : Json} {entries : List (Text × Json)}
    (hkey : Spells body key) (hw : AllBlank w) (h : Reads s v) (hw' : AllBlank w') (hs : ReadsMembers s' entries) :
    ReadsMembers (entry body w s ++ (.char ',' :: w' ++ s')) ((key, v) :: entries) := by
  constructor
  · exact (opens_entry body w s).append _
  · intro limit depth fuel rest hlimit hdepth hfuel
    simp only [entry, List.length_append, List.length_cons] at hlimit hdepth hfuel
    obtain ⟨fuel, rfl⟩ : ∃ f, fuel = f + 1 := ⟨fuel - 1, by omega⟩
    have hcomma : EndsInteger (.char ',' :: (w' ++ (s' ++ rest))) := endsInteger_cons (by simp) _
    have hskip : skipBlanks (.char ',' :: (w' ++ (s' ++ rest))) = .char ',' :: (w' ++ (s' ++ rest)) :=
      skipBlanks_cons (by decide) _
    have hmembers := hs.members_eq limit depth fuel rest (by omega) (by omega) (by omega)
    have happend : entry body w s ++ (.char ',' :: w' ++ s') ++ rest =
        entry body w s ++ (.char ',' :: (w' ++ (s' ++ rest))) := by simp
    rw [happend, members_entry hkey hw h (by omega) (by omega) (by omega) hcomma, hskip]
    simp only [hs.opens.skipBlanks hw', hmembers]
    rfl

/-- An empty object may have blanks between its braces. -/
theorem reads_empty {w : Text} (hw : AllBlank w) : Reads (.char '\x7b' :: w ++ [.char '\x7d']) (.obj []) := by
  constructor
  · exact ⟨_, _, rfl, by decide, by decide, by decide⟩
  · intro limit depth fuel rest _ hdepth hfuel _
    obtain ⟨depth, rfl⟩ : ∃ d, depth = d + 1 := ⟨depth - 1, by simp at hdepth; omega⟩
    obtain ⟨fuel, rfl⟩ : ∃ f, fuel = f + 1 := ⟨fuel - 1, by simp at hfuel; omega⟩
    have hskip : skipBlanks (w ++ [.char '\x7d'] ++ rest) = .char '\x7d' :: rest := by
      rw [List.append_assoc, skipBlanks_append hw]
      exact skipBlanks_cons (by decide) rest
    rw [List.cons_append, List.cons_append, value.eq_6, hskip]
    rfl

/-- An object is read from its entries; no key may be repeated, for else its entries would be merged. -/
theorem reads_obj {w s : Text} {fields : Fields} (hw : AllBlank w) (h : ReadsMembers s fields)
    (hkeys : (Fields.keys fields).Nodup) : Reads (.char '\x7b' :: w ++ s) (.obj fields) := by
  constructor
  · exact ⟨_, _, rfl, by decide, by decide, by decide⟩
  · intro limit depth fuel rest hlimit hdepth hfuel _
    simp only [List.length_append, List.length_cons] at hlimit hdepth hfuel
    obtain ⟨depth, rfl⟩ : ∃ d, depth = d + 1 := ⟨depth - 1, by omega⟩
    obtain ⟨fuel, rfl⟩ : ∃ f, fuel = f + 1 := ⟨fuel - 1, by omega⟩
    have hskip := h.opens.skipBlanks hw rest
    have hmembers := h.members_eq limit depth fuel rest (by omega) (by omega) (by omega)
    obtain ⟨c, cs, rfl, -, -, hclose⟩ := h.opens
    rw [List.cons_append, List.cons_append, List.append_assoc, value.eq_6, hskip]
    simp only [List.cons_append] at hmembers ⊢
    split
    · next heq => exact absurd (List.cons.inj heq).1 hclose
    · rw [hmembers]
      simp only [Except.map, Fields.ofEntries_eq_self hkeys]

/-! ## Whole texts -/

/-- A text that is read as a value is parsed as it. -/
theorem parse_of_reads {s : Text} {v : Json} (h : Reads s v) : Json.parse s = .ok v := by
  have hskip : skipBlanks s = s := by simpa using h.opens.skipBlanks allBlank_nil []
  have hvalue : value s.length s.length (2 * s.length + 2) s = .ok (v, []) := by
    have hends : EndsInteger [] := by simp [EndsInteger]
    simpa using h.value_eq s.length s.length (2 * s.length + 2) [] (by omega) (by omega) (by omega) hends
  have hdocument : document s.length s.length s = .ok v := by
    unfold document
    rw [hskip, hvalue]
    rfl
  unfold Json.parse parseText
  rw [hdocument]

end Questionnaire.Json.Reader
