import Mathlib.Data.List.Induction
import Questionnaire.Proofs.MarkupReading

/-!
# Text in scripts

In a script without `</` a reader can be in three minds: in the script, in the script after `<!--`, where the end tag
of the script still counts, and after a `<script` besides, where it does not. Which of them can be told from the text
that was read, and so whether an end tag written behind it ends the script.

* `Opened`, `Traps`: texts after which a script is escaped, and doubly escaped.
* `Tracks`: what the state of a reader says of the text that was read; `Tracks.step`, `tracks_run`: it goes on to hold.
* `run_script_braced`: the state after a text that ends in a brace.
-/

namespace Questionnaire.Markup

/-! ## Ends of texts -/

/-- Two texts end alike when their last points are equal and they do before them. -/
theorem concat_suffix_concat {l t : Text} {x c : CodePoint} : l ++ [x] <:+ t ++ [c] ↔ l <:+ t ∧ x = c := by
  rw [List.suffix_concat_iff]
  constructor
  · rintro (h | ⟨t', heq, hsuffix⟩)
    · simp at h
    · obtain ⟨rfl, hx⟩ := List.append_inj' heq rfl
      exact ⟨hsuffix, by simpa using hx⟩
  · rintro ⟨h, rfl⟩
    exact .inr ⟨l, rfl, h⟩

/-- A text ends with one of its parts alone. -/
theorem eq_of_suffixes {x y : CodePoint} {t : Text} (hx : [x] <:+ t) (hy : [y] <:+ t) : x = y := by
  have h := List.suffix_of_suffix_length_le hx hy (by simp)
  simpa using h.eq_of_length (by simp)

/-- What a text ends with, its last part ends with. -/
theorem suffix_of_suffix_append {l a b : Text} (h : l <:+ a ++ b) (hlength : l.length ≤ b.length) : l <:+ b :=
  List.suffix_of_suffix_length_le h (List.suffix_append a b) hlength

/-- Two dashes at the end stand behind the last other code point. -/
theorem dashes_suffix {l d : Text} {x : CodePoint} (hx : x ≠ '-') (h : ("--" : Text) <:+ l ++ x :: d) :
    ("--" : Text) <:+ d := by
  have hdashes : ("--" : Text) = [.char '-'] ++ [.char '-'] := rfl
  have hsplit : l ++ x :: d = (l ++ [x]) ++ d := by simp
  match d with
  | [] =>
    rw [hdashes, concat_suffix_concat] at h
    exact absurd h.2.symm hx
  | [y] =>
    rw [hsplit, hdashes, concat_suffix_concat] at h
    have hlast : ([] : Text) ++ [.char '-'] <:+ l ++ [x] := h.1
    rw [concat_suffix_concat] at hlast
    exact absurd hlast.2.symm hx
  | y :: z :: d =>
    rw [hsplit] at h
    exact suffix_of_suffix_append h (by simp [Text.ofString])

/-! ## Escaped scripts -/

/-- Was `<!--` read in a script, and no `-->` since? The dashes of the one may belong to the other. -/
def Opened (t : Text) : Prop := ∃ a b : Text, t = a ++ "<!--" ++ b ∧ ¬ ("-->" : Text) <:+: "--" ++ b

/-- Was `<script` read in an escaped script? -/
def Awaits (t : Text) : Prop := ∃ u w : Text, t = u ++ .char '<' :: w ∧ Opened u ∧ w.lowerAscii = "script"

/-- Is an end tag after a text in a script not taken for one? So it is if `<script` as the name of a tag was read in an
escaped script, and no `-->` since. -/
def Traps (t : Text) : Prop :=
  ∃ (u d : Text) (c : CodePoint), t = u ++ c :: d ∧ Awaits u ∧ endsName c = true ∧ ¬ ("-->" : Text) <:+: d

/-- A point opens the comment with the last dash of `<!--`, and closes it with the end of `-->`. -/
theorem opened_concat {t : Text} {c : CodePoint} :
    Opened (t ++ [c]) ↔ (Opened t ∧ ¬ (("--" : Text) <:+ t ∧ c = '>')) ∨ (("<!-" : Text) <:+ t ∧ c = '-') := by
  have hclose : ("-->" : Text) = ("--" : Text) ++ [.char '>'] := rfl
  constructor
  · rintro ⟨a, b, heq, hfree⟩
    induction b using List.reverseRecOn with
    | nil =>
      -- the last dash of the mark itself
      have hmark : a ++ ("<!--" : Text) ++ [] = (a ++ ("<!-" : Text)) ++ [CodePoint.char '-'] := by
        simp [Text.ofString]
      rw [hmark] at heq
      obtain ⟨rfl, hc⟩ := List.append_inj' heq rfl
      exact .inr ⟨List.suffix_append a _, by simpa using hc⟩
    | append_singleton b x _ =>
      rw [← List.append_assoc] at heq hfree
      obtain ⟨rfl, hc⟩ := List.append_inj' heq rfl
      obtain rfl : c = x := by simpa using hc
      rw [List.infix_concat_iff, not_or, hclose, concat_suffix_concat] at hfree
      refine .inl ⟨⟨a, b, rfl, hfree.2⟩, ?_⟩
      rintro ⟨hdashes, rfl⟩
      have hsplit : a ++ "<!--" ++ b = (a ++ "<!") ++ ("--" ++ b) := by simp [Text.ofString]
      rw [hsplit] at hdashes
      exact hfree.1 ⟨suffix_of_suffix_append hdashes (by simp [Text.ofString]), rfl⟩
  · rintro (⟨⟨a, b, rfl, hfree⟩, hends⟩ | ⟨⟨a, rfl⟩, rfl⟩)
    · refine ⟨a, b ++ [c], by simp, ?_⟩
      rw [← List.append_assoc, List.infix_concat_iff, not_or, hclose, concat_suffix_concat]
      refine ⟨?_, hfree⟩
      rintro ⟨hdashes, rfl⟩
      have hsplit : a ++ "<!--" ++ b = (a ++ "<!") ++ ("--" ++ b) := by simp [Text.ofString]
      exact hends ⟨hsplit ▸ List.suffix_append_of_suffix hdashes, rfl⟩
    · refine ⟨a, [], by simp [Text.ofString], ?_⟩
      intro h
      have hlength := h.length_le
      simp [Text.ofString] at hlength

/-- Without dashes and `>`, a script stays as it is. -/
theorem opened_append_iff {t x : Text} (hx : ∀ p ∈ x, p ≠ '-' ∧ p ≠ '>') : Opened (t ++ x) ↔ Opened t := by
  induction x using List.reverseRecOn with
  | nil => simp
  | append_singleton x c ih =>
    obtain ⟨hdash, hclose⟩ := hx c (by simp)
    rw [← List.append_assoc, opened_concat, ih fun p hp => hx p (by simp [hp])]
    simp [hdash, hclose]

/-- A point springs the trap where it ends the awaited name, and `-->` lets it go. -/
theorem traps_concat {t : Text} {c : CodePoint} :
    Traps (t ++ [c]) ↔ (Traps t ∧ ¬ (("--" : Text) <:+ t ∧ c = '>')) ∨ (Awaits t ∧ endsName c = true) := by
  have hclose : ("-->" : Text) = ("--" : Text) ++ [.char '>'] := rfl
  constructor
  · rintro ⟨u, d, x, heq, hawaits, hends, hfree⟩
    induction d using List.reverseRecOn with
    | nil =>
      obtain ⟨rfl, hc⟩ := List.append_inj' heq rfl
      obtain rfl : c = x := by simpa using hc
      exact .inr ⟨hawaits, hends⟩
    | append_singleton d y _ =>
      have hassoc : u ++ x :: (d ++ [y]) = (u ++ x :: d) ++ [y] := by simp
      rw [hassoc] at heq
      obtain ⟨rfl, hc⟩ := List.append_inj' heq rfl
      obtain rfl : c = y := by simpa using hc
      rw [List.infix_concat_iff, not_or, hclose, concat_suffix_concat] at hfree
      refine .inl ⟨⟨u, d, x, rfl, hawaits, hends, hfree.2⟩, ?_⟩
      rintro ⟨hsuffix, rfl⟩
      -- what ends the name is no dash, so both dashes stand behind it
      have hname : x ≠ '-' := by
        rintro rfl
        exact absurd hends (by decide)
      exact hfree.1 ⟨dashes_suffix hname hsuffix, rfl⟩
  · rintro (⟨⟨u, d, x, rfl, hawaits, hends, hfree⟩, hnot⟩ | ⟨hawaits, hends⟩)
    · refine ⟨u, d ++ [c], x, by simp, hawaits, hends, ?_⟩
      rw [List.infix_concat_iff, not_or, hclose, concat_suffix_concat]
      refine ⟨?_, hfree⟩
      rintro ⟨hsuffix, rfl⟩
      have hsplit : u ++ x :: d = (u ++ [x]) ++ d := by simp
      exact hnot ⟨hsplit ▸ List.suffix_append_of_suffix hsuffix, rfl⟩
    · refine ⟨t, [], c, rfl, hawaits, hends, ?_⟩
      intro h
      have hlength := h.length_le
      simp [Text.ofString] at hlength

/-! ### Words -/

/-- The letters by their numbers. -/
theorem isAlpha_iff {p : CodePoint} :
    p.isAlpha = true ↔ (97 ≤ p.toNat ∧ p.toNat ≤ 122) ∨ (65 ≤ p.toNat ∧ p.toNat ≤ 90) := by
  simp only [CodePoint.isAlpha, Bool.or_eq_true, Bool.and_eq_true, decide_eq_true_eq]
  rfl

/-- Lower case moves the upper case letters by 32 and nothing else. -/
theorem toNat_lowerAscii (c : Char) : (CodePoint.char c).lowerAscii.toNat =
    if 65 ≤ c.toNat ∧ c.toNat ≤ 90 then c.toNat + 32 else c.toNat := by
  change c.toLower.toNat = _
  unfold Char.toLower
  split
  · next h =>
    have hupper : 65 ≤ c.toNat ∧ c.toNat ≤ 90 := h
    have hsum : (c.val + ('a'.val - 'A'.val)).toNat = c.toNat + 32 := by
      rw [UInt32.toNat_add]
      change (c.toNat + 32) % 2 ^ 32 = _
      omega
    rw [if_pos hupper]
    exact hsum
  · next h =>
    have hupper : ¬ (65 ≤ c.toNat ∧ c.toNat ≤ 90) := h
    rw [if_neg hupper]

/-- A code point and its lower case are both letters, or neither is. -/
theorem isAlpha_lowerAscii (p : CodePoint) : p.lowerAscii.isAlpha = p.isAlpha := by
  cases p with
  | half index => rfl
  | char c =>
    have hself : (CodePoint.char c).toNat = c.toNat := rfl
    rw [Bool.eq_iff_iff, isAlpha_iff, isAlpha_iff, toNat_lowerAscii, hself]
    split <;> omega

/-- A letter is no dash, no mark, and ends no name. -/
theorem ne_of_isAlpha {p : CodePoint} (h : p.isAlpha = true) :
    p ≠ '<' ∧ p ≠ '>' ∧ p ≠ '-' ∧ p ≠ '!' ∧ p ≠ '/' ∧ endsName p = false := by
  have hends : endsName p = false := by
    by_contra hends
    simp only [Bool.not_eq_false, endsName, isSpace, Bool.or_eq_true, decide_eq_true_eq] at hends
    rcases hends with ((((rfl | rfl) | rfl) | rfl) | rfl) | rfl <;> exact absurd h (by decide)
  refine ⟨?_, ?_, ?_, ?_, ?_, hends⟩ <;> rintro rfl <;> exact absurd h (by decide)

/-- What reads `script` in lower case is made of letters. -/
theorem isAlpha_of_lowerAscii_eq {w : Text} (h : w.lowerAscii = "script") : ∀ p ∈ w, p.isAlpha = true := by
  intro p hp
  have hmem : p.lowerAscii ∈ ("script" : Text) := h ▸ List.mem_map.mpr ⟨p, hp, rfl⟩
  have hall : ∀ q ∈ ("script" : Text), q.isAlpha = true := by decide
  rw [← isAlpha_lowerAscii]
  exact hall _ hmem

/-- An escaped script stays so with a word behind a `<`. -/
theorem opened_word_iff {u w : Text} (hw : ∀ p ∈ w, p.isAlpha = true) : Opened (u ++ .char '<' :: w) ↔ Opened u := by
  apply opened_append_iff
  intro p hp
  rcases List.mem_cons.mp hp with rfl | hp
  · exact ⟨by decide, by decide⟩
  · have hne := ne_of_isAlpha (hw p hp)
    exact ⟨hne.2.2.1, hne.2.1⟩

/-- What waits for the end of a name ends in a word behind a `<`, and the script is escaped. -/
theorem Awaits.opened {t : Text} (h : Awaits t) : Opened t := by
  obtain ⟨u, w, rfl, hopened, hw⟩ := h
  exact (opened_word_iff (isAlpha_of_lowerAscii_eq hw)).mpr hopened

/-- A text that awaits the end of the name ends in a letter. -/
theorem Awaits.last {t : Text} (h : Awaits t) : ∃ x : CodePoint, x.isAlpha = true ∧ [x] <:+ t := by
  obtain ⟨u, w, rfl, -, hw⟩ := h
  have hletters := isAlpha_of_lowerAscii_eq hw
  rcases List.eq_nil_or_concat w with rfl | ⟨w, x, rfl⟩
  · exact absurd hw (by decide)
  · exact ⟨x, hletters x (by simp), u ++ .char '<' :: w, by simp⟩

/-- The word at the end of a text is one only. -/
theorem word_unique {t w w' : Text} (hw : ∀ p ∈ w, p.isAlpha = true) (hw' : ∀ p ∈ w', p.isAlpha = true)
    (h : .char '<' :: w <:+ t) (h' : .char '<' :: w' <:+ t) : w = w' := by
  have hle : ∀ {w w' : Text}, (∀ p ∈ w', p.isAlpha = true) → .char '<' :: w <:+ t → .char '<' :: w' <:+ t →
      w'.length ≤ w.length := by
    intro w w' hw' h h'
    by_contra hlt
    -- the shorter one, `<` included, would have to stand in the longer one
    have hsuffix : .char '<' :: w <:+ [.char '<'] ++ w' :=
      List.suffix_of_suffix_length_le h h' (by simp; omega)
    have hinside := suffix_of_suffix_append hsuffix (by simp; omega)
    exact (ne_of_isAlpha (hw' _ (hinside.subset (by simp)))).1 rfl
  have hlength : w.length = w'.length := Nat.le_antisymm (hle hw h' h) (hle hw' h h')
  have hsuffix := List.suffix_of_suffix_length_le h h' (by simp [hlength])
  exact (List.cons.inj (hsuffix.eq_of_length (by simp [hlength]))).2

/-! ## What a state says -/

/-- The dashes that a text ends with, two at most. -/
structure EndsInDashes (dashes : Nat) (t : Text) : Prop where
  le_two : dashes ≤ 2
  two : dashes = 2 ↔ ("--" : Text) <:+ t
  one : 1 ≤ dashes ↔ ("-" : Text) <:+ t

/-- The number of dashes at the end is counted up to two, and from none after any other point. -/
theorem EndsInDashes.concat {dashes : Nat} {t : Text} (h : EndsInDashes dashes t) (c : CodePoint) :
    EndsInDashes (Content.dashesAfter dashes c) (t ++ [c]) := by
  have hone : ("-" : Text) = [] ++ [.char '-'] := rfl
  have htwo : ("--" : Text) = ("-" : Text) ++ [.char '-'] := rfl
  have hle := h.le_two
  unfold Content.dashesAfter
  by_cases hc : c = '-'
  · subst hc
    rw [if_pos rfl]
    refine ⟨by omega, ?_, ?_⟩
    · rw [htwo, concat_suffix_concat, ← h.one]
      constructor
      · intro h
        exact ⟨by omega, rfl⟩
      · rintro ⟨h, -⟩
        omega
    · have hpositive : 1 ≤ min (dashes + 1) 2 := by omega
      rw [hone, concat_suffix_concat]
      simp [hpositive]
  · have hne : .char '-' ≠ c := Ne.symm hc
    rw [if_neg hc]
    refine ⟨by omega, ?_, ?_⟩
    · rw [htwo, concat_suffix_concat]
      simp [hne]
    · rw [hone, concat_suffix_concat]
      simp [hne]

/-- A text that ends with something else ends in no dash. -/
theorem endsInDashes_zero {t : Text} {x : CodePoint} (hx : x ≠ '-') (h : [x] <:+ t) : EndsInDashes 0 t := by
  have hone : ¬ ("-" : Text) <:+ t := fun hdash => hx (eq_of_suffixes h hdash)
  have htwo : ¬ ("--" : Text) <:+ t := fun hdashes => hone ((List.suffix_append ("-" : Text) "-").trans hdashes)
  exact ⟨by omega, by simp [htwo], by simp [hone]⟩

/-- What the state of a reader says of the text that it read in a script. -/
inductive Tracks (t : Text) : State → Prop
  | script (hshut : ¬ Opened t) (htraps : ¬ Traps t) (hless : ¬ ("<" : Text) <:+ t) (hmark : ¬ ("<!" : Text) <:+ t)
      (hdash : ¬ ("<!-" : Text) <:+ t) : Tracks t (.content .script)
  | less (hshut : ¬ Opened t) (htraps : ¬ Traps t) (hless : ("<" : Text) <:+ t) : Tracks t (.less .script)
  | mark (hshut : ¬ Opened t) (htraps : ¬ Traps t) (hmark : ("<!" : Text) <:+ t) : Tracks t (.escapeStart false)
  | dash (hshut : ¬ Opened t) (htraps : ¬ Traps t) (hdash : ("<!-" : Text) <:+ t) : Tracks t (.escapeStart true)
  | escaped (dashes : Nat) (hopened : Opened t) (htraps : ¬ Traps t) (hdashes : EndsInDashes dashes t)
      (hword : ∀ w : Text, (∀ p ∈ w, p.isAlpha = true) → ¬ .char '<' :: w <:+ t) :
      Tracks t (.content (.escaped dashes))
  | escapedLess (dashes : Nat) (hopened : Opened t) (htraps : ¬ Traps t) (hless : ("<" : Text) <:+ t) :
      Tracks t (.less (.escaped dashes))
  | word (w : Text) (hopened : Opened t) (htraps : ¬ Traps t) (hne : w ≠ []) (hletters : ∀ p ∈ w, p.isAlpha = true)
      (hword : .char '<' :: w <:+ t) : Tracks t (.doubleStart w.lowerAscii)
  | doubled (dashes : Nat) (htraps : Traps t) (hdashes : EndsInDashes dashes t) :
      Tracks t (.content (.doubled dashes))
  | doubledLess (dashes : Nat) (htraps : Traps t) (hless : ("<" : Text) <:+ t) : Tracks t (.less (.doubled dashes))

/-- The text that was read and not yet reported. -/
def pending : State → Text
  | .less _ => "<"
  | _ => []

/-- Does a step over a code point behind a text go on to track it, and report it with what was held back? -/
structure Continues (t : Text) (c : CodePoint) (held : Text) (r : Step) : Prop where
  tracks : Tracks (t ++ [c]) r.1
  reports : chars held ++ [.char c] = r.2 ++ chars (pending r.1)

/-! ## Steps -/

/-- A trap needs the end of a name that is awaited. -/
theorem not_traps_concat {t : Text} {c : CodePoint} (htraps : ¬ Traps t) (hawaits : ¬ (Awaits t ∧ endsName c = true)) :
    ¬ Traps (t ++ [c]) := by
  rw [traps_concat]
  rintro (h | h)
  · exact htraps h.1
  · exact hawaits h

/-- A reader that stays out of an escaped script. -/
theorem not_opened_concat {t : Text} {c : CodePoint} (hshut : ¬ Opened t) (htraps : ¬ Traps t)
    (hdash : ¬ (("<!-" : Text) <:+ t ∧ c = '-')) : ¬ Opened (t ++ [c]) ∧ ¬ Traps (t ++ [c]) := by
  constructor
  · rw [opened_concat]
    rintro (h | h)
    · exact hshut h.1
    · exact hdash h
  · exact not_traps_concat htraps fun h => hshut h.1.opened

/-- What an end of two or three code points says of the last of them. -/
theorem marks_concat {t : Text} {c : CodePoint} :
    (("<" : Text) <:+ t ++ [c] ↔ c = '<') ∧ (("<!" : Text) <:+ t ++ [c] ↔ ("<" : Text) <:+ t ∧ c = '!') ∧
      (("<!-" : Text) <:+ t ++ [c] ↔ ("<!" : Text) <:+ t ∧ c = '-') := by
  have hone : ("<" : Text) = [] ++ [.char '<'] := rfl
  have htwo : ("<!" : Text) = ("<" : Text) ++ [.char '!'] := rfl
  have hthree : ("<!-" : Text) = ("<!" : Text) ++ [.char '-'] := rfl
  refine ⟨?_, ?_, ?_⟩
  · rw [hone, concat_suffix_concat]
    simp [eq_comm]
  · rw [htwo, concat_suffix_concat]
    simp [eq_comm]
  · rw [hthree, concat_suffix_concat]
    simp [eq_comm]

/-- A code point that is read as one of a script. -/
theorem tracks_stepScript {t : Text} {c : CodePoint} (hshut : ¬ Opened t) (htraps : ¬ Traps t)
    (hless : ¬ (("<" : Text) <:+ t ∧ c = '!')) (hmark : ¬ (("<!" : Text) <:+ t ∧ c = '-'))
    (hdash : ¬ (("<!-" : Text) <:+ t ∧ c = '-')) :
    Continues t c [] (stepContent .script c) := by
  obtain ⟨hshut', htraps'⟩ := not_opened_concat hshut htraps hdash
  unfold stepContent
  by_cases hc : c = '<'
  · subst hc
    exact ⟨.less hshut' htraps' (marks_concat.1.mpr rfl), rfl⟩
  · rw [if_neg hc]
    refine ⟨.script hshut' htraps' ?_ ?_ ?_, rfl⟩
    · rw [marks_concat.1]
      exact hc
    · rw [marks_concat.2.1]
      exact hless
    · rw [marks_concat.2.2]
      exact hmark

/-- A `-->` ends what was escaped. -/
theorem tracks_closed {t : Text} (hdashes : ("--" : Text) <:+ t) : Tracks (t ++ [.char '>']) (.content .script) := by
  have hlast : ("-" : Text) <:+ t := (List.suffix_append ("-" : Text) "-").trans hdashes
  refine .script ?_ ?_ ?_ ?_ ?_
  · rw [opened_concat]
    rintro (h | h)
    · exact h.2 ⟨hdashes, rfl⟩
    · exact absurd h.2 (by decide)
  · rw [traps_concat]
    rintro (h | ⟨h, -⟩)
    · exact h.2 ⟨hdashes, rfl⟩
    · obtain ⟨x, hx, hsuffix⟩ := h.last
      exact (ne_of_isAlpha hx).2.2.1 (eq_of_suffixes hsuffix hlast)
  · rw [marks_concat.1]
    decide
  · rw [marks_concat.2.1]
    exact fun h => absurd h.2 (by decide)
  · rw [marks_concat.2.2]
    exact fun h => absurd h.2 (by decide)

/-- A code point that is read as one of an escaped script. -/
theorem tracks_stepEscaped {t : Text} {c : CodePoint} {dashes : Nat} (hopened : Opened t) (htraps : ¬ Traps t)
    (hawaits : ¬ (Awaits t ∧ endsName c = true)) (hdashes : EndsInDashes dashes t)
    (hword : c.isAlpha = true → ∀ w : Text, (∀ p ∈ w, p.isAlpha = true) → ¬ .char '<' :: w <:+ t) :
    Continues t c [] (stepContent (.escaped dashes) c) := by
  unfold stepContent Content.next
  by_cases hclose : c = '>' ∧ dashes = 2
  · obtain ⟨rfl, hdashes'⟩ := hclose
    exact ⟨by simpa [hdashes'] using tracks_closed (hdashes.two.mp hdashes'), by simp [hdashes', chars, pending]⟩
  have htraps' : ¬ Traps (t ++ [c]) := not_traps_concat htraps hawaits
  have hopened' : Opened (t ++ [c]) := by
    rw [opened_concat]
    refine .inl ⟨hopened, ?_⟩
    rintro ⟨htwo, hc⟩
    exact hclose ⟨hc, hdashes.two.mpr htwo⟩
  -- A `<` may begin a tag; any other point adds to the dashes or breaks them.
  by_cases hc : c = '<'
  · subst hc
    exact ⟨.escapedLess dashes hopened' htraps' (marks_concat.1.mpr rfl), rfl⟩
  · rw [if_neg hc]
    simp only [if_neg hclose]
    refine ⟨.escaped _ hopened' htraps' (hdashes.concat c) ?_, rfl⟩
    intro w hw hsuffix
    rcases List.eq_nil_or_concat w with rfl | ⟨w, x, rfl⟩
    · exact hc (marks_concat.1.mp hsuffix)
    · rw [List.concat_eq_append, ← List.cons_append, concat_suffix_concat] at hsuffix
      obtain ⟨hsuffix, rfl⟩ := hsuffix
      exact hword (hw x (by simp)) w (fun p hp => hw p (by simp [hp])) hsuffix

/-- A code point that is read as one of a doubly escaped script. -/
theorem tracks_stepDoubled {t : Text} {c : CodePoint} {dashes : Nat} (htraps : Traps t)
    (hdashes : EndsInDashes dashes t) :
    Continues t c [] (stepContent (.doubled dashes) c) := by
  unfold stepContent Content.next
  by_cases hclose : c = '>' ∧ dashes = 2
  · obtain ⟨rfl, hdashes'⟩ := hclose
    exact ⟨by simpa [hdashes'] using tracks_closed (hdashes.two.mp hdashes'), by simp [hdashes', chars, pending]⟩
  have htraps' : Traps (t ++ [c]) := by
    rw [traps_concat]
    refine .inl ⟨htraps, ?_⟩
    rintro ⟨htwo, hc⟩
    exact hclose ⟨hc, hdashes.two.mpr htwo⟩
  by_cases hc : c = '<'
  · subst hc
    exact ⟨.doubledLess dashes htraps' (marks_concat.1.mpr rfl), rfl⟩
  · rw [if_neg hc]
    simp only [if_neg hclose]
    exact ⟨.doubled _ htraps' (hdashes.concat c), rfl⟩

/-- A `<` that was held back is reported with what is read as text behind it. -/
theorem tracks_after {t : Text} {c : CodePoint} {r : Step}
    (h : Continues t c [] r) : Continues t c "<" (r.after "<") := by
  refine ⟨h.tracks, ?_⟩
  have hreports : [.char c] = r.2 ++ chars (pending r.1) := h.reports
  rw [hreports]
  exact (List.append_assoc _ _ _).symm

/-- The marks at the end of a text and its last code point. -/
theorem last_of_mark {t : Text} :
    (("<!" : Text) <:+ t → ("!" : Text) <:+ t) ∧ (("<!-" : Text) <:+ t → ("-" : Text) <:+ t) :=
  ⟨fun h => (List.suffix_append ("<" : Text) "!").trans h, fun h => (List.suffix_append ("<!" : Text) "-").trans h⟩

/-- There is no word behind a `<` at the end if the last code point is neither. -/
theorem not_word_concat {t : Text} {c : CodePoint} (hless : c ≠ '<') (hc : c.isAlpha = false) :
    ∀ w : Text, (∀ p ∈ w, p.isAlpha = true) → ¬ .char '<' :: w <:+ t ++ [c] := by
  intro w hw hsuffix
  rcases List.eq_nil_or_concat w with rfl | ⟨w, x, rfl⟩
  · exact hless (marks_concat.1.mp hsuffix)
  · rw [List.concat_eq_append, ← List.cons_append, concat_suffix_concat] at hsuffix
    have hx := hw x (by simp)
    rw [hsuffix.2, hc] at hx
    exact absurd hx (by decide)

/-- A code point that ends the name of a tag, behind a word in an escaped script. -/
theorem tracks_wordEnd {t w : Text} {c : CodePoint} (hopened : Opened t) (htraps : ¬ Traps t)
    (hletters : ∀ p ∈ w, p.isAlpha = true) (hword : .char '<' :: w <:+ t) (hopened' : Opened (t ++ [c]))
    (hends : endsName c = true) : Continues t c [] (step (.doubleStart w.lowerAscii) c) := by
  have hdash : c ≠ '-' := by
    rintro rfl
    exact absurd hends (by decide)
  have hless : c ≠ '<' := by
    rintro rfl
    exact absurd hends (by decide)
  have halpha : c.isAlpha = false := by
    by_contra halpha
    have hnot := (ne_of_isAlpha (Bool.of_not_eq_false halpha)).2.2.2.2.2
    simp [hends] at hnot
  have hzero : EndsInDashes 0 (t ++ [c]) := endsInDashes_zero hdash (List.suffix_append t [c])
  by_cases hscript : w.lowerAscii = "script"
  · -- the word is the one that opens a script within the script
    have hawaits : Awaits t := by
      obtain ⟨u, rfl⟩ := hword
      exact ⟨u, w, rfl, (opened_word_iff hletters).mp hopened, hscript⟩
    have htraps' : Traps (t ++ [c]) := traps_concat.mpr (.inr ⟨hawaits, hends⟩)
    have hstep : step (.doubleStart w.lowerAscii) c = (.content (.doubled 0), [.char c]) := by
      simp [step, hends, hscript]
    rw [hstep]
    exact ⟨.doubled 0 htraps' hzero, rfl⟩
  · -- the word is the only one behind a `<` at the end, so no other is awaited
    have hawaits : ¬ (Awaits t ∧ endsName c = true) := by
      rintro ⟨⟨u, v, rfl, -, hv⟩, -⟩
      have hsame := word_unique hletters (isAlpha_of_lowerAscii_eq hv) hword (List.suffix_append u _)
      exact hscript (hsame ▸ hv)
    have hstep : step (.doubleStart w.lowerAscii) c = (.content (.escaped 0), [.char c]) := by
      simp [step, hends, hscript]
    rw [hstep]
    exact ⟨.escaped 0 hopened' (not_traps_concat htraps hawaits) hzero (not_word_concat hless halpha), rfl⟩

/-- A code point behind a word in an escaped script. -/
theorem tracks_stepWord {t w : Text} {c : CodePoint} (hopened : Opened t) (htraps : ¬ Traps t) (hne : w ≠ [])
    (hletters : ∀ p ∈ w, p.isAlpha = true) (hword : .char '<' :: w <:+ t) :
    Continues t c [] (step (.doubleStart w.lowerAscii) c) := by
  obtain ⟨x, hx, hlast⟩ : ∃ x : CodePoint, x.isAlpha = true ∧ [x] <:+ t := by
    rcases List.eq_nil_or_concat w with rfl | ⟨w, x, rfl⟩
    · exact absurd rfl hne
    · have hsuffix : [x] <:+ .char '<' :: w.concat x := ⟨.char '<' :: w, by simp⟩
      exact ⟨x, hletters x (by simp), hsuffix.trans hword⟩
  have hdashes : EndsInDashes 0 t := endsInDashes_zero (ne_of_isAlpha hx).2.2.1 hlast
  -- after a letter there are no two dashes that this could close
  have hopened' : Opened (t ++ [c]) := by
    refine opened_concat.mpr (.inl ⟨hopened, ?_⟩)
    rintro ⟨htwo, -⟩
    exact absurd (hdashes.two.mpr htwo) (by decide)
  by_cases hends : endsName c = true
  · exact tracks_wordEnd hopened htraps hletters hword hopened' hends
  have hawaits : ¬ (Awaits t ∧ endsName c = true) := fun h => hends h.2
  by_cases halpha : c.isAlpha = true
  · have hstep : step (.doubleStart w.lowerAscii) c = (.doubleStart (Text.lowerAscii (w ++ [c])), [.char c]) := by
      simp [step, hends, halpha, Text.lowerAscii]
    have hletters' : ∀ p ∈ w ++ [c], p.isAlpha = true := by
      intro p hp
      rcases List.mem_append.mp hp with hp | hp
      · exact hletters p hp
      · exact List.mem_singleton.mp hp ▸ halpha
    rw [hstep]
    refine ⟨.word (w ++ [c]) hopened' (not_traps_concat htraps hawaits) (by simp) hletters' ?_, rfl⟩
    rw [← List.cons_append, concat_suffix_concat]
    exact ⟨hword, rfl⟩
  · have hstep : step (.doubleStart w.lowerAscii) c = stepContent (.escaped 0) c := by
      simp [step, hends, halpha]
    rw [hstep]
    exact tracks_stepEscaped hopened htraps hawaits hdashes fun h => absurd h halpha

/-- A code point behind `<` in a script. -/
theorem tracks_stepLess {t : Text} {c : CodePoint} (hshut : ¬ Opened t) (htraps : ¬ Traps t)
    (hless : ("<" : Text) <:+ t) (hslash : c ≠ '/') : Continues t c "<" (step (.less .script) c) := by
  have hmark : ¬ ("<!" : Text) <:+ t := fun h => absurd (eq_of_suffixes hless (last_of_mark.1 h)) (by decide)
  have hdash : ¬ ("<!-" : Text) <:+ t := fun h => absurd (eq_of_suffixes hless (last_of_mark.2 h)) (by decide)
  by_cases hc : c = '!'
  · subst hc
    obtain ⟨hshut', htraps'⟩ := not_opened_concat hshut htraps fun h => hdash h.1
    exact ⟨.mark hshut' htraps' (marks_concat.2.1.mpr ⟨hless, rfl⟩), rfl⟩
  · have hstep : step (.less .script) c = (stepContent .script c).after "<" := by
      simp [step, stepLess, hslash, hc, Content.broken]
    rw [hstep]
    exact tracks_after (tracks_stepScript hshut htraps (fun h => hc h.2) (fun h => hmark h.1) (fun h => hdash h.1))

/-- A code point behind `<!` in a script. -/
theorem tracks_stepMark {t : Text} {c : CodePoint} (hshut : ¬ Opened t) (htraps : ¬ Traps t)
    (hmark : ("<!" : Text) <:+ t) : Continues t c [] (step (.escapeStart false) c) := by
  have hlast := last_of_mark.1 hmark
  have hless : ¬ ("<" : Text) <:+ t := fun h => absurd (eq_of_suffixes h hlast) (by decide)
  have hdash : ¬ ("<!-" : Text) <:+ t := fun h => absurd (eq_of_suffixes hlast (last_of_mark.2 h)) (by decide)
  by_cases hc : c = '-'
  · subst hc
    obtain ⟨hshut', htraps'⟩ := not_opened_concat hshut htraps fun h => hdash h.1
    exact ⟨.dash hshut' htraps' (marks_concat.2.2.mpr ⟨hmark, rfl⟩), rfl⟩
  · have hstep : step (.escapeStart false) c = stepContent .script c := by simp [step, hc]
    rw [hstep]
    exact tracks_stepScript hshut htraps (fun h => hless h.1) (fun h => hc h.2) (fun h => hc h.2)

/-- A code point behind `<!-` in a script. -/
theorem tracks_stepDash {t : Text} {c : CodePoint} (hshut : ¬ Opened t) (htraps : ¬ Traps t)
    (hdash : ("<!-" : Text) <:+ t) : Continues t c [] (step (.escapeStart true) c) := by
  have hlast := last_of_mark.2 hdash
  have hless : ¬ ("<" : Text) <:+ t := fun h => absurd (eq_of_suffixes h hlast) (by decide)
  by_cases hc : c = '-'
  · subst hc
    have hopened : Opened (t ++ [.char '-']) := opened_concat.mpr (.inr ⟨hdash, rfl⟩)
    have hdashes : EndsInDashes 2 (t ++ [.char '-']) := by
      have htwo : ¬ ("--" : Text) <:+ t := fun h =>
        absurd (List.suffix_of_suffix_length_le h hdash (by decide)) (by decide)
      have hone : EndsInDashes 1 t := ⟨by decide, by simp [htwo], by simp [hlast]⟩
      exact hone.concat '-'
    have htraps' : ¬ Traps (t ++ [.char '-']) := not_traps_concat htraps fun h => hshut h.1.opened
    exact ⟨.escaped 2 hopened htraps' hdashes (not_word_concat (by decide) (by decide)), rfl⟩
  · have hstep : step (.escapeStart true) c = stepContent .script c := by simp [step, hc]
    rw [hstep]
    exact tracks_stepScript hshut htraps (fun h => hless h.1) (fun h => hc h.2) (fun h => hc h.2)

/-- A code point behind `<` in an escaped script. -/
theorem tracks_stepEscapedLess {t : Text} {c : CodePoint} (dashes : Nat) (hopened : Opened t) (htraps : ¬ Traps t)
    (hless : ("<" : Text) <:+ t) (hslash : c ≠ '/') : Continues t c "<" (step (.less (.escaped dashes)) c) := by
  have hawaits : ¬ (Awaits t ∧ endsName c = true) := by
    rintro ⟨h, -⟩
    obtain ⟨x, hx, hlast⟩ := h.last
    exact (ne_of_isAlpha hx).1 (eq_of_suffixes hlast hless)
  -- A letter begins the word that may be `script`; anything else is read once more, as in the escaped script.
  by_cases hc : c.isAlpha = true
  · have hstep : step (.less (.escaped dashes)) c = (.doubleStart [c.lowerAscii], chars ['<', c]) := by
      simp [step, stepLess, hslash, hc]
    have hletter := ne_of_isAlpha hc
    have hopened' : Opened (t ++ [c]) :=
      (opened_append_iff (by simpa using ⟨hletter.2.2.1, hletter.2.1⟩)).mpr hopened
    have hword : .char '<' :: [c] <:+ t ++ [c] := (concat_suffix_concat (l := [.char '<'])).mpr ⟨hless, rfl⟩
    rw [hstep]
    exact ⟨.word [c] hopened' (not_traps_concat htraps hawaits) (by simp) (by simpa using hc) hword, rfl⟩
  · have hstep : step (.less (.escaped dashes)) c = (stepContent (.escaped 0) c).after "<" := by
      simp [step, stepLess, hslash, hc, Content.broken]
    rw [hstep]
    exact tracks_after (tracks_stepEscaped hopened htraps hawaits (endsInDashes_zero (by decide) hless)
      fun h => absurd h hc)

/-- A code point behind `<` in a doubly escaped script. -/
theorem tracks_stepDoubledLess {t : Text} {c : CodePoint} (dashes : Nat) (htraps : Traps t)
    (hless : ("<" : Text) <:+ t) (hslash : c ≠ '/') : Continues t c "<" (step (.less (.doubled dashes)) c) := by
  have hstep : step (.less (.doubled dashes)) c = (stepContent (.doubled 0) c).after "<" := by
    simp [step, stepLess, hslash, Content.broken]
  rw [hstep]
  exact tracks_after (tracks_stepDoubled htraps (endsInDashes_zero (by decide) hless))

/-- What the state says of the text is kept by every step but one into an end tag. -/
theorem Tracks.step {t : Text} {s : State} (h : Tracks t s) {c : CodePoint} (hfree : ¬ ("</" : Text) <:+ t ++ [c]) :
    Continues t c (pending s) (step s c) := by
  -- behind a `<` there is no slash
  have hslash : ("<" : Text) <:+ t → c ≠ '/' := by
    rintro hless rfl
    have hend : ("</" : Text) = ("<" : Text) ++ [.char '/'] := rfl
    rw [hend, concat_suffix_concat] at hfree
    exact hfree ⟨hless, rfl⟩
  cases h with
  | script hshut htraps hless hmark hdash =>
    exact tracks_stepScript hshut htraps (fun h => hless h.1) (fun h => hmark h.1) (fun h => hdash h.1)
  | less hshut htraps hless => exact tracks_stepLess hshut htraps hless (hslash hless)
  | mark hshut htraps hmark => exact tracks_stepMark hshut htraps hmark
  | dash hshut htraps hdash => exact tracks_stepDash hshut htraps hdash
  | escaped dashes hopened htraps hdashes hword =>
    have hawaits : ¬ (Awaits t ∧ endsName c = true) := by
      rintro ⟨⟨u, w, rfl, -, hw⟩, -⟩
      exact hword w (isAlpha_of_lowerAscii_eq hw) (List.suffix_append u _)
    exact tracks_stepEscaped hopened htraps hawaits hdashes fun _ => hword
  | escapedLess dashes hopened htraps hless =>
    exact tracks_stepEscapedLess dashes hopened htraps hless (hslash hless)
  | word w hopened htraps hne hletters hword => exact tracks_stepWord hopened htraps hne hletters hword
  | doubled dashes htraps hdashes => exact tracks_stepDoubled htraps hdashes
  | doubledLess dashes htraps hless => exact tracks_stepDoubledLess dashes htraps hless (hslash hless)

/-! ## Runs -/

/-- A run over a text is one over all but its last code point, and a step. -/
theorem run_concat (s : State) (t : Text) (c : CodePoint) :
    run s (t ++ [c]) = ((step (run s t).1 c).1, (run s t).2 ++ (step (run s t).1 c).2) := by
  have hlast : run (run s t).1 [c] = step (run s t).1 c := by simp [run]
  exact run_append (Prod.ext rfl rfl) hlast

/-- In a script without `</` the state says what it says, and what was read is reported or held back. -/
theorem tracks_run {t : Text} (hfree : ¬ ("</" : Text) <:+: t) :
    Tracks t (run (.content .script) t).1 ∧
      chars t = (run (.content .script) t).2 ++ chars (pending (run (.content .script) t).1) := by
  -- from the right, since what the state says is about the end of the text
  induction t using List.reverseRecOn with
  | nil =>
    have hshut : ¬ Opened [] := by
      rintro ⟨a, b, heq, -⟩
      simp [Text.ofString] at heq
    have htraps : ¬ Traps [] := by
      rintro ⟨u, d, c, heq, -⟩
      simp at heq
    exact ⟨.script hshut htraps (by decide) (by decide) (by decide), rfl⟩
  | append_singleton t c ih =>
    rw [List.infix_concat_iff, not_or] at hfree
    obtain ⟨htracks, hreport⟩ := ih hfree.2
    obtain ⟨htracks', hreport'⟩ := htracks.step hfree.1
    rw [run_concat]
    refine ⟨htracks', ?_⟩
    rw [chars_append, hreport, List.append_assoc, List.append_assoc, ← hreport']
    rfl

/-- After a text without `</` that ends in a brace, a reader of a script is in the script, escaped or not, or doubly
escaped, and it is the last of these if the text traps. -/
theorem run_script_braced {t : Text} (hfree : ¬ ("</" : Text) <:+: t ++ [.char '\x7d']) :
    ∃ c : Content, run (.content .script) (t ++ [.char '\x7d']) = (.content c, chars (t ++ [.char '\x7d'])) ∧
      (Traps (t ++ [.char '\x7d']) ∧ c = .doubled 0 ∨
        ¬ Traps (t ++ [.char '\x7d']) ∧ (c = .script ∨ c = .escaped 0)) := by
  obtain ⟨htracks, hreport⟩ := tracks_run hfree
  -- the text ends in a brace, which excludes the states that wait for what follows a `<` or a dash
  have hlast : ("\x7d" : Text) <:+ t ++ [.char '\x7d'] := List.suffix_append t _
  have hnoLess : ¬ ("<" : Text) <:+ t ++ [.char '\x7d'] := fun h => absurd (eq_of_suffixes h hlast) (by decide)
  have hzero : ∀ dashes, EndsInDashes dashes (t ++ [.char '\x7d']) → dashes = 0 := by
    intro dashes h
    have hone : ¬ ("-" : Text) <:+ t ++ [.char '\x7d'] := fun h => absurd (eq_of_suffixes h hlast) (by decide)
    rw [← h.one] at hone
    omega
  generalize hrun : run (.content .script) (t ++ [.char '\x7d']) = r at htracks hreport
  obtain ⟨s, es⟩ := r
  have hes : pending s = [] → es = chars (t ++ [.char '\x7d']) := by
    intro hnone
    rw [hreport, hnone]
    simp [chars]
  cases htracks with
  | script hshut htraps _ _ _ => exact ⟨.script, Prod.ext rfl (hes rfl), .inr ⟨htraps, .inl rfl⟩⟩
  | less _ _ h => exact absurd h hnoLess
  | mark _ _ h => exact absurd (eq_of_suffixes (last_of_mark.1 h) hlast) (by decide)
  | dash _ _ h => exact absurd (eq_of_suffixes (last_of_mark.2 h) hlast) (by decide)
  | escaped dashes _ htraps hdashes _ =>
    obtain rfl := hzero dashes hdashes
    exact ⟨.escaped 0, Prod.ext rfl (hes rfl), .inr ⟨htraps, .inr rfl⟩⟩
  | escapedLess _ _ _ h => exact absurd h hnoLess
  | word w _ _ hne hletters hword =>
    exact absurd hword (not_word_concat (by decide) (by decide) w hletters)
  | doubled dashes htraps hdashes =>
    obtain rfl := hzero dashes hdashes
    exact ⟨.doubled 0, Prod.ext rfl (hes rfl), .inl ⟨htraps, rfl⟩⟩
  | doubledLess _ _ h => exact absurd h hnoLess

end Questionnaire.Markup
