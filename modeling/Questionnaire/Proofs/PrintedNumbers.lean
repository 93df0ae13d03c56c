import Questionnaire.Proofs.AnswerTexts
import Questionnaire.Proofs.ChosenDecimals
import Questionnaire.Proofs.JsonReading
import Questionnaire.Proofs.Names

/-!
# Numbers as a browser prints them

A browser knows doubles alone. It prints the digits of the decimal that is chosen for a double, with the point or an
exponent where the size of the number asks for it. An integer in an answer is compared by all its digits below `10²¹`
and by the text of its nearest double from there on, and so has the printed text exactly if these are the same digits.

* `Decimal.printed`, `Binary64.Prints`: the rule of the browser; `Binary64.prints_iff`: the text of a double follows
  it, and nothing else does.
* `Json.integerText_eq_iff`: which integers have the printed text; `Binary64.ShowsInteger` says it by values.
* `Json.Place`: a place in a value; the text of a list or object has the text of what is there inside.
* `integer_text_is_printed_iff`: the same for integers by themselves and at all places.
-/

namespace Questionnaire

open Binary64 (Regular Rounds magnitude)

/-! ## How a browser prints a number -/

namespace Decimal

/-- The text of a positive decimal as a browser prints it. With `n` digits before the point, it is a whole number up to
`n = 21`, has its point inside the digits, or follows on a zero and at most five more; otherwise it has an exponent. -/
def printed (d : Decimal) : List Char :=
  let digits := digitsOf d.digits
  let n : Int := d.size + d.exponent
  if d.size ≤ n ∧ n ≤ 21 then digits ++ List.replicate (n - d.size).toNat '0'
  else if 0 < n ∧ n ≤ 21 then digits.take n.toNat ++ '.' :: digits.drop n.toNat
  else if -6 < n ∧ n ≤ 0 then '0' :: '.' :: (List.replicate (-n).toNat '0' ++ digits)
  else
    let fraction := if d.size = 1 then [] else '.' :: digits.drop 1
    digits.take 1 ++ fraction ++ 'e' :: (if 0 < n - 1 then '+' else '-') :: digitsOf (n - 1).natAbs

end Decimal

namespace Binary64

/-- A double without its sign. -/
def abs : Binary64 → Binary64
  | .nan => .nan
  | .infinite _ => .infinite false
  | .finite _ m s => .finite false m s

/-- What is in front of the digits. -/
def signText (negative : Bool) : String := if negative then "-" else ""

/-- Is a text the one that a browser prints for a double: that of the decimal which is chosen for it? -/
inductive Prints : Binary64 → String → Prop
  | nan : Prints .nan "NaN"
  | infinite (negative : Bool) : Prints (.infinite negative) (signText negative ++ "Infinity")
  | zero (negative : Bool) (s : Nat) : Prints (.finite negative 0 s) "0"
  | nonzero {negative : Bool} {m s : Nat} {d : Decimal} (hm : 0 < m) (hd : d.ChosenFor (.finite false m s)) :
    Prints (.finite negative m s) (signText negative ++ String.ofList d.printed)

end Binary64

namespace Decimal

variable {d : Decimal}

/-- A number is told by its digits. -/
theorem digitsOf_injective : Function.Injective digitsOf := by
  intro a b h
  rw [← Nat.ofDigitChars_ten_toDigits (n := a), ← Nat.ofDigitChars_ten_toDigits (n := b)]
  exact congrArg (Nat.ofDigitChars 10 · 0) h

/-- Zeros behind the digits multiply by powers of ten. -/
theorem digitsOf_mul_pow {n : Nat} (hn : 0 < n) (k : Nat) :
    digitsOf (n * 10 ^ k) = digitsOf n ++ List.replicate k '0' := by
  induction k with
  | zero => simp
  | succ k ih =>
    have hpos : 0 < n * 10 ^ k := Nat.mul_pos hn (ten_pow_pos k)
    have happend := Nat.toDigits_append_toDigits (b := 10) (d := 0) (by decide) hpos (by decide)
    have hnext : n * 10 ^ (k + 1) = 10 * (n * 10 ^ k) + 0 := by ring
    rw [hnext, digitsOf, ← happend, ← digitsOf, ih, List.replicate_succ', ← List.append_assoc]
    rfl

/-- Digits hold no sign of an exponent. -/
theorem not_mem_digitsOf (n : Nat) : 'e' ∉ digitsOf n := by
  intro hmem
  exact absurd (Nat.isDigit_of_mem_toDigits (by decide) (by decide) hmem) (by decide)

/-- A whole number of few digits is printed with zeros behind them. -/
theorem printed_of_whole (hexponent : 0 ≤ d.exponent) (hsmall : d.size + d.exponent ≤ 21) :
    d.printed = digitsOf d.digits ++ List.replicate d.exponent.toNat '0' := by
  have hplaces : (d.size + d.exponent - d.size : Int) = d.exponent := by omega
  simp only [printed]
  rw [if_pos (by omega), hplaces]

/-- A whole number from `10²¹` on is printed with an exponent. -/
theorem mem_printed (hlarge : 21 < (d.size + d.exponent : Int)) : 'e' ∈ d.printed := by
  simp only [printed]
  rw [if_neg (by omega), if_neg (by omega), if_neg (by omega)]
  simp

/-- A whole decimal is printed as the digits of a number exactly if it is that number, and below `10²¹`. -/
theorem printed_eq_digitsOf_iff (hexponent : 0 ≤ d.exponent) (hdigits : 0 < d.digits) {n : Nat} :
    d.printed = digitsOf n ↔ d.value = n ∧ n < 10 ^ 21 := by
  have hvalue := value_of_nonneg hexponent
  have hbound : 10 ^ ((21 : Nat) : Int) ≤ d.value ↔ _ := pow_le_value_iff hdigits
  rw [ten_zpow_natCast, hvalue, Nat.cast_le] at hbound
  rw [hvalue, Nat.cast_inj]
  by_cases hsmall : (d.size + d.exponent : Int) ≤ 21
  · rw [printed_of_whole hexponent hsmall, ← digitsOf_mul_pow hdigits, digitsOf_injective.eq_iff]
    omega
  · have hnot : d.printed ≠ digitsOf n := fun heq => not_mem_digitsOf n (heq ▸ mem_printed (by omega))
    simp only [hnot, false_iff]
    omega

/-- The layout of a browser is this one. -/
theorem render_browser (d : Decimal) : d.render .browser = String.ofList d.printed := by
  have hsize : (digitsOf d.digits).length = d.size := rfl
  have hfirst : (d.size - 1 + d.exponent : Int) = d.size + d.exponent - 1 := by omega
  have hpos := d.size_pos
  simp only [render, Layout.browser, hsize, hfirst, printed]
  generalize (d.size + d.exponent : Int) = n at *
  by_cases hfar : n - 1 < -6 ∨ 20 < n - 1
  · -- the first digit, the others behind a point, and an exponent
    have hlong : ¬ ((d.size : Int) ≤ n ∧ n ≤ 21) := by omega
    have hpoint : ¬ (0 < n ∧ n ≤ 21) := by omega
    have hzeros : ¬ (-6 < n ∧ n ≤ 0) := by omega
    have hpadding : 1 - (digitsOf (n - 1).natAbs).length = 0 := by
      have := length_digitsOf_pos (n - 1).natAbs
      omega
    have hsign : (if n - 1 < 0 then '-' else '+') = if 0 < n - 1 then '+' else '-' := by
      split_ifs <;> first | rfl | omega
    rw [if_pos hfar, if_neg hlong, if_neg hpoint, if_neg hzeros, hpadding, hsign]
    cases hdigits : digitsOf d.digits with
    | nil =>
      rw [hdigits] at hsize
      exact absurd hsize.symm hpos.ne'
    | cons c rest =>
      rw [hdigits] at hsize
      cases rest <;> simp [← hsize]
  · rw [if_neg hfar]
    by_cases hwhole : 0 ≤ d.exponent
    · -- the digits with zeros behind them, and no point
      have hlong : (d.size : Int) ≤ n ∧ n ≤ 21 := by omega
      have hcount : (n - d.size).toNat = d.exponent.toNat := by omega
      rw [if_pos hwhole, if_pos hlong, hcount, String.append_empty]
    · have hlong : ¬ ((d.size : Int) ≤ n ∧ n ≤ 21) := by omega
      rw [if_neg hwhole, if_neg hlong]
      -- the point stands among the digits, or zeros between it and them
      by_cases hinside : 0 ≤ n - 1
      · have hpoint : 0 < n ∧ n ≤ 21 := by omega
        rw [if_pos hinside, if_pos hpoint, Int.sub_add_cancel]
      · have hpoint : ¬ (0 < n ∧ n ≤ 21) := by omega
        have hzeros : -6 < n ∧ n ≤ 0 := by omega
        have hcount : (-(n - 1) - 1).toNat = (-n).toNat := by omega
        rw [if_neg hinside, if_neg hpoint, if_pos hzeros, hcount]

end Decimal

namespace Binary64

variable {x : Binary64} {t : String}

/-- A double is printed with its sign and its shortest digits. -/
theorem text_browser {negative : Bool} {m s : Nat} (hm : 0 < m) :
    (Binary64.finite negative m s).text .browser =
      signText negative ++ String.ofList (Decimal.shortest m s).printed := by
  cases m with
  | zero => cases hm
  | succ m =>
    rw [← Decimal.render_browser]
    rfl

/-- Zero is printed without a sign. -/
theorem text_browser_zero (negative : Bool) (s : Nat) : (Binary64.finite negative 0 s).text .browser = "0" := by
  cases negative <;> rfl

/-- **The text in the layout of a browser is the one that it prints**, and no other. -/
theorem prints_iff (hproper : x.Proper) : x.Prints t ↔ t = x.text .browser := by
  constructor
  · intro h
    cases h with
    | nan => rfl
    | infinite negative => rfl
    | zero negative s => exact (text_browser_zero negative s).symm
    | @nonzero negative m s d hm hd =>
      rw [text_browser hm, hd.eq hm hproper (Decimal.shortest_chosenFor hm hproper)]
  · rintro rfl
    cases x with
    | nan => exact .nan
    | infinite negative => exact .infinite negative
    | finite negative m s =>
      rcases Nat.eq_zero_or_pos m with rfl | hm
      · rw [text_browser_zero]
        exact .zero negative s
      · rw [text_browser hm]
        exact .nonzero hm (Decimal.shortest_chosenFor hm hproper)

/-! ## Integers -/

/-- Does an integer have the text of its nearest double: is it large, or the number that is printed for the double? -/
def ShowsInteger (x : Binary64) (n : Int) : Prop :=
  10 ^ 21 ≤ n.natAbs ∨ n = 0 ∨ ∃ d : Decimal, d.ChosenFor x.abs ∧ d.value = n.natAbs

/-- Only zero rounds to zero. -/
theorem significand_eq_zero_iff {m s n : Nat} (h : Rounds m s n) (hregular : Regular m s) : m = 0 ↔ n = 0 := by
  constructor
  · rintro rfl
    have hs : s ≤ 1074 := by
      have := hregular.leading
      omega
    have hzero := h.eq_of_le hs
    rw [magnitude_zero] at hzero
    exact_mod_cast hzero.symm
  · rintro rfl
    by_contra hne
    exact lt_irrefl _ (h.pos (Nat.pos_of_ne_zero hne))

/-- A whole number from `10²¹` on rounds to a double from there on, as `10²¹` is one itself. -/
theorem Rounds.ten_pow_le {m s n : Nat} (h : Rounds m s n) (hregular : Regular m s) (hn : 10 ^ 21 ≤ n) :
    (10 ^ 21 : Nat) ≤ magnitude m s := by
  have hten : Regular (5 ^ 21 * 2 ^ 4) 1091 := ⟨by decide, .inr (by decide), by decide⟩
  have hexact : magnitude (5 ^ 21 * 2 ^ 4) 1091 = (10 ^ 21 : Nat) := magnitude_of_ge _ (by decide)
  have hself : Rounds (5 ^ 21 * 2 ^ 4) 1091 (10 ^ 21 : Nat) := hexact ▸ rounds_magnitude _ _
  by_contra hlt
  have hrounds := (rounds_magnitude m s).between h (not_le.mp hlt).le (Nat.cast_le.mpr hn)
  obtain ⟨rfl, rfl⟩ := hrounds.unique hself hregular hten
  exact hlt hexact.ge

end Binary64

namespace Json

/-- A sign stands in front of what is printed. -/
theorem ofString_signText (negative : Bool) (l : List Char) :
    Text.ofString (Binary64.signText negative ++ String.ofList l) =
      (if negative then [CodePoint.char '-'] else []) ++ l.map .char := by
  cases negative <;> simp [Text.ofString, Binary64.signText]

/-- An integer below `10²¹` has the text of its nearest double exactly if it is the number that is printed for it. -/
theorem intText_eq_text_iff {n : Int} {x : Binary64} (hx : Binary64.ofInt? n = some x) (hsmall : n.natAbs < 10 ^ 21) :
    intText n = Text.ofString (x.text .browser) ↔ x.ShowsInteger n := by
  obtain ⟨m, s, rfl, hregular, hrounds⟩ := Binary64.rounds_of_ofInt? hx
  have hzero := Binary64.significand_eq_zero_iff hrounds hregular
  rcases Nat.eq_zero_or_pos m with rfl | hm
  · obtain rfl : n = 0 := Int.natAbs_eq_zero.mp (hzero.mp rfl)
    exact iff_of_true rfl (.inr (.inl rfl))
  · have hchosen := Decimal.shortest_chosenFor hm hregular
    have hdigits := Decimal.digits_pos_of_rounds hm (hchosen.rounds hregular)
    -- the chosen decimal is whole, so it is printed by its digits with zeros behind them
    have hexponent := (hchosen.exponent_nonneg_iff hm hregular).mpr hrounds.whole
    have hprinted := Decimal.printed_eq_digitsOf_iff hexponent hdigits (n := n.natAbs)
    have hshows : (Binary64.finite (n < 0) m s).ShowsInteger n ↔ (Decimal.shortest m s).value = n.natAbs := by
      constructor
      · rintro (hlarge | hn | ⟨d, hd, hvalue⟩)
        · omega
        · exact absurd (hzero.mpr (Int.natAbs_eq_zero.mpr hn)) hm.ne'
        · rwa [hchosen.eq hm hregular hd]
      · exact fun hvalue => .inr (.inr ⟨_, hchosen, hvalue⟩)
    have hinjective : Function.Injective CodePoint.char := fun _ _ h => by injection h
    rw [Binary64.text_browser hm, ofString_signText, Reader.intText_eq, Reader.digits, hshows]
    simp only [decide_eq_true_eq, List.append_cancel_left_eq, List.map_inj_right hinjective]
    rw [eq_comm, hprinted]
    exact and_iff_left hsmall

/-- Different integers have different digits or signs. -/
theorem intText_injective : Function.Injective intText := by
  intro a b h
  have hdigits {j k : Nat} (heq : Reader.digits j = Reader.digits k) : j = k := by
    rw [← Reader.natOfDigits_digits j, heq, Reader.natOfDigits_digits]
  have hsign {j k : Nat} : CodePoint.char '-' :: Reader.digits j ≠ Reader.digits k := fun heq =>
    absurd (Reader.isDigit_of_mem_digits (heq ▸ List.mem_cons_self)) (by decide)
  rw [Reader.intText_eq, Reader.intText_eq] at h
  split at h <;> split at h
  · have := hdigits (List.append_cancel_left h)
    omega
  · exact absurd h hsign
  · exact absurd h.symm hsign
  · have := hdigits (List.append_cancel_left h)
    omega

/-- An integer is written without an exponent. -/
theorem not_mem_intText (n : Int) : CodePoint.char 'e' ∉ intText n := by
  rw [Reader.intText_eq, List.mem_append, not_or]
  refine ⟨by split <;> simp, fun hmem => ?_⟩
  exact absurd (Reader.isDigit_of_mem_digits hmem) (by decide)

/-- A double from `10²¹` on is printed with an exponent. -/
theorem mem_text_browser (negative : Bool) {m s : Nat} (h : Regular m s) (hlarge : (10 ^ 21 : Nat) ≤ magnitude m s) :
    CodePoint.char 'e' ∈ Text.ofString ((Binary64.finite negative m s).text .browser) := by
  have hm : 0 < m := by
    by_contra hzero
    rw [Nat.eq_zero_of_not_pos hzero, Binary64.magnitude_zero] at hlarge
    exact absurd hlarge (not_le.mpr (Nat.cast_pos.mpr (by decide)))
  have hchosen := Decimal.shortest_chosenFor hm h
  rw [← Decimal.ten_zpow_natCast] at hlarge
  have hplace := (Decimal.pow_le_value_iff (Decimal.digits_pos_of_rounds hm (hchosen.rounds h))).mp
    (hchosen.pow_le h hlarge)
  have hmem : 'e' ∈ (Decimal.shortest m s).printed := Decimal.mem_printed (by omega)
  rw [Binary64.text_browser hm, ofString_signText]
  exact List.mem_append_right _ (List.mem_map_of_mem hmem)

/-- No integer is written as a large double is, which has an exponent. -/
theorem intText_ne_of_large {k n : Int} {x : Binary64} (hx : Binary64.ofInt? n = some x)
    (hlarge : 10 ^ 21 ≤ n.natAbs) : intText k ≠ Text.ofString (x.text .browser) := by
  obtain ⟨m, s, rfl, hregular, hrounds⟩ := Binary64.rounds_of_ofInt? hx
  have hmem := mem_text_browser (n < 0) hregular (hrounds.ten_pow_le hregular hlarge)
  intro heq
  exact not_mem_intText k (heq ▸ hmem)

/-- Below the bound an integer has all its digits. -/
theorem integerText_of_lt {n : Int} (h : n.natAbs < 10 ^ 21) : integerText n = .ok (intText n) := by
  rw [integerText, if_pos h]

/-- From the bound on it has the text of its nearest double. -/
theorem integerText_of_ge {n : Int} {x : Binary64} (hx : Binary64.ofInt? n = some x) (h : 10 ^ 21 ≤ n.natAbs) :
    integerText n = .ok (x.text .browser) := by
  rw [integerText, if_neg (Nat.not_lt.mpr h), hx]

/-- An integer has the text of its nearest double exactly if the double shows it. -/
theorem integerText_eq_iff {n : Int} {x : Binary64} (hx : Binary64.ofInt? n = some x) :
    integerText n = .ok (x.text .browser) ↔ x.ShowsInteger n := by
  rcases Nat.lt_or_ge n.natAbs (10 ^ 21) with hsmall | hlarge
  · rw [integerText_of_lt hsmall, Except.ok.injEq]
    exact intText_eq_text_iff hx hsmall
  · exact iff_of_true (integerText_of_ge hx hlarge) (.inl hlarge)

/-- Integers with one nearest double have one text only if they are large, or the same. -/
theorem integerText_eq_integerText_iff {k n : Int} {x : Binary64} (hk : Binary64.ofInt? k = some x)
    (hn : Binary64.ofInt? n = some x) :
    integerText k = integerText n ↔ k = n ∨ 10 ^ 21 ≤ k.natAbs ∧ 10 ^ 21 ≤ n.natAbs := by
  rcases Nat.lt_or_ge k.natAbs (10 ^ 21) with hksmall | hklarge <;>
    rcases Nat.lt_or_ge n.natAbs (10 ^ 21) with hnsmall | hnlarge
  · rw [integerText_of_lt hksmall, integerText_of_lt hnsmall, Except.ok.injEq, intText_injective.eq_iff]
    omega
  · rw [integerText_of_lt hksmall, integerText_of_ge hn hnlarge, Except.ok.injEq]
    exact iff_of_false (intText_ne_of_large hn hnlarge) (by omega)
  · rw [integerText_of_ge hk hklarge, integerText_of_lt hnsmall, Except.ok.injEq]
    exact iff_of_false (intText_ne_of_large hk hklarge).symm (by omega)
  · rw [integerText_of_ge hk hklarge, integerText_of_ge hn hnlarge]
    exact iff_of_true rfl (.inr ⟨hklarge, hnlarge⟩)

/-! ## Inside lists and objects -/

/-- A place in a value, at any depth. -/
inductive Place where
  | here
  | item (before : List Json) (inner : Place) (after : List Json)
  | entry (before : Fields) (key : Text) (inner : Place) (after : Fields)

/-- The value with another one at a place. -/
def Place.fill (v : Json) : Place → Json
  | here => v
  | item before inner after => .arr (before ++ inner.fill v :: after)
  | entry before key inner after => .obj (before ++ (key, inner.fill v) :: after)

/-- What texts with separators make has each of them inside. -/
theorem intercalate_around (separator : Text) (before after : List Text) :
    ∃ first last : Text, ∀ t, Text.intercalate separator (before ++ t :: after) = first ++ t ++ last := by
  induction before with
  | nil =>
    cases after with
    | nil => exact ⟨[], [], fun t => by simp [Text.intercalate]⟩
    | cons u after =>
      refine ⟨[], separator ++ Text.intercalate separator (u :: after), fun t => ?_⟩
      simp [Text.intercalate, List.intercalate_cons_cons]
  | cons u before ih =>
    obtain ⟨first, last, haround⟩ := ih
    refine ⟨u ++ separator ++ first, last, fun t => ?_⟩
    have hrest := haround t
    cases before <;> simp_all [Text.intercalate, List.intercalate_cons_cons]

/-- If a value has a text with a null at some place, then the text with an integer there has that of the integer
inside. -/
theorem Place.nestedText_fill (p : Place) {room : Nat} {u : Text} (hothers : nestedText room (p.fill .null) = .ok u) :
    ∃ first last : Text, ∀ n t, integerText n = .ok t →
      nestedText room (p.fill (.int n)) = .ok (first ++ t ++ last) := by
  induction p generalizing room u with
  | here =>
    cases room with
    | zero => simp [nestedText] at hothers
    | succ room => exact ⟨[], [], fun n t ht => by simpa [fill, nestedText] using ht⟩
  | item before inner after ih =>
    cases room with
    | zero => simp [nestedText] at hothers
    | succ room =>
      -- the other items have their texts, and so has the item around the place
      obtain ⟨texts, htexts, -⟩ := map_eq_ok_iff.mp ((nestedText_arr room _).symm.trans hothers)
      obtain ⟨firsts, t', lasts, hinner, htexts⟩ := mapM_around htexts
      obtain ⟨first, last, hfill⟩ := ih hinner
      obtain ⟨first', last', haround⟩ := intercalate_around "," firsts lasts
      refine ⟨"[" ++ first' ++ first, last ++ last' ++ "]", fun n t ht => ?_⟩
      rw [fill, nestedText_arr, htexts _ _ (hfill n t ht)]
      simp [Functor.map, Except.map, haround]
  | entry before key inner after ih =>
    cases room with
    | zero => simp [nestedText] at hothers
    | succ room =>
      obtain ⟨texts, htexts, -⟩ := map_eq_ok_iff.mp ((nestedText_obj room _).symm.trans hothers)
      obtain ⟨firsts, t', lasts, hentry, htexts⟩ := mapM_around htexts
      obtain ⟨u, hinner, -⟩ := bind_eq_ok_iff.mp hentry
      obtain ⟨first, last, hfill⟩ := ih hinner
      obtain ⟨first', last', haround⟩ := intercalate_around "," firsts lasts
      refine ⟨"\x7b" ++ first' ++ quote key ++ ":" ++ first, last ++ last' ++ "\x7d", fun n t ht => ?_⟩
      have hentry : nestedEntry room (key, inner.fill (.int n)) = .ok (quote key ++ ":" ++ (first ++ t ++ last)) := by
        rw [nestedEntry, hfill n t ht]
        rfl
      rw [fill, nestedText_obj, htexts _ _ hentry]
      simp [Functor.map, Except.map, haround]

/-- So has the text of a list or object by itself, and that of the integer is all of its own. -/
theorem Place.answerText_fill [Stack] (p : Place) {u : Text} (hothers : (p.fill .null).answerText = .ok u) :
    ∃ first last : Text, ∀ n t, integerText n = .ok t → (p.fill (.int n)).answerText = .ok (first ++ t ++ last) := by
  cases p with
  | here => exact ⟨[], [], fun n t ht => by simpa [fill, answerText] using ht⟩
  | item before inner after => exact (item before inner after).nestedText_fill hothers
  | entry before key inner after => exact (entry before key inner after).nestedText_fill hothers

end Json

namespace Binary64

/-- `2⁵³` is the first double of a binade, whose steps are two wide. -/
theorem regular_two_pow : Regular (2 ^ 52) 1075 := ⟨by decide, .inr (by decide), by decide⟩

theorem magnitude_two_pow : magnitude (2 ^ 52) 1075 = (2 ^ 53 : Nat) := magnitude_of_ge _ (by decide)

/-- What rounds to this power of two: more above it than below, for the steps change there. -/
theorem rounds_two_pow_iff {v : ℚ} : Rounds (2 ^ 52) 1075 v ↔ 2 ^ 53 - 1 / 2 ≤ v ∧ v ≤ 2 ^ 53 + 1 := by
  have hquarter : quartersBelow (2 ^ 52) 1075 = 1 := by decide
  have hstep : step 1075 = 2 := by simpa using step_add 1
  have hlow : lowest (2 ^ 52) 1075 = 2 ^ 53 - 1 / 2 := by
    rw [lowest_eq (by decide), magnitude_two_pow, hquarter, hstep]
    norm_num
  have hhigh : highest (2 ^ 52) 1075 = 2 ^ 53 + 1 := by
    rw [highest_eq, magnitude_two_pow, hstep]
    norm_num
  rw [← hlow, ← hhigh]
  exact ⟨fun h => ⟨h.low, h.high⟩, fun ⟨h, h'⟩ => ⟨h, h', fun hodd => absurd hodd (by decide)⟩⟩

/-- Its decimal is the number itself: with fewer digits it would be a multiple of ten. -/
theorem chosenFor_two_pow : (⟨2 ^ 53, 0⟩ : Decimal).ChosenFor (.finite false (2 ^ 52) 1075) := by
  have hsize : (⟨2 ^ 53, 0⟩ : Decimal).size = 16 := by decide
  refine Decimal.chosenFor_of_value_eq regular_two_pow ?_ fun c hc => ?_
  · rw [magnitude_two_pow, Decimal.value, zpow_zero, mul_one]
  · obtain ⟨hlow, hhigh⟩ := rounds_two_pow_iff.mp hc
    by_contra hfew
    -- with fewer digits it needs an exponent to be as large
    have hexponent : 1 ≤ c.exponent := by
      by_contra hsmall
      have hvalue : c.value < 10 ^ ((15 : Nat) : Int) := c.value_lt.trans_le (Decimal.ten_zpow_le (by omega))
      rw [Decimal.ten_zpow_natCast] at hvalue
      norm_num at hvalue hlow
      linarith
    obtain ⟨k, hk⟩ := Int.eq_ofNat_of_zero_le (show 0 ≤ c.exponent - 1 by omega)
    have htens : c.value = (10 * (c.digits * 10 ^ k) : Nat) := by
      have hplaces : c.exponent.toNat = k + 1 := by omega
      rw [Decimal.value_of_nonneg (by omega), hplaces, Nat.cast_inj]
      ring
    rw [htens] at hlow hhigh
    have hbelow : 2 * 2 ^ 53 ≤ 2 * (10 * (c.digits * 10 ^ k)) + 1 := by
      have : (2 * 2 ^ 53 : ℚ) ≤ 2 * (10 * (c.digits * 10 ^ k) : Nat) + 1 := by linarith
      exact_mod_cast this
    have habove : 10 * (c.digits * 10 ^ k) ≤ 2 ^ 53 + 1 := by exact_mod_cast hhigh
    omega

/-- Up to `2⁵³` every integer is shown. -/
theorem showsInteger_of_le {n : Int} {x : Binary64} (hx : ofInt? n = some x) (hn : n.natAbs ≤ 2 ^ 53) :
    x.ShowsInteger n := by
  obtain ⟨m, s, rfl, hregular, hrounds⟩ := rounds_of_ofInt? hx
  have hzero := significand_eq_zero_iff hrounds hregular
  rcases Nat.eq_zero_or_pos m with hm | hm
  · exact .inr (.inl (Int.natAbs_eq_zero.mp (hzero.mp hm)))
  · have hchosen := Decimal.shortest_chosenFor hm hregular
    refine .inr (.inr ⟨_, hchosen, ?_⟩)
    rcases Nat.lt_or_eq_of_le hn with hlt | heq
    · have hs := hrounds.shift_le hregular hlt
      have hexponent := (hchosen.exponent_nonneg_iff hm hregular).mpr hrounds.whole
      have hdecimal := hchosen.rounds hregular
      rw [Decimal.value_of_nonneg hexponent] at hdecimal ⊢
      rw [← hdecimal.eq_of_le hs, ← hrounds.eq_of_le hs]
    · have hself : Rounds (2 ^ 52) 1075 (2 ^ 53 : Nat) := magnitude_two_pow ▸ rounds_magnitude _ _
      rw [heq] at hrounds
      obtain ⟨rfl, rfl⟩ := hrounds.unique hself hregular regular_two_pow
      rw [hchosen.eq (by decide) regular_two_pow chosenFor_two_pow, heq, Decimal.value, zpow_zero, mul_one]

end Binary64

/-- **Which integers have the text that a browser prints.** Below the bound from which on integers have no text, an
integer has a nearest double, and a browser prints one text for it. The integer has this text, by itself and at any
place in a list or object that has a text but for it, exactly if the double shows it: that is so from `10²¹` on, up to
`2⁵³`, and in between for the one number among those with this nearest double whose digits are chosen. So of two
integers with one nearest double the texts are the same only if they are the same integer, or both are from `10²¹` on.
-/
theorem integer_text_is_printed_iff [Stack] {n : Int} (hn : n.natAbs < Binary64.overflowBound) :
    ∃ x t, Binary64.ofInt? n = some x ∧ x.NearestTo n ∧ (∀ u, x.Prints u ↔ u = t) ∧
      ((Json.int n).answerText = .ok t ↔ x.ShowsInteger n) ∧
      (∀ p : Json.Place, (∃ u, (p.fill .null).answerText = .ok u) → ∃ first last : Text,
        (∀ k u, Json.integerText k = .ok u → (p.fill (.int k)).answerText = .ok (first ++ u ++ last)) ∧
        ((p.fill (.int n)).answerText = .ok (first ++ t ++ last) ↔ x.ShowsInteger n)) ∧
      (n.natAbs ≤ 2 ^ 53 ∨ 10 ^ 21 ≤ n.natAbs → x.ShowsInteger n) ∧
      ∀ k, Binary64.ofInt? k = some x →
        ((Json.int k).answerText = (Json.int n).answerText ↔ k = n ∨ 10 ^ 21 ≤ k.natAbs ∧ 10 ^ 21 ≤ n.natAbs) := by
  obtain ⟨x, hx⟩ : ∃ x, Binary64.ofInt? n = some x := by
    have hsome := mt (Binary64.ofInt?_eq_none_iff n).mp (Nat.not_le.mpr hn)
    exact Option.ne_none_iff_exists'.mp hsome
  have hnearest := Binary64.ofInt?_nearest hx
  refine ⟨x, x.text .browser, hx, hnearest, fun u => Binary64.prints_iff hnearest.proper, Json.integerText_eq_iff hx,
    ?_, ?_, fun k hk => Json.integerText_eq_integerText_iff hk hx⟩
  · -- around the place, the text is the same for every integer
    rintro p ⟨rest, hothers⟩
    obtain ⟨first, last, haround⟩ := p.answerText_fill hothers
    refine ⟨first, last, haround, ?_⟩
    obtain ⟨u, hu⟩ : ∃ u, Json.integerText n = .ok u := by
      refine exists_eq_ok_iff.mpr ?_
      rintro ⟨e, he⟩
      have hoverflows := (Json.integerText_eq_error_iff.mp he).2
      exact absurd ((Json.overflows_int n).mp hoverflows) (Nat.not_le.mpr hn)
    rw [haround n u hu, ← Json.integerText_eq_iff hx, hu]
    simp
  · rintro (hle | hge)
    · exact Binary64.showsInteger_of_le hx hle
    · exact .inl hge

/-- The text of the last integer up to which every one is a double. -/
theorem integer_text_is_printed_at_two_pow : ((2 ^ 53 : Int).natAbs < Binary64.overflowBound) ∧
    ∃ x t, Binary64.ofInt? (2 ^ 53) = some x ∧ x.Prints t ∧ (Json.int (2 ^ 53)).answerText = .ok t := by
  have hbound : (2 ^ 53 : Int).natAbs < Binary64.overflowBound := by
    have hpos : 0 < 2 ^ 970 := by positivity
    rw [Binary64.overflowBound_eq]
    omega
  obtain ⟨x, t, hx, -, hprints, htext, -, hshows, -⟩ := integer_text_is_printed_iff hbound
  exact ⟨hbound, x, t, hx, (hprints t).mpr rfl, htext.mpr (hshows (.inl (by decide)))⟩

/-- The next integer has the same nearest double, for which a browser prints the one before. -/
theorem integer_beyond_doubles_keeps_its_digits :
    ∃ x, Binary64.ofInt? (2 ^ 53 + 1) = some x ∧ x.NearestTo (2 ^ 53 + 1 : Int) ∧ x.Prints "9007199254740992" ∧
      (Json.int (2 ^ 53 + 1)).answerText = .ok "9007199254740993" ∧
      (Json.arr [.int (2 ^ 53 + 1)]).answerText = .ok "[9007199254740993]" ∧
      Binary64.ofInt? (2 ^ 53) = some x ∧ (Json.int (2 ^ 53)).answerText = .ok "9007199254740992" := by
  have hrounds (n : Nat) (hn : n = 2 ^ 53 ∨ n = 2 ^ 53 + 1) :
      Binary64.ofInt? n = some (.finite false (2 ^ 52) 1075) := by
    rw [Binary64.ofInt?_natCast_eq_iff Binary64.regular_two_pow, Binary64.rounds_two_pow_iff]
    rcases hn with rfl | rfl <;> norm_num
  have hx : Binary64.ofInt? (2 ^ 53 + 1) = some (.finite false (2 ^ 52) 1075) := hrounds _ (.inr rfl)
  have hprints : (Binary64.finite false (2 ^ 52) 1075).Prints "9007199254740992" :=
    .nonzero (by decide) Binary64.chosenFor_two_pow
  exact ⟨_, hx, Binary64.ofInt?_nearest hx, hprints, by decide, by decide, hrounds _ (.inl rfl), by decide⟩

end Questionnaire
