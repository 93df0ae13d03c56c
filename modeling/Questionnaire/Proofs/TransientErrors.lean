import Mathlib.Data.List.Infix
import Questionnaire.Retry
import Questionnaire.Text.LowerCase

/-!
# Transient errors

An error is transient if one of the marks is found in its text in lower case. For the marks it is enough to change the
ASCII letters: of the characters beyond ASCII only two have ASCII letters in their lower case, the Kelvin sign with its
`k`, which no mark has, and the capital `I` with a dot, whose dot goes on behind the `i`.

* `Text.holdsText_iff`: a text holds another.
* `Text.lowerAfter_cons_cases`: how a text in lower case starts.
* `Text.Told`: texts for which it makes no difference how the others are changed; `Text.Told.infix_lower_iff`.
* `isTransient_iff`: which errors are transient.
-/

namespace Questionnaire

/-- One text holds another if the other is a part of it. -/
theorem holdsText_iff {part t : Text} : holdsText part t = true ↔ part <:+: t := by
  induction t with
  | nil => rw [holdsText, List.isEmpty_iff, List.infix_nil]
  | cons p t ih => rw [holdsText, Bool.or_eq_true, List.isPrefixOf_iff_prefix, ih, List.infix_cons_iff]

namespace Text

/-! ## Lower case beyond ASCII -/

/-- Is a code point beyond ASCII, or the letter of the Kelvin sign? -/
def Foreign (p : CodePoint) : Prop := 128 ≤ p.toNat ∨ p = 'k'

instance (p : CodePoint) : Decidable (Foreign p) := inferInstanceAs (Decidable (128 ≤ p.toNat ∨ p = 'k'))

/-- A number beyond ASCII is that of a code point beyond ASCII. -/
theorem le_toNat_ofNat {n : Nat} (hlow : 128 ≤ n) (hhigh : n < 0x110000) : 128 ≤ (CodePoint.ofNat n).toNat := by
  unfold CodePoint.ofNat
  split
  · change 128 ≤ 0xD800 + (n - 0xD800)
    omega
  · next hhalf =>
    have hvalid : n.isValidChar := by
      unfold Nat.isValidChar
      omega
    unfold Char.ofNat
    rw [dif_pos hvalid]
    exact hlow

/-- The capitals of ASCII are the first letters with a lower case, and the others are beyond ASCII. -/
theorem lowerPoint_eq {p : CodePoint} (h : p.toNat < 128) :
    lowerPoint p = if 0x41 ≤ p.toNat ∧ p.toNat ≤ 0x5A then [.ofNat (p.toNat + 32)] else [p] := by
  have hdotted : ¬ p.toNat = 0x130 := by omega
  -- only the first entry of the table starts below 128
  have hcases : lowerCases = (0x41, 0x5A, 1, 32) :: lowerCases.tail := rfl
  have hbeyond : ∀ entry ∈ lowerCases.tail, 128 ≤ entry.1 := by decide +kernel
  have hnone : ∀ f : Nat × Nat × Nat × Int → Bool, (∀ entry, 128 ≤ entry.1 → f entry = false) →
      lowerCases.tail.find? f = none := by
    intro f hf
    rw [List.find?_eq_none]
    intro entry hentry
    rw [hf entry (hbeyond entry hentry)]
    exact Bool.false_ne_true
  unfold lowerPoint
  simp only [hdotted, if_false]
  rw [hcases, List.find?_cons, hnone]
  · by_cases hcapital : 0x41 ≤ p.toNat ∧ p.toNat ≤ 0x5A
    · have hfirst : (0x41 ≤ p.toNat && p.toNat ≤ 0x5A && (p.toNat - 0x41) % 1 = 0) = true := by
        simpa [Nat.mod_one] using hcapital
      rw [if_pos hcapital]
      simp only [hfirst]
      rfl
    · have hother : (0x41 ≤ p.toNat && p.toNat ≤ 0x5A && (p.toNat - 0x41) % 1 = 0) = false := by
        simpa [Nat.mod_one] using fun hlow hhigh => hcapital ⟨hlow, hhigh⟩
      rw [if_neg hcapital]
      simp only [hother]
  · rintro ⟨first, last, step, distance⟩ hfirst
    have hless : ¬ first ≤ p.toNat := by
      have hbound : 128 ≤ first := hfirst
      omega
    simp [hless]

/-- An ASCII letter has the lower case of ASCII. -/
theorem lowerPoint_of_lt {p : CodePoint} (h : p.toNat < 128) : lowerPoint p = [p.lowerAscii] := by
  rw [lowerPoint_eq h]
  cases p with
  | half index =>
    have hlarge : 0xD800 + index.val < 128 := h
    omega
  | char c =>
    have hall : ∀ n < 128, (if 0x41 ≤ n ∧ n ≤ 0x5A then [.ofNat (n + 32)] else [.char (Char.ofNat n)]) =
        [CodePoint.lowerAscii (Char.ofNat n)] := by decide +kernel
    have hc := hall c.toNat h
    rwa [Char.ofNat_toNat] at hc

/-- The lower cases beyond ASCII are beyond ASCII themselves, but for that of the Kelvin sign. -/
theorem foreign_of_lowerCases {first last step : Nat} {distance : Int} (h : (first, last, step, distance) ∈ lowerCases)
    {n : Nat} (hfirst : first ≤ n) (hlast : n ≤ last) (hn : 128 ≤ n) : Foreign (.ofNat (n + distance).toNat) := by
  have htable : ∀ entry ∈ lowerCases, entry.2.1 < 128 ∨
      (128 ≤ entry.1 + entry.2.2.2 ∧ entry.2.1 + entry.2.2.2 < 0x110000) ∨
      (entry.1 = 0x212A ∧ entry.2.1 = 0x212A ∧ entry.2.2.2 = -8383) := by decide +kernel
  have hentry := htable _ h
  rcases hentry with hascii | ⟨hlow, hhigh⟩ | ⟨rfl, rfl, rfl⟩
  · have : last < 128 := hascii
    omega
  · have hlow' : 128 ≤ (first : Int) + distance := hlow
    have hhigh' : (last : Int) + distance < 0x110000 := hhigh
    exact .inl (le_toNat_ofNat (by omega) (by omega))
  · right
    obtain rfl : n = 0x212A := by omega
    rfl

/-- Beyond ASCII, lower case stays beyond ASCII, but for the one letter whose lower case has a dot. -/
theorem lowerPoint_of_le {p : CodePoint} (h : 128 ≤ p.toNat) :
    (∃ q, lowerPoint p = [q] ∧ Foreign q) ∨ lowerPoint p = ['i', '\u0307'] := by
  unfold lowerPoint
  simp only
  split
  · exact .inr rfl
  · left
    split
    · next first last step distance hfind =>
      have hrange := List.find?_some hfind
      simp only [Bool.and_eq_true, decide_eq_true_eq] at hrange
      exact ⟨_, rfl, foreign_of_lowerCases (List.mem_of_find?_eq_some hfind) hrange.1.1 hrange.1.2 h⟩
    · exact ⟨p, rfl, .inl h⟩

/-- How a text in lower case starts: with the ASCII letter in lower case, with something foreign, or with a letter and
the dot on it. -/
theorem lowerAfter_cons_cases (afterCased : Bool) (p : CodePoint) (rest : Text) :
    ∃ next, (p.toNat < 128 ∧ lowerAfter afterCased (p :: rest) = p.lowerAscii :: lowerAfter next rest) ∨
      128 ≤ p.toNat ∧
        ((∃ q, Foreign q ∧ lowerAfter afterCased (p :: rest) = q :: lowerAfter next rest) ∨
          lowerAfter afterCased (p :: rest) = .char 'i' :: .char '\u0307' :: lowerAfter next rest) := by
  refine ⟨if isCaseIgnorable p then afterCased else isCased p, ?_⟩
  rw [lowerAfter]
  -- sigma looks at what surrounds it; every other code point is by itself
  by_cases hsigma : p = '\u03a3'
  · subst hsigma
    rw [if_pos rfl]
    refine .inr ⟨by decide, .inl ?_⟩
    unfold lowerSigma
    split
    · exact ⟨'\u03c2', .inl (by decide), rfl⟩
    · exact ⟨'\u03c3', .inl (by decide), rfl⟩
  · rw [if_neg hsigma]
    rcases Nat.lt_or_ge p.toNat 128 with hascii | hbeyond
    · rw [lowerPoint_of_lt hascii]
      exact .inl ⟨hascii, rfl⟩
    · rcases lowerPoint_of_le hbeyond with ⟨q, hq, hforeign⟩ | hdotted
      · rw [hq]
        exact .inr ⟨hbeyond, .inl ⟨q, hforeign, rfl⟩⟩
      · rw [hdotted]
        exact .inr ⟨hbeyond, .inr rfl⟩

/-- Lower case of ASCII alone leaves other code points as they are. -/
theorem lowerAscii_of_le {p : CodePoint} (h : 128 ≤ p.toNat) : p.lowerAscii = p := by
  cases p with
  | half index => rfl
  | char c =>
    have hc : ¬ (c.val ≥ 'A'.val ∧ c.val ≤ 'Z'.val) := by
      rintro ⟨-, hle⟩
      have hZ : c.toNat ≤ 'Z'.toNat := hle
      have hbeyond : 128 ≤ c.toNat := h
      have hascii : 'Z'.toNat < 128 := by decide
      omega
    rw [CodePoint.lowerAscii]
    unfold Char.toLower
    rw [dif_neg hc]

/-! ## Texts that are told by their ASCII letters -/

/-- Is a text in ASCII, without the letter of the Kelvin sign, and does it not end with the letter under a dot? -/
structure Told (t : Text) : Prop where
  native : ∀ p ∈ t, ¬ Foreign p
  undotted : t.getLast? ≠ some (.char 'i')

/-- What is told by its letters is so without its first one. -/
theorem Told.tail {p : CodePoint} {t : Text} (h : Told (p :: t)) : Told t := by
  refine ⟨fun q hq => h.native q (List.mem_cons_of_mem _ hq), ?_⟩
  intro hlast
  cases t with
  | nil => cases hlast
  | cons q t => exact h.undotted (by rw [List.getLast?_cons_cons, hlast])

/-- What starts with something foreign does not start with such a text. -/
theorem Told.not_start {p q : CodePoint} {part t : Text} (h : Told (p :: part)) (hq : Foreign q) :
    ¬ p :: part <+: q :: t := by
  intro hstart
  rw [List.cons_prefix_cons] at hstart
  exact h.native p List.mem_cons_self (hstart.1 ▸ hq)

/-- Nor does what starts with a letter under a dot, as the dot is foreign. -/
theorem Told.not_start_dotted {p : CodePoint} {part t : Text} (h : Told (p :: part)) :
    ¬ p :: part <+: .char 'i' :: .char '\u0307' :: t := by
  intro hstart
  rw [List.cons_prefix_cons] at hstart
  rcases hstart with ⟨rfl, hstart⟩
  cases part with
  | nil => exact h.undotted rfl
  | cons q part => exact h.tail.not_start (.inl (by decide)) hstart

/-- A text in lower case starts with such a text exactly if its ASCII letters do. -/
theorem Told.prefix_lowerAfter_iff {part : Text} (h : Told part) (afterCased : Bool) (t : Text) :
    part <+: lowerAfter afterCased t ↔ part <+: lowerAscii t := by
  induction t generalizing part afterCased with
  | nil => rfl
  | cons p t ih =>
    cases part with
    | nil => exact iff_of_true List.nil_prefix List.nil_prefix
    | cons q part =>
      have hascii : lowerAscii (p :: t) = p.lowerAscii :: lowerAscii t := rfl
      rcases lowerAfter_cons_cases afterCased p t with ⟨next, ⟨-, hlower⟩ | ⟨hbeyond, hlower⟩⟩
      · rw [hlower, hascii, List.cons_prefix_cons, List.cons_prefix_cons, ih h.tail]
      · -- neither starts with a letter of the part
        rw [hascii, lowerAscii_of_le hbeyond]
        refine iff_of_false ?_ (h.not_start (.inl hbeyond))
        rcases hlower with ⟨r, hforeign, hlower⟩ | hlower
        · rw [hlower]
          exact h.not_start hforeign
        · rw [hlower]
          exact h.not_start_dotted

/-- It holds such a text exactly if its ASCII letters do. -/
theorem Told.infix_lowerAfter_iff {part : Text} (h : Told part) (hne : part ≠ []) (afterCased : Bool) (t : Text) :
    part <:+: lowerAfter afterCased t ↔ part <:+: lowerAscii t := by
  induction t generalizing afterCased with
  | nil => rfl
  | cons p t ih =>
    have hstart := h.prefix_lowerAfter_iff afterCased (p :: t)
    have hascii : lowerAscii (p :: t) = p.lowerAscii :: lowerAscii t := rfl
    rw [hascii] at hstart ⊢
    rw [List.infix_cons_iff, ← hstart]
    rcases lowerAfter_cons_cases afterCased p t with ⟨next, ⟨-, hlower⟩ | ⟨-, ⟨q, -, hlower⟩ | hlower⟩⟩
    · rw [hlower, List.infix_cons_iff, ih]
    · rw [hlower, List.infix_cons_iff, ih]
    · have hdot : ¬ part <+: .char '\u0307' :: lowerAfter next t := by
        cases part with
        | nil => exact absurd rfl hne
        | cons r part => exact h.not_start (.inl (by decide))
      rw [hlower, List.infix_cons_iff, List.infix_cons_iff, ih, or_iff_right hdot]

end Text

/-- An error is transient if its text in lower case holds one of the marks. -/
theorem isTransient_iff {error : Text} : isTransient error = true ↔ ∃ mark ∈ transientMarks, mark <:+: error.lower := by
  have hmarks : ∀ mark ∈ transientMarks, mark.Told ∧ mark ≠ [] := by
    have hdata : ∀ mark ∈ transientMarks,
        (∀ p ∈ mark, ¬ Text.Foreign p) ∧ mark.getLast? ≠ some (.char 'i') ∧ mark ≠ [] := by decide
    intro mark hmark
    rcases hdata mark hmark with ⟨hnative, hundotted, hne⟩
    exact ⟨⟨hnative, hundotted⟩, hne⟩
  unfold isTransient
  rw [List.any_eq_true]
  refine exists_congr fun mark => and_congr_right fun hmark => ?_
  rw [holdsText_iff]
  exact ((hmarks mark hmark).1.infix_lowerAfter_iff (hmarks mark hmark).2 false error).symm

end Questionnaire
