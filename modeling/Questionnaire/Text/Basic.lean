/-!
# Texts

A character beyond `U+FFFF` is written as two 16-bit units where units count. A unit of such a pair by
itself is no character, yet a text that is read may hold one. So a text is a list of code points, each of
which is a character or half a pair. A text without halves is a string, and every string is a text.

* `CodePoint`: a character or half a pair, ordered by `CodePoint.toNat`.
* `Text`: a list of code points; `Text.ofString` makes one of a string.
* `Text.ofUnits`: the text of 16-bit units.
* `Text.pieces`, `Text.intercalate`: a text taken apart at a separator, and put together again.
* `Text.string`: the string of a text, with replacements for the halves.
-/

namespace Questionnaire

/-! ## Code points -/

/-- A character, or half of a pair of 16-bit units. -/
inductive CodePoint where
  | char (c : Char)
  /-- The unit `0xD800 + index`. -/
  | half (index : Fin 0x800)
deriving DecidableEq, Repr, Inhabited

namespace CodePoint

instance : Coe Char CodePoint := ⟨char⟩

/-- The number of a code point; for half a pair, its unit. -/
def toNat : CodePoint → Nat
  | char c => c.toNat
  | half index => 0xD800 + index

/-- The code point of a number below `0x110000`. -/
def ofNat (n : Nat) : CodePoint :=
  if h : 0xD800 ≤ n ∧ n < 0xE000 then half ⟨n - 0xD800, by omega⟩ else char (Char.ofNat n)

instance : LT CodePoint := ⟨fun a b => a.toNat < b.toNat⟩

instance : DecidableLT CodePoint := fun a b => inferInstanceAs (Decidable (a.toNat < b.toNat))

instance : LE CodePoint := ⟨fun a b => a.toNat ≤ b.toNat⟩

instance : DecidableLE CodePoint := fun a b => inferInstanceAs (Decidable (a.toNat ≤ b.toNat))

/-- Is a code point half a pair? -/
def isHalf : CodePoint → Bool
  | char _ => false
  | half _ => true

/-- Is a code point the first half of a pair? -/
def isHighHalf (p : CodePoint) : Bool := p.isHalf && p.toNat < 0xDC00

/-- Is a code point the second half of a pair? -/
def isLowHalf (p : CodePoint) : Bool := p.isHalf && 0xDC00 ≤ p.toNat

/-- The character of two halves. -/
def ofPair (high low : CodePoint) : CodePoint :=
  ofNat (0x10000 + (high.toNat - 0xD800) * 0x400 + (low.toNat - 0xDC00))

/-- What stands for bytes that are no character. -/
def replacement : Char := '\ufffd'

/-- The character that a code point is, or a replacement for each of the three bytes that would write half a
pair. -/
def chars : CodePoint → List Char
  | char c => [c]
  | half _ => [replacement, replacement, replacement]

/-- Is a code point an ASCII letter? -/
def isAlpha (p : CodePoint) : Bool := ('a' ≤ p && p ≤ 'z') || ('A' ≤ p && p ≤ 'Z')

/-- Is a code point an ASCII letter or digit? -/
def isAlphanum (p : CodePoint) : Bool := p.isAlpha || ('0' ≤ p && p ≤ '9')

/-- A code point with an ASCII letter in lower case. -/
def lowerAscii : CodePoint → CodePoint
  | char c => c.toLower
  | half index => half index

/-- A code point with an ASCII letter in upper case. -/
def upperAscii : CodePoint → CodePoint
  | char c => c.toUpper
  | half index => half index

end CodePoint

/-! ## Texts -/

/-- A list of code points. -/
abbrev Text := List CodePoint

instance : LawfulBEq Text := inferInstanceAs (LawfulBEq (List CodePoint))

namespace Text

/-- The text of a string. -/
def ofString (s : String) : Text := s.toList.map .char

instance : Coe String Text := ⟨ofString⟩

/-- The text as a string, with replacements for the halves. -/
def string (t : Text) : String := String.ofList (t.flatMap CodePoint.chars)

@[simp] theorem string_ofString (s : String) : string s = s := by
  have h : ∀ cs : List Char, (cs.map CodePoint.char).flatMap CodePoint.chars = cs := by
    intro cs
    induction cs with
    | nil => rfl
    | cons c cs ih => simp [CodePoint.chars, ih]
  simp [string, ofString, h]

/-- Texts one after the other, with a separator between each two. -/
def intercalate (separator : Text) (texts : List Text) : Text := List.intercalate separator texts

/-- The pieces of a text between the occurrences of a separator. -/
def pieces (separator : CodePoint) : Text → List Text
  | [] => [[]]
  | p :: rest =>
    if p = separator then [] :: pieces separator rest
    else
      match pieces separator rest with
      | first :: others => (p :: first) :: others
      | [] => [[p]]

/-- What is before a separator, and what is after it if it is there. -/
def splitAt (separator : CodePoint) (t : Text) : Text × Option Text :=
  let rest := t.dropWhile (· ≠ separator)
  (t.takeWhile (· ≠ separator), if rest.isEmpty then none else some rest.tail)

/-- The text with ASCII letters in lower case. -/
def lowerAscii (t : Text) : Text := t.map .lowerAscii

/-- The text with ASCII letters in upper case. -/
def upperAscii (t : Text) : Text := t.map .upperAscii

/-- The text of code points, of which two halves that make a pair are one character. -/
def joinHalves : Text → Text
  | high :: low :: rest =>
    if high.isHighHalf && low.isLowHalf then .ofPair high low :: joinHalves rest
    else high :: joinHalves (low :: rest)
  | [p] => [p]
  | [] => []

/-- The text of 16-bit units. -/
def ofUnits (units : List Nat) : Text := joinHalves (units.map .ofNat)

end Text
end Questionnaire
