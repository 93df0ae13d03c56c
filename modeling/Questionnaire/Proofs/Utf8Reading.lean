import Questionnaire.Text.Encoding

/-!
# Texts read from UTF-8

The first byte of a character tells how many bytes follow and between which bounds the next one lies; each byte that
follows adds six bits. So what is written as UTF-8 is read as it was.

* `Text.firstByte_of_two`, `Text.firstByte_of_three`, `Text.firstByte_of_four`: what first bytes tell.
* `Text.ofBytesAfter_more`, `Text.ofBytesAfter_last`: one more byte of a character.
* `Text.ofBytesAfter_utf8EncodeChar`: a character is read.
* `Text.ofBytes_flatMap`: characters are read.
-/

namespace Questionnaire.Text

/-! ## The bytes of a character -/

/-- The loop gathers the bytes from a place on, behind those that it has. -/
theorem toList_loop (bytes : ByteArray) (i : Nat) (reversed : List UInt8) :
    ByteArray.toList.loop bytes i reversed = reversed.reverse ++ bytes.data.toList.drop i := by
  fun_induction ByteArray.toList.loop bytes i reversed with
  | case1 i reversed h ih =>
    have hi : i < bytes.data.toList.length := by simpa using h
    rw [ih, List.drop_eq_getElem_cons hi]
    simp [ByteArray.get!, h]
  | case2 i reversed h =>
    rw [List.drop_eq_nil_of_le (by simpa using h)]
    simp

/-- The bytes of one character are those of its encoding. -/
theorem toUTF8_singleton (c : Char) : (String.singleton c).toUTF8.toList = String.utf8EncodeChar c := by
  rw [String.toUTF8_eq_toByteArray, String.toByteArray_singleton, List.utf8Encode_singleton, ByteArray.toList,
    toList_loop, List.toList_data_toByteArray]
  rfl

/-! ## One byte after another -/

/-- The first of two bytes has the five highest bits. -/
theorem firstByte_of_two {x : Nat} (hleast : 2 ≤ x) (hgreatest : x < 32) :
    firstByte (x + 0xC0) = ([], some { code := x, missing := 1 }) := by
  have hsmall : ¬ x + 0xC0 < 0x80 := by omega
  have htwo : 0xC2 ≤ x + 0xC0 ∧ x + 0xC0 ≤ 0xDF := by omega
  rw [firstByte, if_neg hsmall, if_pos htwo, Nat.add_sub_cancel]

/-- The bounds keep out what two bytes could write, and the halves of pairs. -/
theorem firstByte_of_three : ∀ x < 16, firstByte (x + 0xE0) = ([], some {
    code := x
    missing := 2
    least := if x = 0 then 0xA0 else 0x80
    greatest := if x = 0xD then 0x9F else 0xBF }) := by
  decide

/-- The bounds keep out what three bytes could write, and what lies beyond the last code point. -/
theorem firstByte_of_four : ∀ x < 5, firstByte (x + 0xF0) = ([], some
    { code := x, missing := 3, least := if x = 0 then 0x90 else 0x80, greatest := if x = 4 then 0x8F else 0xBF }) := by
  decide

variable {part : PartialChar} {y : Nat}

/-- A byte that may follow brings six more bits. -/
theorem nextByte_of_within (hleast : part.least ≤ y + 0x80) (hgreatest : y + 0x80 ≤ part.greatest) :
    nextByte (some part) (y + 0x80) =
      if part.missing = 1 then ([Char.ofNat (part.code * 64 + y)], none)
      else ([], some { code := part.code * 64 + y, missing := part.missing - 1 }) := by
  simp only [nextByte, if_pos (And.intro hleast hgreatest), Nat.add_sub_cancel]

/-- A byte that is not the last of a character. -/
theorem ofBytesAfter_more (hleast : part.least ≤ y + 0x80) (hgreatest : y + 0x80 ≤ part.greatest) (hy : y < 64)
    (hmissing : part.missing ≠ 1) (rest : List UInt8) :
    ofBytesAfter (some part) (UInt8.ofNat (y + 0x80) :: rest) =
      ofBytesAfter (some { code := part.code * 64 + y, missing := part.missing - 1 }) rest := by
  have hbyte : y + 0x80 < 256 := by omega
  rw [ofBytesAfter, UInt8.toNat_ofNat_of_lt' hbyte, nextByte_of_within hleast hgreatest, if_neg hmissing]
  rfl

/-- The last byte of a character. -/
theorem ofBytesAfter_last (hleast : part.least ≤ y + 0x80) (hgreatest : y + 0x80 ≤ part.greatest) (hy : y < 64)
    (hmissing : part.missing = 1) (rest : List UInt8) :
    ofBytesAfter (some part) (UInt8.ofNat (y + 0x80) :: rest) =
      Char.ofNat (part.code * 64 + y) :: ofBytesAfter none rest := by
  have hbyte : y + 0x80 < 256 := by omega
  rw [ofBytesAfter, UInt8.toNat_ofNat_of_lt' hbyte, nextByte_of_within hleast hgreatest, if_pos hmissing]
  rfl

/-- The first byte of a character that has others. -/
theorem ofBytesAfter_first {b : Nat} (hbyte : b < 256) (hfirst : firstByte b = ([], some part)) (rest : List UInt8) :
    ofBytesAfter none (UInt8.ofNat b :: rest) = ofBytesAfter (some part) rest := by
  rw [ofBytesAfter, UInt8.toNat_ofNat_of_lt' hbyte, nextByte, hfirst]
  rfl

/-! ## Characters of one byte to four -/

/-- A character of one byte is read. -/
theorem ofBytesAfter_one {x : Nat} (hx : x < 0x80) (rest : List UInt8) :
    ofBytesAfter none (UInt8.ofNat x :: rest) = Char.ofNat x :: ofBytesAfter none rest := by
  have hbyte : x < 256 := by omega
  rw [ofBytesAfter, UInt8.toNat_ofNat_of_lt' hbyte, nextByte, firstByte, if_pos hx]
  rfl

/-- A character of two bytes is read. -/
theorem ofBytesAfter_two {x : Nat} (hleast : 2 ≤ x) (hgreatest : x < 32) (hy : y < 64) (rest : List UInt8) :
    ofBytesAfter none (UInt8.ofNat (x + 0xC0) :: UInt8.ofNat (y + 0x80) :: rest) =
      Char.ofNat (x * 64 + y) :: ofBytesAfter none rest := by
  rw [ofBytesAfter_first (by omega) (firstByte_of_two hleast hgreatest)]
  exact ofBytesAfter_last (Nat.le_add_left _ _) (by simp only; omega) hy rfl rest

/-- A character of three bytes is read, unless two would do or it is half of a pair. -/
theorem ofBytesAfter_three {x z : Nat} (hx : x < 16) (hy : y < 64) (hz : z < 64) (hleast : x = 0 → 32 ≤ y)
    (hgreatest : x = 0xD → y < 32) (rest : List UInt8) :
    ofBytesAfter none (UInt8.ofNat (x + 0xE0) :: UInt8.ofNat (y + 0x80) :: UInt8.ofNat (z + 0x80) :: rest) =
      Char.ofNat ((x * 64 + y) * 64 + z) :: ofBytesAfter none rest := by
  rw [ofBytesAfter_first (by omega) (firstByte_of_three x hx),
    ofBytesAfter_more (by simp only; split <;> omega) (by simp only; split <;> omega) hy (by simp)]
  exact ofBytesAfter_last (Nat.le_add_left _ _) (by simp only; omega) hz rfl rest

/-- A character of four bytes is read, unless three would do or it is beyond the last one. -/
theorem ofBytesAfter_four {x z w : Nat} (hx : x < 5) (hy : y < 64) (hz : z < 64) (hw : w < 64)
    (hleast : x = 0 → 16 ≤ y) (hgreatest : x = 4 → y < 16) (rest : List UInt8) :
    ofBytesAfter none (UInt8.ofNat (x + 0xF0) :: UInt8.ofNat (y + 0x80) :: UInt8.ofNat (z + 0x80) ::
        UInt8.ofNat (w + 0x80) :: rest) =
      Char.ofNat (((x * 64 + y) * 64 + z) * 64 + w) :: ofBytesAfter none rest := by
  rw [ofBytesAfter_first (by omega) (firstByte_of_four x hx),
    ofBytesAfter_more (by simp only; split <;> omega) (by simp only; split <;> omega) hy (by simp),
    ofBytesAfter_more (Nat.le_add_left _ _) (by simp only; omega) hz (by simp)]
  exact ofBytesAfter_last (Nat.le_add_left _ _) (by simp only; omega) hw rfl rest

/-- Halves of pairs are no characters. -/
theorem toNat_lt_or (c : Char) : c.toNat < 0xD800 ∨ 0xDFFF < c.toNat ∧ c.toNat < 0x110000 := c.valid

/-- A character is read from its bytes, whatever follows. -/
theorem ofBytesAfter_utf8EncodeChar (c : Char) (rest : List UInt8) :
    ofBytesAfter none (String.utf8EncodeChar c ++ rest) = c :: ofBytesAfter none rest := by
  have hvalid := toNat_lt_or c
  have hc : ∀ n, n = c.toNat → Char.ofNat n = c := by
    rintro n rfl
    exact Char.ofNat_toNat c
  -- the cases are those of the encoding
  fun_cases String.utf8EncodeChar c with
  | case1 n h1 =>
    have hn : n = c.toNat := rfl
    exact (ofBytesAfter_one (by omega) rest).trans (congrArg (· :: _) (hc _ rfl))
  | case2 n h1 h2 =>
    have hn : n = c.toNat := rfl
    exact (ofBytesAfter_two (by omega) (by omega) (by omega) rest).trans (congrArg (· :: _) (hc _ (by omega)))
  | case3 n h1 h2 h3 =>
    have hn : n = c.toNat := rfl
    exact (ofBytesAfter_three (by omega) (by omega) (by omega) (by omega) (by omega) rest).trans
      (congrArg (· :: _) (hc _ (by omega)))
  | case4 n h1 h2 h3 =>
    have hn : n = c.toNat := rfl
    exact (ofBytesAfter_four (by omega) (by omega) (by omega) (by omega) (by omega) (by omega) rest).trans
      (congrArg (· :: _) (hc _ (by omega)))

/-- **What is written as UTF-8 is read as it was.** -/
theorem ofBytes_flatMap (cs : List Char) : ofBytes (cs.flatMap String.utf8EncodeChar) = String.ofList cs := by
  have hcs : ofBytesAfter none (cs.flatMap String.utf8EncodeChar) = cs := by
    induction cs with
    | nil => rfl
    | cons c cs ih => rw [List.flatMap_cons, ofBytesAfter_utf8EncodeChar, ih]
  rw [ofBytes, hcs]

end Questionnaire.Text
