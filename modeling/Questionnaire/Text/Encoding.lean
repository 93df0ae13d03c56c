import Questionnaire.Text.Basic
import Questionnaire.Text.Digits

/-!
# Encodings

Bytes are read as UTF-8, and as the wider forms where the zeros among the first bytes show them. What is
sent is written as UTF-8 or as ASCII, which not every text can be.

* `Text.ofBytes`: bytes read as UTF-8, with a replacement character for each part that is none.
* `Text.ofSent?`: a text that was sent, in the form that its first bytes show.
* `Text.utf8`: the string that UTF-8 writes for a text.
* `EncodingFault`: why a text cannot be written; `Text.utf8Fault?` and `Text.asciiFault?` find it.
-/

namespace Questionnaire

/-! ## Reading -/

namespace Text

/-- A character of which some bytes have been read. -/
structure PartialChar where
  /-- The code point so far. -/
  code : Nat
  /-- How many bytes are to come. -/
  missing : Nat
  /-- The least that the next byte may be. -/
  least : Nat := 0x80
  /-- The greatest that the next byte may be. -/
  greatest : Nat := 0xBF
deriving DecidableEq, Repr

/-- The first byte of a character: the character if it has no other, and what is read of a longer one. -/
def firstByte (b : Nat) : List Char × Option PartialChar :=
  if b < 0x80 then ([Char.ofNat b], none)
  else if 0xC2 ≤ b ∧ b ≤ 0xDF then ([], some { code := b - 0xC0, missing := 1 })
  else if b = 0xE0 then ([], some { code := 0, missing := 2, least := 0xA0 })
  else if b = 0xED then ([], some { code := 0xD, missing := 2, greatest := 0x9F })
  else if 0xE1 ≤ b ∧ b ≤ 0xEF then ([], some { code := b - 0xE0, missing := 2 })
  else if b = 0xF0 then ([], some { code := 0, missing := 3, least := 0x90 })
  else if b = 0xF4 then ([], some { code := 4, missing := 3, greatest := 0x8F })
  else if 0xF1 ≤ b ∧ b ≤ 0xF3 then ([], some { code := b - 0xF0, missing := 3 })
  else ([CodePoint.replacement], none)

/-- One more byte. A byte that does not continue a character ends it and starts anew. -/
def nextByte (read : Option PartialChar) (b : Nat) : List Char × Option PartialChar :=
  match read with
  | none => firstByte b
  | some part =>
    if part.least ≤ b ∧ b ≤ part.greatest then
      let code := part.code * 64 + (b - 0x80)
      if part.missing = 1 then ([Char.ofNat code], none)
      else ([], some { code, missing := part.missing - 1 })
    else
      let (cs, next) := firstByte b
      (CodePoint.replacement :: cs, next)

/-- The characters of bytes, after those that are read of a character. -/
def ofBytesAfter (read : Option PartialChar) : List UInt8 → List Char
  | [] => if read.isSome then [CodePoint.replacement] else []
  | b :: rest =>
    let (cs, next) := nextByte read b.toNat
    cs ++ ofBytesAfter next rest

/-- Bytes read as UTF-8. -/
def ofBytes (bytes : List UInt8) : String := String.ofList (ofBytesAfter none bytes)

/-- The forms of a text that is sent. -/
inductive ByteForm where
  | bytes
  | pairs (bigEndian : Bool)
  | fours (bigEndian : Bool)
deriving DecidableEq, Repr

/-- The form that zeros among the first bytes show. -/
def ByteForm.ofBytes : List UInt8 → ByteForm
  | a :: b :: c :: d :: _ =>
    if a = 0 then (if b = 0 then .fours true else .pairs true)
    else if b = 0 then (if c = 0 ∧ d = 0 then .fours false else .pairs false)
    else .bytes
  | [a, b] => if a = 0 then .pairs true else if b = 0 then .pairs false else .bytes
  | _ => .bytes

/-- The 16-bit units of bytes. -/
def pairs? (bigEndian : Bool) : List UInt8 → Option (List Nat)
  | [] => some []
  | a :: b :: rest =>
    let unit := if bigEndian then a.toNat * 256 + b.toNat else b.toNat * 256 + a.toNat
    (pairs? bigEndian rest).map fun units => unit :: units
  | _ => none

/-- The code points of four bytes each. -/
def fours? (bigEndian : Bool) : List UInt8 → Option (List Nat)
  | [] => some []
  | a :: b :: c :: d :: rest =>
    let bytes := if bigEndian then [a, b, c, d] else [d, c, b, a]
    let code := bytes.foldl (fun n byte => n * 256 + byte.toNat) 0
    if code ≤ 0x10FFFF then (fours? bigEndian rest).map fun codes => code :: codes else none
  | _ => none

/-- A text without the byte order mark in front of it. -/
def withoutMark : Text → Text
  | '\ufeff' :: rest => rest
  | t => t

/-- The text that was sent as the bytes of a string; a byte order mark is not part of it. -/
def ofSent? (s : String) : Option Text :=
  let bytes := s.toUTF8.toList
  match ByteForm.ofBytes bytes with
  | .bytes => some (withoutMark s)
  | .pairs bigEndian => (pairs? bigEndian bytes).map ofUnits
  | .fours bigEndian => (fours? bigEndian bytes).map fun codes => codes.map .ofNat

end Text

/-! ## Writing -/

/-- Why a text cannot be written: its first code points that the encoding does not have. -/
structure EncodingFault where
  encoding : String
  reason : String
  /-- The first such code point. -/
  first : CodePoint
  position : Nat
  /-- How many such code points are next to each other. -/
  count : Nat
deriving DecidableEq, Repr

/-- A code point as an escape. -/
def CodePoint.escaped (p : CodePoint) : Text :=
  let n := p.toNat
  if n < 0x100 then "\\x" ++ Text.hexDigits 2 n
  else if n < 0x10000 then "\\u" ++ Text.hexDigits 4 n
  else "\\U" ++ Text.hexDigits 8 n

/-- The wording of an encoding fault. -/
def EncodingFault.message (e : EncodingFault) : Text :=
  let what : Text :=
    if e.count = 1 then "character '" ++ e.first.escaped ++ "' in position " ++ toString e.position
    else "characters in position " ++ toString e.position ++ "-" ++ toString (e.position + e.count - 1)
  "'" ++ e.encoding ++ "' codec can't encode " ++ what ++ ": " ++ e.reason

namespace Text

/-- The fault of a text with code points that an encoding does not have. -/
def fault? (encoding reason : String) (isOutside : CodePoint → Bool) (t : Text) : Option EncodingFault :=
  match t.dropWhile (!isOutside ·) with
  | [] => none
  | first :: rest =>
    some { encoding, reason, first, position := t.length - rest.length - 1,
           count := (rest.takeWhile isOutside).length + 1 }

/-- The fault of a text as UTF-8: half a pair. -/
def utf8Fault? : Text → Option EncodingFault := fault? "utf-8" "surrogates not allowed" CodePoint.isHalf

/-- The fault of a text as ASCII: a character beyond. -/
def asciiFault? : Text → Option EncodingFault := fault? "ascii" "ordinal not in range(128)" fun p => 128 ≤ p.toNat

/-- The string that UTF-8 writes for a text. -/
def utf8 (t : Text) : Except EncodingFault String :=
  match utf8Fault? t with
  | some e => .error e
  | none => .ok t.string

end Text
end Questionnaire
