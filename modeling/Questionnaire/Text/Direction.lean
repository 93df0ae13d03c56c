import Questionnaire.Text.Mark

/-!
# Directions

The directions in which the characters of Unicode 14 are written, as far as they may stand in a host name. A
host name may hold characters of later versions too, whose direction is not known. A range may run over code
points that no host name holds.

* `Text.direction`: the direction of a code point.
-/

namespace Questionnaire.Text

/-- How a character takes part in the direction of a text. -/
inductive Direction where
  | leftToRight
  | rightToLeft
  | arabicLetter
  | arabicNumber
  | europeanNumber
  /-- A sign that joins numbers, such as the hyphen. -/
  | separator
  | neutral
  /-- A character that is not seen. -/
  | boundary
  /-- A mark, which goes with the character in front of it. -/
  | mark
  /-- The direction of a character of a later version. -/
  | unknown
deriving DecidableEq, Repr

/-- Characters of later versions. -/
def laterCharacters : List (Nat × Nat) :=
  [(0x88F, 0x897), (0xC5C, 0xC5C), (0xCDC, 0xCDC), (0xCF3, 0xCF3), (0xECE, 0xECE), (0x1ACF, 0x1AEB),
   (0x1C8A, 0x1C8A), (0xA7CD, 0xA7CF), (0xA7DB, 0xA7DB), (0x105C0, 0x105F3), (0x10940, 0x10959),
   (0x10D40, 0x10D85), (0x10EC2, 0x10EFF), (0x1123F, 0x11241), (0x11380, 0x113E2), (0x116D0, 0x116E3),
   (0x11B60, 0x11BF9), (0x11DB0, 0x11DE9), (0x11F00, 0x11F5A), (0x1342F, 0x143FA), (0x16100, 0x16139),
   (0x16D40, 0x16D79), (0x16EBB, 0x16ED3), (0x16FF2, 0x16FF3), (0x187F8, 0x187FF), (0x18CFF, 0x18CFF),
   (0x18D09, 0x18DF2), (0x1B132, 0x1B132), (0x1B155, 0x1B155), (0x1DF25, 0x1DF2A), (0x1E08F, 0x1E08F),
   (0x1E4D0, 0x1E6FF), (0x2B739, 0x2B73F), (0x2CEA2, 0x2CEAD), (0x2EBF0, 0x2EE5D), (0x31350, 0x33479)]

/-- Letters written from right to left, but for those of the Arabic family. -/
def rightToLeftLetters : List (Nat × Nat) :=
  [(0x5D0, 0x5F4), (0x7C0, 0x7EA), (0x7F4, 0x7F5), (0x800, 0x815), (0x81A, 0x81A), (0x824, 0x824),
   (0x828, 0x828), (0x840, 0x858), (0x10800, 0x10939), (0x10980, 0x10A00), (0x10A10, 0x10A35),
   (0x10A60, 0x10AE4), (0x10B00, 0x10CF2), (0x10E80, 0x10EA9), (0x10EB0, 0x10EB1), (0x10F00, 0x10F27),
   (0x10F70, 0x10F81), (0x10FB0, 0x10FF6), (0x1E800, 0x1E8C4), (0x1E922, 0x1E943), (0x1E94B, 0x1E959)]

/-- Letters of the Arabic family. -/
def arabicLetters : List (Nat × Nat) :=
  [(0x620, 0x64A), (0x66E, 0x66F), (0x671, 0x6D5), (0x6E5, 0x6E6), (0x6EE, 0x6EF), (0x6FA, 0x710),
   (0x712, 0x72F), (0x74D, 0x7A5), (0x7B1, 0x7B1), (0x860, 0x88E), (0x8A0, 0x8C9), (0xFE73, 0xFE73),
   (0x10D00, 0x10D23), (0x10F30, 0x10F45)]

/-- Characters without a direction of their own. -/
def neutralCharacters : List (Nat × Nat) :=
  [(0xB7, 0xB7), (0x2B9, 0x2BA), (0x2C6, 0x2CF), (0x2EC, 0x2EC), (0x375, 0x375), (0x2E2F, 0x2E2F),
   (0x30FB, 0x30FB), (0xA67F, 0xA67F), (0xA717, 0xA71F), (0xA788, 0xA788)]

/-- Marks that are written from left to right although they take no room. -/
def directedMarks : List Nat := [0xCBF, 0xCC6, 0x11A07, 0x11A08, 0x11C3F]

/-- The direction of a code point. -/
def direction (p : CodePoint) : Direction :=
  let n := p.toNat
  if 0x30 ≤ n && n ≤ 0x39 || 0x6F0 ≤ n && n ≤ 0x6F9 then .europeanNumber
  else if 0x660 ≤ n && n ≤ 0x669 || 0x10D30 ≤ n && n ≤ 0x10D39 then .arabicNumber
  else if n = 0x2D then .separator
  else if n = 0x200C || n = 0x200D then .boundary
  else if inRanges laterCharacters n then .unknown
  else if isNonspacing p && !directedMarks.contains n then .mark
  else if inRanges rightToLeftLetters n then .rightToLeft
  else if inRanges arabicLetters n then .arabicLetter
  else if inRanges neutralCharacters n then .neutral
  else .leftToRight

end Questionnaire.Text
