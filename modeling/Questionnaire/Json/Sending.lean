import Questionnaire.Json.Writer
import Questionnaire.Text.Encoding

/-!
# Sending JSON

What is sent is the value on one line in UTF-8. A document is sent as it is or not at all; an answer has null
for the numbers that JSON has not, and replacements for the halves of pairs in its keys.

* `Json.sent`: a document as it is sent.
* `Json.answered`: an answer as it is sent.
-/

namespace Questionnaire.Json

/-! ## Documents -/

/-- Why a document cannot be sent. -/
inductive SendFault where
  | notFinite
  | unwritable (e : EncodingFault)
deriving DecidableEq, Repr

/-- The wording of a send fault. -/
def SendFault.message : SendFault → Text
  | notFinite => "Out of range float values are not JSON compliant"
  | unwritable e => e.message

/-- A document as it is sent. A number that JSON has not is found before half a pair. -/
def sent (v : Json) : Except SendFault String :=
  if v.allFinite then v.write.utf8.mapError .unwritable else .error .notFinite

/-! ## Answers -/

/-- Why an answer cannot be sent. -/
inductive AnswerFault where
  | tooDeep
  | unwritable (e : EncodingFault)
deriving DecidableEq, Repr

/-- The wording of an answer fault. -/
def AnswerFault.message : AnswerFault → Text
  | tooDeep => "Error serializing to JSON: ValueError: Maximum serialization depth exceeded"
  | unwritable e => "Error serializing to JSON: UnicodeEncodeError: " ++ e.message

/-- How many values may stand in one another in an answer, the first and the last of them counted. -/
def maxAnswerDepth : Nat := 257

mutual
/-- The first fault in a value in which so many values may stand in one another, itself counted. -/
def answerFault? : Nat → Json → Option AnswerFault
  | 0, _ => some .tooDeep
  | _ + 1, .str s => (Text.utf8Fault? s).map .unwritable
  | depth + 1, .arr items => answerFaultItems? depth items
  | depth + 1, .obj fields => answerFaultFields? depth fields
  | _ + 1, _ => none

def answerFaultItems? (depth : Nat) : List Json → Option AnswerFault
  | [] => none
  | v :: vs => (answerFault? depth v).orElse fun _ => answerFaultItems? depth vs

def answerFaultFields? (depth : Nat) : List (Text × Json) → Option AnswerFault
  | [] => none
  | (_, v) :: vs => (answerFault? depth v).orElse fun _ => answerFaultFields? depth vs
end

mutual
/-- The value with replacements for the halves of pairs in its keys. -/
def withPlainKeys : Json → Json
  | .arr items => .arr (withPlainKeysItems items)
  | .obj fields => .obj (withPlainKeysFields fields)
  | v => v

def withPlainKeysItems : List Json → List Json
  | [] => []
  | v :: vs => withPlainKeys v :: withPlainKeysItems vs

def withPlainKeysFields : List (Text × Json) → List (Text × Json)
  | [] => []
  | (k, v) :: vs => (k.string, withPlainKeys v) :: withPlainKeysFields vs
end

/-- An answer as it is sent. -/
def answered (v : Json) : Except AnswerFault String :=
  match answerFault? maxAnswerDepth v with
  | some e => .error e
  | none => .ok v.finite.withPlainKeys.write.string

end Questionnaire.Json
