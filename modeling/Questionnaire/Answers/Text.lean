import Questionnaire.Json.Writer
import Questionnaire.Stack

/-!
# The text of an answer

Rules on answers compare texts. A text stands for itself and null for nothing. A whole number below `10²¹`
has all its digits; any other number is what a browser prints for the nearest double. A list or object is
written as compact JSON with such numbers. An integer beyond all doubles has no text, nor has a list or object
in which more values stand in one another than the stack has room for; which of these is met first is the
error.

* `Json.answerText`: the text of an answer or a part of one.
* `Json.nestedText`: the text of a value in a list or object.
-/

namespace Questionnaire

/-- Why a value has no text. -/
inductive TextError where
  | integerTooLarge
  | tooDeep
deriving DecidableEq, Repr

/-- The wording of a text error. -/
def TextError.message : TextError → Text
  | integerTooLarge => "int too large to convert to float"
  | tooDeep => Stack.overflow

namespace Json

/-- The digits of an integer below `10²¹`, beyond that the text of the nearest double. -/
def integerText (n : Int) : Except TextError Text :=
  if n.natAbs < 10 ^ 21 then .ok (intText n)
  else
    match Binary64.ofInt? n with
    | some x => .ok (x.text .browser)
    | none => .error .integerTooLarge

/-- The digits of a whole double below `10²¹`, of any other the fewest digits that read back. -/
def floatText (x : Binary64) : Text :=
  match x.toInt? with
  | some n => if n.natAbs < 10 ^ 21 then intText n else x.text .browser
  | none => x.text .browser

/-- The text of a double inside a list or object: null unless it is finite. -/
def nestedFloatText (x : Binary64) : Text := if x.isFinite then floatText x else "null"

mutual
/-- A value inside a list or object, or one of these, with room for so many values in one another, itself
counted. -/
def nestedText : Nat → Json → Except TextError Text
  | 0, _ => .error .tooDeep
  | _ + 1, .null => .ok "null"
  | _ + 1, .bool b => .ok (boolText b)
  | _ + 1, .int n => integerText n
  | _ + 1, .float x => .ok (nestedFloatText x)
  | _ + 1, .str s => .ok (quote s)
  | room + 1, .arr items => do return "[" ++ (← nestedItems room items) ++ "]"
  | room + 1, .obj fields => do return "\x7b" ++ (← nestedFields room fields) ++ "\x7d"

/-- The items of a list, separated by commas. -/
def nestedItems (room : Nat) : List Json → Except TextError Text
  | [] => .ok []
  | [v] => nestedText room v
  | v :: vs => do
    let first ← nestedText room v
    let rest ← nestedItems room vs
    return first ++ "," ++ rest

/-- The entries of an object, separated by commas. -/
def nestedFields (room : Nat) : List (Text × Json) → Except TextError Text
  | [] => .ok []
  | [(k, v)] => do
    let first ← nestedText room v
    return quote k ++ ":" ++ first
  | (k, v) :: vs => do
    let first ← nestedText room v
    let rest ← nestedFields room vs
    return quote k ++ ":" ++ first ++ "," ++ rest
end

/-- The text of a value. Only a list or object takes room on the stack. -/
def answerText [Stack] : Json → Except TextError Text
  | .null => .ok ""
  | .bool b => .ok (boolText b)
  | .int n => integerText n
  | .float x => .ok (floatText x)
  -- outside a list or object a text stands without quotes
  | .str s => .ok s
  | v => nestedText Stack.writingRoom v

end Json
end Questionnaire
