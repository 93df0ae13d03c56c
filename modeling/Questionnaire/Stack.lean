import Questionnaire.Text.Basic

/-!
# The stack

Lists and objects that stand in one another are worked on by calls in one another, and the stack has room for
so many of these. How many is not up to the service: all that depends on it is stated for any number.

* `Stack.readingRoom`, `copyingRoom`, `writingRoom`: how many values in one another a text may have that is
  read, answers that are copied, and a value whose text is taken.
-/

namespace Questionnaire

/-- The calls that a stack has room for where a request works on a value. -/
class Stack where
  calls : Nat

/-- A thousand calls, less those in which a request is before it works on a value. -/
instance : Stack := ⟨960⟩

namespace Stack

/-- The wording of the error when the stack has no room for a call. It may go on with what kind of call it was. -/
def overflow : Text := "maximum recursion depth exceeded"

variable [Stack]

/-- A value is read by one call. -/
def readingRoom : Nat := calls

/-- A value is copied by two calls. -/
def copyingRoom : Nat := calls / 2

/-- The text of a value in a list or object takes three calls. -/
def writingRoom : Nat := calls / 3

end Stack
end Questionnaire
