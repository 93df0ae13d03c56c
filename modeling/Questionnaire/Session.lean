import Questionnaire.Answers.Completion
import Questionnaire.Redirect

/-!
# Filling in a form

A session is at one question of the form, or has submitted, or is in the empty state when no question is
shown. It holds the sequence of active questions beside the answers and computes it anew when they change;
a change of the answers that hides the current question moves the session to the first active one.

* `Session.start`, `setAnswer`, `toggle`, `next`, `back`, `reset`: a session and its steps.
* `Session.snapshot`: what the respondent's client sees.
-/

namespace Questionnaire

/-- The progress of a respondent. -/
structure Session where
  form : Form
  answers : Answers
  /-- The ids of the questions that are shown, as of the last time they were computed. -/
  activeIds : List Text
  /-- The position of the current question in the form; none when no question is shown. -/
  current? : Option Nat
  submitted : Bool
deriving DecidableEq

namespace Session

/-- The session with its active sequence computed from its answers. -/
def recompute (s : Session) : Session :=
  { s with activeIds := Questionnaire.activeIds s.form.questions s.answers }

/-- The position in the form of the first active question. -/
def firstActive? (s : Session) : Option Nat := s.activeIds.head?.bind (indexOf? s.form.questions)

/-- A session with the given answers, at the given question if it is active. -/
def start (form : Form) (answers : Answers) (currentId : Option Text) (submitted : Bool) : Session :=
  let s : Session := recompute { form, answers, activeIds := [], current? := none, submitted }
  match currentId with
  | some id =>
    -- a question that is not shown is no place to go on from
    if id ∈ s.activeIds then { s with current? := indexOf? form.questions id }
    else { s with current? := s.firstActive? }
  | none => { s with current? := s.firstActive? }

/-- The question at the current position, submitted or not. -/
def standing? (s : Session) : Option Question := s.current?.bind fun i => s.form.questions[i]?

/-- The current question; none once submitted. -/
def question? (s : Session) : Option Question := if s.submitted then none else s.standing?

/-- The place of the current question in the active sequence. -/
def position? (s : Session) : Option Nat := s.question?.bind fun q => s.activeIds.idxOf? q.id

/-- The part of the active sequence that is done, the current question included. -/
def progress (s : Session) : Rat :=
  if s.submitted then 1
  else
    match s.position? with
    | some p => ((p + 1 : Nat) : Rat) / (s.activeIds.length : Rat)
    | none => 0

/-- Is the current question the last active one? -/
def isLast (s : Session) : Bool :=
  match s.position? with
  | some p => p + 1 == s.activeIds.length
  | none => false

/-- Is there an active question in front of the current one? -/
def canGoBack (s : Session) : Bool :=
  match s.position? with
  | some p => 0 < p
  | none => false

/-- May the respondent go on? Not from a required question without an answer that satisfies it. -/
def canAdvance (s : Session) : Bool :=
  if s.submitted then false
  else
    match s.question? with
    | some q => !q.required || q.isAnsweredBy (s.answers.get q.id)
    | none => true

/-- Where the submission leads; none before it. -/
def redirect [Stack] (s : Session) : Except TextError (Option Text) :=
  if s.submitted then some <$> s.form.redirect s.answers else .ok none

/-- The session after its answers changed: the current question stays if it is still shown. -/
def settle (s : Session) : Session :=
  match s.standing? with
  | some q => if q.id ∈ s.activeIds then s else { s with current? := s.firstActive? }
  | none => { s with current? := s.firstActive? }

/-- The session with other answers. -/
def withAnswers (s : Session) (answers : Answers) : Session := settle (recompute { s with answers })

/-- Records an answer. -/
def setAnswer (s : Session) (id : Text) (value : Json) : Session := s.withAnswers (s.answers.put id value)

/-- Toggles an option of a selection. -/
def toggle (s : Session) (id : Text) (option : Json) : Session := s.withAnswers (s.answers.toggle id option)

/-- Moves to a place of the active sequence. -/
def moveTo (s : Session) (place : Nat) : Session :=
  { s with current? := s.activeIds[place]?.bind (indexOf? s.form.questions) }

/-- Goes on to the next active question, or submits from the last; the flag tells whether it did. -/
def next (s : Session) : Bool × Session :=
  if s.submitted then (false, s)
  -- without a current question nothing can be required, and to go on is to submit
  else if s.question?.isNone then (true, { s with submitted := true })
  else if !s.canAdvance then (false, s)
  else
    -- a question that is not in the sequence is followed by its first
    let place := (s.position?.map (· + 1)).getD 0
    if place < s.activeIds.length then (true, s.moveTo place) else (true, { s with submitted := true })

/-- Goes back to the active question before; the flag tells whether there is one. -/
def back (s : Session) : Bool × Session :=
  match s.position? with
  | some (p + 1) => (true, s.moveTo p)
  | _ => (false, s)

/-- Starts over without answers. -/
def reset (s : Session) : Session := start s.form [] none false

/-- Why a session has no snapshot. -/
inductive Fault where
  | text (e : TextError)
  | tooDeep
deriving DecidableEq, Repr

/-- The wording of a session fault. -/
def Fault.message : Fault → Text
  | text e => e.message
  | tooDeep => Stack.overflow ++ " while calling a Python object"

/-- Answers as they are handed over: they are copied, for which the stack must have room, the answers as a whole
counted. -/
def copied [Stack] (answers : Answers) : Except Fault Answers :=
  if Stack.copyingRoom < (Json.obj answers).depth then .error .tooDeep else .ok answers

/-- What a client sees of a session. -/
structure Snapshot where
  currentId : Option Text
  current? : Option Nat
  activeIds : List Text
  progress : Rat
  submitted : Bool
  isLast : Bool
  canGoBack : Bool
  canAdvance : Bool
  redirect : Option Text
  answers : Answers
deriving DecidableEq

/-- The snapshot of a session. It has none when it is submitted and the redirect fails, or when the answers
cannot be copied. -/
def snapshot [Stack] (s : Session) : Except Fault Snapshot := do
  let redirect ← s.redirect.mapError .text
  -- the redirect is looked for first, so its error is the one that is told
  let answers ← copied s.answers
  return {
    currentId := s.question?.map (·.id)
    current? := if s.submitted then none else s.current?
    activeIds := s.activeIds
    progress := s.progress
    submitted := s.submitted
    isLast := s.isLast
    canGoBack := s.canGoBack
    canAdvance := s.canAdvance
    redirect
    answers }

/-- The session that goes on from a snapshot. -/
def resume (form : Form) (snapshot : Snapshot) : Session :=
  start form snapshot.answers snapshot.currentId snapshot.submitted

namespace Snapshot

/-- The progress as the nearest double. -/
def progressNumber (s : Snapshot) : Binary64 := .ofRatio (s.progress.num < 0) s.progress.num.natAbs s.progress.den

/-- A number, null if there is none. -/
def optionalInt : Option Nat → Json
  | some n => .int n
  | none => .null

/-- A text, null if there is none. -/
def optionalText : Option Text → Json
  | some t => .str t
  | none => .null

/-- The entries of a snapshot. -/
def fields (s : Snapshot) : Fields :=
  [("current_question_id", optionalText s.currentId), ("current_index", optionalInt s.current?),
    ("active_question_ids", .arr (s.activeIds.map .str)), ("progress", .float s.progressNumber),
    ("submitted", .bool s.submitted), ("is_last", .bool s.isLast), ("can_go_back", .bool s.canGoBack),
    ("can_advance", .bool s.canAdvance), ("redirect_url", optionalText s.redirect),
    ("answers", .obj s.answers)]

end Snapshot
end Session
end Questionnaire
