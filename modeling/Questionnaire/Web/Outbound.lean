import Questionnaire.Json.Reader
import Questionnaire.Json.Sending
import Questionnaire.Web.Url

/-!
# Requests to other services

What the service asks of others, and what it may get back: an answer, no connection, or a failure of
another kind.

* `OutboundRequest.to`: a request to a URL.
* `Url.heard`: what comes of a reply from a URL.
-/

namespace Questionnaire

/-- A request to another service. -/
structure OutboundRequest where
  method : String
  url : String
  /-- The headers that matter to the other service, with their names in lower case. -/
  headers : List (String × String) := []
  body : String := ""
deriving DecidableEq, Repr

/-- A request to a URL, whose user information stands in for any other authorization. -/
def OutboundRequest.to (url : Url) (method : String) (headers : List (String × String)) (body : String) :
    OutboundRequest :=
  let headers := match url.authorization? with
    | some authorization => ("authorization", authorization) :: headers.filter fun h => h.1 ≠ "authorization"
    | none => headers
  { method, url := url.render.string, headers, body }

/-- What comes of a request to another service. -/
inductive Reply where
  | response (status : Nat) (body : String)
  /-- The other service has an answer that it cannot send. -/
  | unwritable (e : Json.SendFault)
  /-- The other service could not be reached, or did not answer in time. -/
  | unreachable (reason : Text)
  | failure (reason : Text)
deriving DecidableEq, Repr

/-- A reply with a JSON value; with null it has no body. -/
def Reply.ofJson (status : Nat) : Json → Reply
  | .null => .response status ""
  | v =>
    match v.sent with
    | .ok body => .response status body
    | .error e => .unwritable e

/-- What comes of a reply from a URL: a response is of no use if the URL names no service. -/
def Url.heard (url : Url) : Reply → Except UrlError Reply
  | .response status body => if url.isAbsolute then .ok (.response status body) else .error (.noService url.render)
  | reply => .ok reply

/-- The reply when nothing else is known: success without contents. -/
def Reply.standard : Reply := .response 200 "\x7b\x7d"

end Questionnaire
