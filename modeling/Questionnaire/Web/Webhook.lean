import Questionnaire.Checked
import Questionnaire.Web.Outbound
import Questionnaire.Web.Url

/-!
# Delivery to a webhook

A payload is posted once. Whatever goes wrong ends in a notice, never in an error.

* `Webhook.deliver`: a delivery, given what the other side replies if it is reached.
-/

namespace Questionnaire

/-- A delivery that is over. -/
structure Delivery where
  /-- The request that was made, if one was. -/
  request : Option OutboundRequest
  notices : List Notice
  delivered : Bool

namespace Webhook

/-- How much of an answer is shown in a notice. -/
def shownLength : Nat := 200

/-- The notice on a failure that is not one of the connection. -/
def unexpected (url reason : Text) : Notice := .error ("Unexpected webhook error for " ++ url ++ ": " ++ reason)

/-- What a reply means: a status from 200 to 299 is a success. -/
def interpret (url : Text) : Reply → List Notice × Bool
  | .response status body =>
    if 200 ≤ status ∧ status < 300 then ([], true)
    else
      let start := (body : Text).take shownLength
      ([.error ("Webhook " ++ url ++ " returned " ++ toString status ++ ": " ++ start)], false)
  | .unwritable e => ([unexpected url e.message], false)
  | .unreachable reason => ([.error ("Webhook delivery to " ++ url ++ " failed: " ++ reason)], false)
  | .failure reason => ([unexpected url reason], false)

/-- The headers and the body that carry a payload; null is no payload. -/
def content : Json → Except Json.SendFault (List (String × String) × String)
  | .null => .ok ([], "")
  | payload => payload.sent.map fun body => ([("content-type", "application/json")], body)

/-- The request that posts a payload, with the URL that it goes to, or the reason why there is none. -/
def request (url : Text) (payload : Json) : Except Text (Url × OutboundRequest) := do
  let target ← (do Url.empty.within (← Url.parse url)).mapError UrlError.message
  let (headers, body) ← (content payload).mapError Json.SendFault.message
  -- that a URL is refused is found out only after the payload was written
  match target.refusal? with
  | some e => .error e.message
  | none => return (target, .to target "POST" headers body)

/-- The delivery of a payload, given the reply to the request if one is made. No address, no request. -/
def deliver (url : Text) (payload : Json) (reply : Reply) : Delivery :=
  if url = [] then ⟨none, [], false⟩
  else
    match request url payload with
    | .error reason => ⟨none, [unexpected url reason], false⟩
    | .ok (target, request) =>
      match target.heard reply with
      | .error e => ⟨some request, [unexpected url e.message], false⟩
      | .ok reply =>
        let (notices, delivered) := interpret url reply
        ⟨some request, notices, delivered⟩

end Webhook
end Questionnaire
