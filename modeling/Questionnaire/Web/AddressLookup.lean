import Questionnaire.Answers.Text
import Questionnaire.Checked
import Questionnaire.Form.Wire
import Questionnaire.Text.Blank
import Questionnaire.Web.Outbound
import Questionnaire.Web.Url

/-!
# Addresses for a postcode

A provider is asked for the addresses of a postcode; what it sends is read with much tolerance. Without
a postcode or a provider nothing is asked.

* `AddressLookup.run`: a look-up, given what the provider replies if it is asked.
* `AddressLookup.candidates`: the addresses in a provider's answer.
-/

namespace Questionnaire

/-- Why a look-up gives no addresses. -/
inductive LookupError where
  | blankPostcode
  | notConfigured
  | unavailable
  | badStatus (status : Nat)
  | unreadable
deriving DecidableEq, Repr

namespace LookupError

/-- The wording of a look-up error. -/
def message : LookupError → Text
  | blankPostcode => "Please enter a postcode"
  | notConfigured => "Address lookup is not configured for this form"
  | unavailable => "Address lookup service unavailable"
  | badStatus status => "Address lookup failed with status " ++ toString status
  | unreadable => "Address lookup returned an unreadable response"

/-- The status with which the service reports a look-up error. -/
def status : LookupError → Nat
  | blankPostcode | notConfigured => 400
  | unavailable | badStatus _ | unreadable => 502

end LookupError

/-- Why a look-up ends early: a look-up error, or a failure that is none of the look-up's own. -/
inductive LookupFailure where
  | refused (e : LookupError)
  | url (e : UrlError)
  | text (e : TextError)
  /-- The body of a reply is too deep to be read. -/
  | depth (e : ParseFault)
  | reply (e : Json.SendFault)
  | failure (reason : Text)
deriving DecidableEq, Repr

/-- A look-up that is over. -/
structure Lookup where
  /-- The request to the provider, if one was made. -/
  request : Option OutboundRequest
  notices : List Notice
  result : Except LookupFailure (List AddressAnswer)

namespace AddressLookup

/-- The text of a part of a candidate. -/
def part [Stack] (candidate : Json) (key : Text) : Except TextError Text := (candidate.field key).answerText

/-- The address that a candidate describes. -/
def candidate [Stack] (v : Json) : Except TextError AddressAnswer := do
  let fullAddress ← part v "Address"
  let buildingNumber ← part v "BuildingNumber"
  let street ← part v "StreetAddress"
  let town ← part v "Town"
  let postcode ← part v "Postcode"
  return { fullAddress, buildingNumber, street, town, postcode }

/-- The list in a provider's answer: the answer itself, or what it holds under one of two keys. -/
def entries : Json → List Json
  | .arr items => items
  | .obj fields =>
    match Fields.get fields "addresses" with
    | .arr items => items
    | .null => ((Fields.get fields "Addresses").arr?).getD []
    | _ => []
  | _ => []

/-- The objects in the list of a provider's answer. -/
def objects (body : Json) : List Json := (entries body).filter fun v => v.obj?.isSome

/-- The addresses in a provider's answer, one for each object in its list. -/
def candidates [Stack] (body : Json) : Except TextError (List AddressAnswer) := (objects body).mapM candidate

/-- The parameters of a request: the postcode, and the key if there is one. -/
def parameters (postcode key : Text) : List (Text × Text) :=
  ("postcode", postcode) :: (if key = [] then [] else [("key", key)])

/-- What a reply to the request for a postcode means. -/
def interpret [Stack] (postcode : Text) : Reply → List Notice × Except LookupFailure (List AddressAnswer)
  | .unwritable e => ([], .error (.reply e))
  | .unreachable reason =>
    ([.error ("Postcode lookup request failed: " ++ reason)], .error (.refused .unavailable))
  | .failure reason => ([], .error (.failure reason))
  | .response status body =>
    if status ≠ 200 then
      ([.warning ("Postcode lookup returned " ++ toString status ++ " for " ++ postcode)],
        .error (.refused (.badStatus status)))
    else
      match Json.parseSent body with
      -- only errors of the notation are taken for an unreadable response
      | .error ⟨.tooDeep inObject, _⟩ => ([], .error (.depth (.tooDeep inObject)))
      | .error _ => ([.error "Postcode lookup returned a non-JSON body"], .error (.refused .unreadable))
      | .ok v => ([], (candidates v).mapError .text)

/-- The URL that is asked for a postcode. -/
def target (postcode url key : Text) : Except UrlError Url := do
  let url ← Url.empty.within (← Url.parse url)
  let target ← url.withParameters (parameters postcode key)
  match target.refusal? with
  | some e => .error e
  | none => return target

/-- A look-up at a provider, given its reply to the request if one is made. -/
def run [Stack] (postcode url key : Text) (reply : Reply) : Lookup :=
  let postcode := Text.strip postcode
  if postcode = [] then ⟨none, [], .error (.refused .blankPostcode)⟩
  else if url = [] then ⟨none, [], .error (.refused .notConfigured)⟩
  else
    match target postcode url key with
    | .error e => ⟨none, [], .error (.url e)⟩
    | .ok url =>
      let request := OutboundRequest.to url "GET" [] ""
      match url.heard reply with
      | .error e => ⟨some request, [], .error (.url e)⟩
      | .ok reply =>
        let (notices, result) := interpret postcode reply
        ⟨some request, notices, result⟩

end AddressLookup
end Questionnaire
