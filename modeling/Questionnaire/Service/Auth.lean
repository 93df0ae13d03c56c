import Questionnaire.Service.Exchange

/-!
# Who asks

Authors of forms are known by a token that a user service vouches for.

* `Service.currentUser`: the user of a request; none of the endpoints that need one goes on without.
-/

namespace Questionnaire.Service

variable [Stack]

/-- The token in an authorization header: what follows the word `bearer`, in any case of its letters. -/
def bearerToken? (header : Option String) : Option String :=
  match header with
  | none => none
  | some value =>
    let (scheme, rest) := Text.splitAt ' ' value
    let token := Text.strip (rest.getD [])
    if scheme.lowerAscii = "bearer" && token ≠ [] then some token.string else none

/-- The refusal of a token. -/
def invalidToken : Refusal := .detail 401 "Invalid authentication token"

/-- The refusal of a request without a user. -/
def notAuthenticated : Refusal := .detail 401 "Not authenticated"

/-- The id of the user in the answer of the user service. -/
def userOf (reply : Reply) : Except Refusal Json :=
  match reply with
  | .unreachable _ => .error (.detail 401 "Authentication service unavailable")
  | .unwritable _ | .failure _ => .error invalidToken
  | .response status body =>
    if status ≠ 200 then .error invalidToken
    else
      match Json.parseSent body with
      | .ok (.obj fields) => .ok (Fields.get fields "id")
      | _ => .error invalidToken

/-- Where the user service vouches for tokens. -/
def tokenUrl (settings : Settings) : Except UrlError Url := do
  Url.empty.within (← Url.parse (settings.userServiceUrl ++ "/auth/v1/user"))

/-- The headers of a request about a token. -/
def tokenHeaders (settings : Settings) (token : String) : List (String × String) :=
  [("authorization", "Bearer " ++ token), ("apikey", settings.userServiceKey.string)]

/-- The request that asks the user service about a token, with its URL, if it can be sent. -/
def tokenRequest? (settings : Settings) (token : String) : Option (Url × OutboundRequest) :=
  let headers := tokenHeaders settings token
  match tokenUrl settings, headerFault? headers with
  | .ok url, none => if url.refusal?.isNone then some (url, .to url "GET" headers "") else none
  | _, _ => none

/-- The id of the user that a token belongs to. -/
def verified (setup : Setup) (token : String) : ServiceM Json := do
  let settings ← settings setup
  match tokenRequest? settings token with
  | none => throw invalidToken
  | some (url, request) =>
    let reply ← nextReply
    record (some request)
    match url.heard reply with
    | .error _ => throw invalidToken
    | .ok reply =>
      match userOf reply with
      | .ok id => return id
      | .error refusal => throw refusal

/-- The id of the user of a request, which is not empty. -/
def currentUser (setup : Setup) (r : Received) : ServiceM Json := do
  match bearerToken? (r.header? "authorization") with
  | none => throw notAuthenticated
  | some token =>
    let id ← verified setup token
    if id.isEmpty then throw notAuthenticated else return id

end Questionnaire.Service
