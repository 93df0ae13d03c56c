import Questionnaire.Proofs.CompactReading
import Questionnaire.Proofs.Exchanges
import Questionnaire.Proofs.FailedRedirects
import Questionnaire.Proofs.Loading

/-!
# Submissions

Where answers lead is found first. If the form has an address to deliver to, the payload is made next, while the
request is still being answered; only the delivery itself comes after the answer. So a payload that cannot be made
leaves no answer but a failure, and what comes of the delivery leaves no trace at all.

* `Form.payload_fails_iff`: when the payload cannot be made.
* `Service.run_deliver`: a delivery ends well for the service, and makes one request at most.
* `Service.run_respond`: what a submission is answered, and what is asked of other services.
* `Told`: what a client is told of its submission, read from the response as it is sent.
-/

namespace Questionnaire

/-! ## Payloads -/

/-- The options that an answer to a multiple choice question selects: the items of a list, or else itself. -/
def Json.options : Json → List Json
  | .arr items => items
  | v => [v]

namespace Question

variable [Stack]

/-- What names a choice is a text, and so is the choice. -/
theorem optionText_fails_iff (q : Question) (option : Json) :
    (∃ e, q.optionText option = .error e) ↔ option.LacksText := by
  cases option with
  | str id =>
    have htext : ∃ t, q.readableOption (.str id) = .str t := by
      cases hchoice : q.choice? id with
      | none => exact ⟨id, by simp [readableOption, hchoice]⟩
      | some choice => exact ⟨choice.text, by simp [readableOption, hchoice]⟩
    obtain ⟨t, ht⟩ := htext
    have hfound : ¬ (Json.str id).LacksText := by simp [Json.LacksText, Json.IsTooDeep, Json.isStructured]
    simp [optionText, ht, Json.answerText, hfound]
  | _ => exact Json.answerText_fails_iff _

/-- An answer cannot be told in readable words exactly if it selects an option that has no text. -/
theorem readable_fails_iff (q : Question) (answer : Json) :
    (∃ e, q.readable answer = .error e) ↔
      q.kind = .multipleChoice ∧ ∃ option ∈ answer.options, option.LacksText := by
  unfold readable
  cases hkind : q.kind with
  | multipleChoice =>
    simp only [bind_pure_comp, map_eq_error_iff, true_and]
    exact mapM_fails_iff.trans (exists_congr fun option => and_congr_right fun _ => q.optionText_fails_iff option)
  | _ => simp

end Question

namespace Form

section

variable [Stack]

/-- Does an answer to a multiple choice question select an option that has no text? -/
def SelectsTextless (form : Form) (A : Answers) : Prop :=
  ∃ entry ∈ A, ∃ q, form.question? entry.1 = some q ∧ q.kind = .multipleChoice ∧
    ∃ option ∈ entry.2.options, option.LacksText

/-- An entry fails only at a multiple choice with a selected option that has no text. -/
theorem payloadEntry_fails_iff (form : Form) (id : Text) (answer : Json) :
    (∃ e, form.payloadEntry id answer = .error e) ↔ ∃ q, form.question? id = some q ∧ q.kind = .multipleChoice ∧
      ∃ option ∈ answer.options, option.LacksText := by
  unfold payloadEntry
  cases form.question? id with
  | none => cases answer <;> simp
  | some q =>
    cases answer with
    | null => simp [Json.options, Json.LacksText, Json.IsTooDeep, Json.isStructured]
    | _ => simp only [bind_pure_comp, map_eq_error_iff, q.readable_fails_iff, Option.some.injEq, exists_eq_left']

/-- **The payload cannot be made exactly if an option without a text is selected.** -/
theorem payload_fails_iff (form : Form) (A : Answers) :
    (∃ e, form.payload A = .error e) ↔ form.SelectsTextless A := by
  simp only [payload, bind_pure_comp, map_eq_error_iff, mapM_fails_iff, payloadEntry_fails_iff, SelectsTextless]

/-- Where answers lead, and what is to be delivered if the form has an address for it. -/
def submission (form : Form) (A : Answers) : Except TextError (Text × Option Service.Scheduled) := do
  let address ← form.redirect A
  if form.settings.webhookUrl = [] then return (address, none)
  let payload ← form.payload A
  return (address, some ⟨form.settings.webhookUrl, payload⟩)

end

end Form

/-! ## Deliveries -/

/-- The request that delivers a payload, if one is made. -/
def Webhook.posted? (url : Text) (payload : Json) : Option OutboundRequest :=
  if url = [] then none else (request url payload).toOption.map (·.2)

/-- Whether a request is made, and which, does not depend on the reply. -/
theorem Webhook.deliver_request (url : Text) (payload : Json) (reply : Reply) :
    (deliver url payload reply).request = posted? url payload := by
  unfold deliver posted?
  by_cases hurl : url = []
  · rw [if_pos hurl, if_pos hurl]
  · rw [if_neg hurl, if_neg hurl]
    rcases request url payload with e | ⟨target, request⟩
    · rfl
    · dsimp only
      cases target.heard reply <;> rfl

/-- What is posted is the request that the address and the payload make. -/
theorem Webhook.posted?_eq_some {url : Text} {payload : Json} {posted : OutboundRequest}
    (h : posted? url payload = some posted) : ∃ target, request url payload = .ok (target, posted) := by
  unfold posted? at h
  split at h
  · cases h
  · rcases hrequest : request url payload with e | ⟨target, made⟩
    · rw [hrequest] at h
      cases h
    · rw [hrequest] at h
      obtain rfl : made = posted := Option.some.inj h
      exact ⟨target, rfl⟩

namespace Service

/-- The requests that deliver what is scheduled: one at most. -/
def posts (scheduled : Option Scheduled) : List OutboundRequest :=
  (scheduled.bind fun s => Webhook.posted? s.url (.obj s.payload)).toList

/-- One scheduled delivery is at most one request. -/
theorem length_posts_le (scheduled : Option Scheduled) : (posts scheduled).length ≤ 1 :=
  Option.length_toList_le

/-- What is posted is the payload. -/
theorem mem_posts {scheduled : Option Scheduled} {request : OutboundRequest} (h : request ∈ posts scheduled) :
    ∃ s, scheduled = some s ∧ ∃ target, Webhook.request s.url (.obj s.payload) = .ok (target, request) := by
  obtain ⟨s, hs, hposted⟩ := Option.bind_eq_some_iff.mp (Option.mem_toList.mp h)
  exact ⟨s, hs, Webhook.posted?_eq_some hposted⟩

/-- **A delivery ends well for the service**, whatever the other side replies. -/
theorem run_deliver (scheduled : Option Scheduled) (x : Exchange) :
    ∃ replies, (deliver scheduled).run.run x = (.ok (), { x with replies, sent := x.sent ++ posts scheduled }) := by
  cases scheduled with
  | none => exact ⟨x.replies, by rw [posts, Option.bind_none, Option.toList_none, List.append_nil]; rfl⟩
  | some s =>
    have hrun : (deliver (some s)).run.run x =
        (record (Webhook.deliver s.url (.obj s.payload) ((x.replies.head?).getD .standard)).request).run.run x := rfl
    rw [hrun, Webhook.deliver_request, posts, Option.bind_some]
    cases Webhook.posted? s.url (.obj s.payload) with
    | none => exact ⟨x.replies, by rw [Option.toList_none, List.append_nil]; rfl⟩
    | some request => exact ⟨x.replies.tail, rfl⟩

/-! ## Answers to a submission -/

/-- What a submission is answered with. -/
def acknowledgement (address : Text) (scheduled : Bool) : Json :=
  .obj [("success", .bool true), ("redirect_url", .str address), ("webhook_scheduled", .bool scheduled)]

/-- Is a submission about the form? It brings the form along, or the form is stored under the names it gives. -/
def SubmitRequest.IsAbout (request : SubmitRequest) (c : Connection) (form : Form) : Prop :=
  match request.form with
  | some brought => brought = form
  | none => ((Store.definition (request.formId.getD []) request.versionId none).run.run c).1 = .ok form

variable {setup : Setup} {settings : Settings} {r : Received} {form : Form} {A : Answers}

/-- What an endpoint gives for where answers lead and what is to be delivered. -/
def submissionResult : Except TextError (Text × Option Scheduled) → Except Refusal (Response × Option Scheduled)
  | .ok (address, scheduled) => .ok (.ok (acknowledgement address scheduled.isSome), scheduled)
  | .error e => .error (.detail 500 e.message)

/-- The submit endpoint answers what the submission gives and leaves replies and sent requests alone. -/
theorem run_submit [Stack] (hsettings : Settings.read setup.environment = .ok settings) {request : SubmitRequest}
    {x : Exchange} (hform : request.IsAbout x.connection form) :
    ∃ c, (submit setup request).run.run x =
      (submissionResult (form.submission request.answers), { x with connection := c }) := by
  unfold submit
  extract_lets rest
  -- what follows once the form is known leaves the exchange as it is
  have hrest : ∀ y, (rest form).run.run y = (submissionResult (form.submission request.answers), y) := by
    intro y
    have hreported : (reportedSettings setup).run.run y = (.ok settings, y) := by
      unfold reportedSettings
      rw [hsettings]
      rfl
    unfold rest Form.submission
    cases hredirect : form.redirect request.answers with
    | error e => rfl
    | ok address =>
      by_cases hurl : form.settings.webhookUrl = []
      · simp only [orTextError, pure_bind, if_pos hurl]
        rfl
      · cases hpayload : form.payload request.answers with
        | error e =>
          simp only [orTextError, pure_bind, if_neg hurl]
          rfl
        | ok payload =>
          simp only [orTextError, pure_bind, if_neg hurl]
          rw [run_bind, hreported]
          rfl
  unfold SubmitRequest.IsAbout at hform
  -- the form is brought along, or it is loaded, which asks the store
  cases hbrought : request.form with
  | some brought =>
    rw [hbrought] at hform
    obtain rfl : brought = form := hform
    exact ⟨x.connection, hrest x⟩
  | none =>
    rw [hbrought] at hform
    refine ⟨((Store.definition (request.formId.getD []) request.versionId none).run.run x.connection).2, ?_⟩
    rw [run_bind, run_store, hform]
    exact hrest _

/-- A submission is answered, and then delivered if the answer can be sent. -/
theorem run_respond [Stack] (hsettings : Settings.read setup.environment = .ok settings) (hstore : setup.outage = none)
    {json : Json} {request : SubmitRequest} (hbody : body r = pure (some json))
    (hrequest : (SubmitRequest.shape json).result = .ok request) {x : Exchange}
    (hform : request.IsAbout x.connection form) :
    let ran := (respond setup r .submit).run.run x
    let result := submissionResult (form.submission request.answers)
    ran.1 = result.map (·.1) ∧
      ∃ more, ran.2.sent = x.sent ++ more ∧ (more = [] ∨ ∃ response scheduled,
        result = .ok (response, scheduled) ∧ response.content.written.isOk = true ∧ more = posts scheduled) := by
  intro ran result
  obtain ⟨c, hsubmit⟩ := run_submit hsettings hform
  -- the answer alone, before anything is written or delivered
  have hanswer : (answer setup r .submit).run.run x = (result, { x with connection := c }) := by
    have hstored : requireStore setup = pure () := by rw [requireStore, hstore]
    have hchecked : checked SubmitRequest.shape (some json) = pure request := by rw [checked, hrequest]
    simp only [answer, hbody, hstored, hchecked, pure_bind, hsubmit, result]
  have hran : ran = (respond setup r .submit).run.run x := rfl
  unfold respond at hran
  rw [run_bind, hanswer] at hran
  rcases hresult : result with e | ⟨response, scheduled⟩
  · rw [hresult] at hran
    rw [hran]
    exact ⟨rfl, [], (List.append_nil _).symm, .inl rfl⟩
  · rw [hresult] at hran
    dsimp only at hran
    split at hran
    · -- only an answer that can be written is followed by the delivery
      next hwritten =>
      obtain ⟨replies, hdelivered⟩ := run_deliver scheduled { x with connection := c }
      rw [run_bind, hdelivered] at hran
      rw [hran]
      exact ⟨rfl, _, rfl, .inr ⟨response, scheduled, rfl, hwritten, rfl⟩⟩
    · rw [hran]
      exact ⟨rfl, [], (List.append_nil _).symm, .inl rfl⟩

end Service

/-! ## What a client is told -/

/-- How a submission went, as far as its client is told; what is not there counts as null. -/
structure Told where
  status : Nat
  success : Json
  redirectUrl : Json
deriving DecidableEq

/-- What a response tells. -/
def Delivered.told (d : Delivered) : Told :=
  let v := (Json.parse d.body).toOption.getD .null
  { status := d.status, success := v.field "success", redirectUrl := v.field "redirect_url" }

/-- A failure is told by its status alone. -/
def Told.failure : Told := ⟨500, .null, .null⟩

/-- A response with a value that is read as it was tells what the value holds. -/
theorem Response.told_sent {response : Response} {method : String} {v : Json} (hmethod : method ≠ "HEAD")
    (hwritten : response.content.written = .ok v.write.string) (hexact : v.Exact) (hwhole : v.write.Whole) :
    ∃ d, response.sent method = .ok d ∧
      d.told = ⟨response.status, v.field "success", v.field "redirect_url"⟩ := by
  have hparse := hexact.parse_sent hwhole
  unfold sent
  rw [hwritten]
  refine ⟨_, rfl, ?_⟩
  simp only [if_neg hmethod, Delivered.told, hparse]
  rfl

/-- The wording of an encoding fault shows half a pair as an escape. -/
theorem EncodingFault.whole_message (e : EncodingFault) : Text.Whole e.message := by
  have hdigits : ∀ width n, Text.Whole (Text.hexDigits width n) := by
    intro width
    induction width with
    | zero => simp [Text.Whole, Text.hexDigits]
    | succ width ih =>
      intro n
      exact Text.whole_append.mpr ⟨ih _, by simp [Text.Whole, CodePoint.isHalf]⟩
  have hescaped : Text.Whole e.first.escaped := by
    unfold CodePoint.escaped
    dsimp only
    split_ifs <;> exact Text.whole_append.mpr ⟨Text.whole_ofString _, hdigits _ _⟩
  unfold message
  dsimp only
  split_ifs <;> simp only [Text.whole_append, Text.whole_ofString, hescaped, and_self]

/-- A report on an error is sent as it is. -/
theorem Content.written_report {v : Json} (hfinite : v.allFinite = true) (hwhole : v.write.Whole) :
    (Content.report v).written = .ok v.write.string := by
  rw [written, Json.sent, if_pos hfinite, hwhole.utf8_eq]
  rfl

namespace Service

variable {setup : Setup} {settings : Settings} {r : Received}

/-! ### The acknowledgement -/

/-- The acknowledgement is read back as it was written. -/
theorem exact_acknowledgement (address : Text) (scheduled : Bool) : (acknowledgement address scheduled).Exact := by
  have hdistinct : (["success", "redirect_url", "webhook_scheduled"] : List Text).Nodup := by decide
  refine .obj hdistinct ?_
  simp [Json.Exact.bool, Json.Exact.str]

/-- An acknowledgement of a sendable address is sendable. -/
theorem whole_write_acknowledgement {address : Text} (h : address.Whole) (scheduled : Bool) :
    (acknowledgement address scheduled).write.Whole := by
  refine Json.whole_write_obj ?_
  simp [Json.write, Text.whole_ofString, Json.whole_boolText, Json.whole_quote h]

/-- The acknowledgement can be sent unless its address holds half a pair. -/
theorem written_acknowledgement (address : Text) (scheduled : Bool) :
    (Content.answer (acknowledgement address scheduled)).written =
      match Text.utf8Fault? address with
      | none => .ok (acknowledgement address scheduled).write.string
      | some e => .error (Json.AnswerFault.unwritable e).message := by
  have hfault : Json.answerFault? Json.maxAnswerDepth (acknowledgement address scheduled) =
      ((Text.utf8Fault? address).map .unwritable).orElse fun _ => none := rfl
  rw [Content.written, Json.answered, hfault]
  cases Text.utf8Fault? address with
  | some e => rfl
  | none =>
    have hsame : (acknowledgement address scheduled).finite.withPlainKeys = acknowledgement address scheduled := by
      simp [acknowledgement, Json.finite, Json.finiteFields, Json.withPlainKeys, Json.withPlainKeysFields]
    dsimp only [Option.map, Option.orElse]
    rw [hsame]
    rfl

/-! ### Responses -/

/-- A response that is written, sendable and read back exactly tells its status and its two fields. -/
theorem told_delivered [Stack] (hmethod : r.method ≠ "HEAD") {response : Response} {v : Json}
    (hwritten : response.content.written = .ok v.write.string) (hexact : v.Exact) (hwhole : v.write.Whole) :
    (delivered setup r (.ok response)).map Delivered.told =
      .ok ⟨response.status, v.field "success", v.field "redirect_url"⟩ := by
  have hsendable : sendable setup r response = .ok (shared r response) := by
    unfold sendable
    rw [hwritten]
  have hsent : ∃ d, (shared r response).sent r.method = .ok d ∧ _ :=
    Response.told_sent hmethod hwritten hexact hwhole
  obtain ⟨d, hd, htold⟩ := hsent
  simp only [delivered, hsendable, hd, Except.mapError, Except.map, htold]
  rfl

/-- **Who is led to an address that can be sent is told so.** -/
theorem told_acknowledgement [Stack] (hmethod : r.method ≠ "HEAD") {address : Text} (h : address.Whole)
    (scheduled : Bool) :
    (delivered setup r (.ok (.ok (acknowledgement address scheduled)))).map Delivered.told =
      .ok ⟨200, .bool true, .str address⟩ := by
  have hwritten : (Response.ok (acknowledgement address scheduled)).content.written =
      .ok (acknowledgement address scheduled).write.string := by
    change (Content.answer _).written = _
    rw [written_acknowledgement, Text.utf8Fault?_eq_none_iff.mpr h]
  exact told_delivered hmethod hwritten (exact_acknowledgement address scheduled)
    (whole_write_acknowledgement h scheduled)

/-- Who is not led to an address for a value without a text is told of a failure. -/
theorem told_detail [Stack] (hmethod : r.method ≠ "HEAD") (e : TextError) :
    (delivered setup r (.error (.detail 500 e.message))).map Delivered.told = .ok .failure := by
  have hwhole : (Json.obj [("detail", .str e.message)]).write.Whole := by
    refine Json.whole_write_obj ?_
    cases e <;> simp [Json.write, Text.whole_ofString, Json.whole_quote, TextError.message, Stack.overflow]
  have hexact : (Json.obj [("detail", .str e.message)]).Exact :=
    .obj (by simp [Fields.keys]) (by simp [Json.Exact.str])
  have hwritten : (Response.detail 500 (.str e.message)).content.written = _ := Content.written_report rfl hwhole
  have hrefused : delivered setup r (.error (.detail 500 e.message)) =
      delivered setup r (.ok (.detail 500 (.str e.message))) := rfl
  rw [hrefused]
  exact told_delivered hmethod hwritten hexact hwhole

/-- An error that nothing expects is told as a failure. -/
theorem told_unexpected (settings : Settings) {method : String} (hmethod : method ≠ "HEAD") {cause : Text}
    (h : cause.Whole) : ∃ d, (unexpectedResponse settings cause).sent method = .ok d ∧ d.told = .failure := by
  let shown : Text := if settings.showsCauses then cause else "An unexpected error occurred"
  have hshown : shown.Whole := by
    unfold shown
    split
    · exact h
    · exact Text.whole_ofString _
  let report := Json.obj [("error", .str "Internal server error"), ("detail", .str shown)]
  have hwhole : report.write.Whole := by
    refine Json.whole_write_obj ?_
    simp [Json.write, Text.whole_ofString, Json.whole_quote, hshown]
  have hdistinct : (["error", "detail"] : List Text).Nodup := by decide
  have hexact : report.Exact := .obj hdistinct (by simp [Json.Exact.str])
  have hwritten : (unexpectedResponse settings cause).content.written = .ok report.write.string :=
    Content.written_report rfl hwhole
  exact Response.told_sent hmethod hwritten hexact hwhole

/-- Who is led to an address that holds half a pair is told of a failure, too. -/
theorem told_unsendable [Stack] (hsettings : Settings.read setup.environment = .ok settings)
    (hmethod : r.method ≠ "HEAD") {address : Text} (h : ¬ address.Whole) (scheduled : Bool) :
    (delivered setup r (.ok (.ok (acknowledgement address scheduled)))).map Delivered.told = .ok .failure := by
  obtain ⟨e, he⟩ : ∃ e, Text.utf8Fault? address = some e := by
    cases hfault : Text.utf8Fault? address with
    | some e => exact ⟨e, rfl⟩
    | none => exact absurd (Text.utf8Fault?_eq_none_iff.mp hfault) h
  let cause := (Json.AnswerFault.unwritable e).message
  have hcause : Text.Whole cause := Text.whole_append.mpr ⟨Text.whole_ofString _, e.whole_message⟩
  have hwritten : (Response.ok (acknowledgement address scheduled)).content.written = .error cause := by
    change (Content.answer _).written = _
    rw [written_acknowledgement, he]
  -- The encoding fault is answered in its place by the error response, whose message is sendable.
  have hsendable : sendable setup r (.ok (acknowledgement address scheduled)) =
      .ok (unexpectedResponse settings cause) := by
    unfold sendable
    rw [hwritten]
    simp only [unexpected, hsettings]
    rfl
  obtain ⟨d, hd, htold⟩ := told_unexpected settings hmethod hcause
  simp only [delivered, hsendable, hd, Except.mapError, Except.map, htold]

end Service
end Questionnaire
