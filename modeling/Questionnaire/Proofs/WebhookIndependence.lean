import Questionnaire.Proofs.Submissions

/-!
# What a submission is answered without its webhook

Two submissions of the same answers, one to a form with an address to deliver to and one to the same form without,
are answered alike whatever becomes of the delivery, but for one case: there is an address to lead to, and the
answer to a multiple choice question selects an option that has no text, as it holds an integer too large or is
nested too deeply. Then the payload cannot be made, and the submission that would have been a success fails for
its webhook.

* `Service.Incoming.Submits`: a request submits answers to a form, brought along or stored.
* `Service.told_of_submits`, `Service.sent_of_submits`: what its client is told, and what other services are asked.
* `Service.told_alike_without_webhook_iff`: when two such submissions are told alike.
* `Service.told_apart_by_huge_choice`: two that are not.
-/

namespace Questionnaire

namespace Form

/-- The form without an address to deliver to. -/
def withoutWebhook (form : Form) : Form := { form with settings := { form.settings with webhookUrl := [] } }

/-- Do answers lead to an address that can be sent? -/
def LeadsTo [Stack] (form : Form) (A : Answers) (address : Text) : Prop := form.redirect A = .ok address ∧ address.Whole

end Form

namespace Endpoint

/-- Below the router a path serves the submit endpoint to `POST` only. -/
theorem method_of_mem_atSegments {segments : List String} {e : String × Endpoint} (he : e ∈ atSegments segments)
    (hsubmit : e.2 = .submit) : e.1 = "POST" := by
  have hall : ∀ e ∈ atSegments segments, e.2 = .submit → e.1 = "POST" := by
    unfold atSegments
    split <;> simp
  exact hall e he hsubmit

/-- The prefix of the router does not change by which method the submit endpoint is reached. -/
theorem method_of_mem_atFullSegments {segments : List String} {e : String × Endpoint}
    (he : e ∈ atFullSegments segments) (hsubmit : e.2 = .submit) : e.1 = "POST" := by
  unfold atFullSegments at he
  split at he
  · exact method_of_mem_atSegments he hsubmit
  · simp at he

/-- No path of the application offers the submit endpoint to any method but `POST`. -/
theorem method_of_mem_atPath {path : String} {e : String × Endpoint} (he : e ∈ atPath path)
    (hsubmit : e.2 = .submit) : e.1 = "POST" := by
  unfold atPath at he
  split at he
  · dsimp only at he
    split at he
    · exact method_of_mem_atFullSegments he hsubmit
    · exact method_of_mem_atFullSegments (List.mem_filter.mp he).1 hsubmit
  · simp at he

/-- Only a request that posts submits. -/
theorem method_of_find_submit {method path : String} (h : find method path = .ok .submit) : method = "POST" := by
  unfold find at h
  split at h
  · cases h
  · cases hlookup : (atPath path).lookup method with
    | none =>
      rw [hlookup] at h
      cases h
    | some endpoint =>
      rw [hlookup] at h
      obtain rfl := Except.ok.inj h
      obtain ⟨before, after, hsplit, -⟩ := List.lookup_eq_some_iff.mp hlookup
      have hmem : (method, .submit) ∈ atPath path := by simp [hsplit]
      exact method_of_mem_atPath hmem rfl

end Endpoint

namespace Service

variable {setup : Setup} {settings : Settings}

/-! ## What a submission comes to -/

/-- A request submits answers to a form. -/
def Incoming.Submits [Stack] (setup : Setup) (c : Connection) (i : Incoming) (form : Form) (A : Answers) : Prop :=
  ∃ r json request, i.Reaches r .submit ∧ setup.outage = none ∧ body r = pure (some json) ∧
    (SubmitRequest.shape json).result = .ok request ∧ request.IsAbout c form ∧ request.answers = A

/-- What the client is told. -/
def Handled.told (h : Handled) : Except NoResponse Told := h.response.map Delivered.told

/-- A client is told an address that can be sent, and else a failure. -/
def Told.ofSubmission : Except TextError (Text × Option Scheduled) → Told
  | .ok (address, _) => if address.Whole then ⟨200, .bool true, .str address⟩ else .failure
  | .error _ => .failure

variable {i j : Incoming} {c d : Connection} {form : Form} {A : Answers}

/-- A submission is told what its redirect and its scheduling give, whatever the webhook answers. -/
theorem told_of_submits [Stack] (hsettings : Settings.read setup.environment = .ok settings)
    (h : i.Submits setup c form A) :
    (i.handle setup c).told = .ok (Told.ofSubmission (form.submission A)) := by
  obtain ⟨r, json, request, hreaches, hstore, hbody, hrequest, hform, rfl⟩ := h
  have hmethod : r.method ≠ "HEAD" := by
    rw [Endpoint.method_of_find_submit hreaches.2.2]
    decide
  obtain ⟨hresult, -⟩ := run_respond hsettings hstore hbody hrequest
    (x := { connection := c, replies := i.replies }) hform
  rw [handle_of_reaches hreaches, Handled.told]
  dsimp only
  -- What was sent is settled; an address with a lone surrogate is the only thing left that can spoil the answer.
  rw [hresult]
  rcases form.submission request.answers with e | ⟨address, scheduled⟩
  · exact told_detail hmethod e
  · by_cases hwhole : address.Whole
    · rw [Told.ofSubmission, if_pos hwhole]
      exact told_acknowledgement hmethod hwhole scheduled.isSome
    · rw [Told.ofSubmission, if_neg hwhole]
      exact told_unsendable hsettings hmethod hwhole scheduled.isSome

/-- What a submission asks of other services. -/
theorem sent_of_submits [Stack] (hsettings : Settings.read setup.environment = .ok settings)
    (h : i.Submits setup c form A) :
    (i.handle setup c).sent = [] ∨ ∃ address scheduled, form.submission A = .ok (address, scheduled) ∧
      address.Whole ∧ (i.handle setup c).sent = posts scheduled := by
  obtain ⟨r, json, request, hreaches, hstore, hbody, hrequest, hform, rfl⟩ := h
  obtain ⟨-, more, hsent, hmore⟩ := run_respond hsettings hstore hbody hrequest
    (x := { connection := c, replies := i.replies }) hform
  rw [handle_of_reaches hreaches]
  dsimp only
  rw [hsent, List.nil_append]
  rcases hmore with rfl | ⟨response, scheduled, hresult, hwritten, rfl⟩
  · exact .inl rfl
  · right
    -- the result is that of the submission, and it was sent, so its address could be written
    rcases hsubmission : form.submission request.answers with e | ⟨address, scheduled'⟩
    · rw [hsubmission] at hresult
      cases hresult
    · rw [hsubmission] at hresult
      obtain ⟨rfl, rfl⟩ : .ok (acknowledgement address scheduled'.isSome) = response ∧ scheduled' = scheduled :=
        Prod.mk.inj (Except.ok.inj hresult)
      refine ⟨address, _, rfl, ?_, rfl⟩
      change (Content.answer _).written.isOk = true at hwritten
      rw [written_acknowledgement] at hwritten
      rw [Text.Whole, ← Text.utf8Fault?_eq_none_iff]
      cases hfault : Text.utf8Fault? address with
      | none => rfl
      | some e =>
        rw [hfault] at hwritten
        cases hwritten

/-- Without a webhook the address is all that matters. -/
theorem submission_withoutWebhook [Stack] (form : Form) (A : Answers) :
    form.withoutWebhook.submission A = (form.redirect A).map fun address => (address, none) := by
  have hredirect : form.withoutWebhook.redirect A = form.redirect A := rfl
  have hurl : form.withoutWebhook.settings.webhookUrl = [] := rfl
  simp only [Form.submission, hredirect, if_pos hurl]
  cases form.redirect A <;> rfl

/-- With one, the payload is made as well. -/
theorem submission_of_webhook [Stack] {form : Form} (hurl : form.settings.webhookUrl ≠ []) (A : Answers) :
    form.submission A = (form.redirect A).bind fun address =>
      (form.payload A).map fun payload => (address, some ⟨form.settings.webhookUrl, payload⟩) := by
  simp only [Form.submission, if_neg hurl]
  cases form.redirect A with
  | error e => rfl
  | ok address => cases form.payload A <;> rfl

/-- What is scheduled is the payload, for the address of the form. -/
theorem payload_of_submission [Stack] {address : Text} {s : Scheduled} (h : form.submission A = .ok (address, some s)) :
    s.url = form.settings.webhookUrl ∧ form.payload A = .ok s.payload := by
  by_cases hurl : form.settings.webhookUrl = []
  · simp only [Form.submission, if_pos hurl] at h
    cases hredirect : form.redirect A <;> rw [hredirect] at h <;> cases h
  · rw [submission_of_webhook hurl] at h
    cases hredirect : form.redirect A with
    | error e =>
      rw [hredirect] at h
      cases h
    | ok address =>
      cases hpayload : form.payload A with
      | error e =>
        rw [hredirect, hpayload] at h
        cases h
      | ok payload =>
        rw [hredirect, hpayload] at h
        cases h
        exact ⟨rfl, rfl⟩

/-- Without a webhook a client is told of a failure unless there is an address that can be sent. -/
theorem told_withoutWebhook_eq_failure_iff [Stack] (form : Form) (A : Answers) :
    Told.ofSubmission (form.withoutWebhook.submission A) = .failure ↔ ¬ ∃ address, form.LeadsTo A address := by
  rw [submission_withoutWebhook]
  cases hredirect : form.redirect A with
  | error e => simp [Except.map, Told.ofSubmission, Form.LeadsTo, hredirect]
  | ok address =>
    by_cases hwhole : address.Whole
    · simp [Except.map, Told.ofSubmission, Form.LeadsTo, hredirect, hwhole, Told.failure]
    · simp [Except.map, Told.ofSubmission, Form.LeadsTo, hredirect, hwhole]

/-- Where the payload can be made, a client is told the same with a webhook. -/
theorem told_of_payload [Stack] {form : Form} {A : Answers}
    (h : form.settings.webhookUrl = [] ∨ ¬ form.SelectsTextless A) :
    Told.ofSubmission (form.submission A) = Told.ofSubmission (form.withoutWebhook.submission A) := by
  by_cases hurl : form.settings.webhookUrl = []
  · rw [submission_withoutWebhook]
    simp only [Form.submission, if_pos hurl]
    cases form.redirect A <;> rfl
  · obtain ⟨payload, hpayload⟩ : ∃ payload, form.payload A = .ok payload := by
      rw [exists_eq_ok_iff, form.payload_fails_iff A]
      exact h.resolve_left hurl
    rw [submission_withoutWebhook, submission_of_webhook hurl, hpayload]
    cases form.redirect A <;> rfl

/-- Where it cannot, the client is told of a failure. -/
theorem told_of_selectsTextless [Stack] {form : Form} {A : Answers} (hurl : form.settings.webhookUrl ≠ [])
    (h : form.SelectsTextless A) : Told.ofSubmission (form.submission A) = .failure := by
  obtain ⟨e, hpayload⟩ := (form.payload_fails_iff A).mpr h
  rw [submission_of_webhook hurl, hpayload]
  cases form.redirect A <;> rfl

/-- Without a webhook nothing is asked of other services. -/
theorem sent_of_submits_withoutWebhook [Stack] (hsettings : Settings.read setup.environment = .ok settings)
    (h : i.Submits setup c form.withoutWebhook A) : (i.handle setup c).sent = [] := by
  rcases sent_of_submits hsettings h with hnone | ⟨address, scheduled, hsubmission, -, hsent⟩
  · exact hnone
  · rw [submission_withoutWebhook] at hsubmission
    cases hredirect : form.redirect A with
    | error e =>
      rw [hredirect] at hsubmission
      cases hsubmission
    | ok address =>
      rw [hredirect] at hsubmission
      cases hsubmission
      exact hsent

/-- One submission posts to the webhook at most once. -/
theorem length_sent_of_submits_le [Stack] (hsettings : Settings.read setup.environment = .ok settings)
    (h : i.Submits setup c form A) : (i.handle setup c).sent.length ≤ 1 := by
  rcases sent_of_submits hsettings h with hnone | ⟨address, scheduled, -, -, hsent⟩
  · rw [hnone]
    exact Nat.zero_le 1
  · rw [hsent]
    exact length_posts_le scheduled

/-- With one, nothing but the delivery of the payload is asked. -/
theorem delivers_of_mem_sent [Stack] (hsettings : Settings.read setup.environment = .ok settings)
    (h : i.Submits setup c form A) {request : OutboundRequest} (hrequest : request ∈ (i.handle setup c).sent) :
    ∃ payload target, form.payload A = .ok payload ∧
      Webhook.request form.settings.webhookUrl (.obj payload) = .ok (target, request) := by
  rcases sent_of_submits hsettings h with hnone | ⟨address, scheduled, hsubmission, -, hsent⟩
  · rw [hnone] at hrequest
    cases hrequest
  · rw [hsent] at hrequest
    obtain ⟨s, rfl, target, hmade⟩ := mem_posts hrequest
    obtain ⟨hurl, hpayload⟩ := payload_of_submission hsubmission
    rw [← hurl]
    exact ⟨s.payload, target, hpayload, hmade⟩

/-! ## A stored form, with and without a webhook -/

/-- A form with a multiple choice question that offers nothing. -/
def choiceForm (webhookUrl : Text) : Form where
  title := "T"
  description := ""
  questions := [{ Question.bare "q" (.multipleChoice []) [] .all with text := "Q", conditions? := none }]
  settings := { FormSettings.standard with webhookUrl }

/-- Where it is stored. -/
def choiceTables (webhookUrl : Text) : Tables where
  forms := [[("id", .str "f"), ("title", .str "T")]]
  versions := [[("id", .str "v"), ("form_id", .str "f"), ("form_data", .obj [
    ("questions", .arr [.obj [("id", .str "q"), ("text", .str "Q"), ("type", .str "multiple_choice")]]),
    ("settings", .obj [("zapierWebhookUrl", .str webhookUrl)])])]]

/-- A list with a number in it is submitted as the answer to its question. -/
def choiceBody (digits : List Char) : String :=
  "\x7b\"form_id\": \"f\", \"answers\": \x7b\"q\": [" ++ String.ofList digits ++ "]\x7d\x7d"

/-- The submission of one number as the answer of the multiple choice. -/
def choiceRequest (digits : List Char) : Request where
  method := "POST"
  target := "/api/forms/submit"
  body := .text (choiceBody digits)

/-- The store gives back the form of the multiple choice, with its webhook and without. -/
theorem definition_choice : ∀ webhookUrl ∈ ([[], "http://hook"] : List Text),
    ((Store.definition "f" none none).run.run { tables := choiceTables webhookUrl }).1 =
      .ok (choiceForm webhookUrl) := by
  decide +kernel

/-- A body that is read as it was meant submits the number, with and without a webhook. -/
theorem submits_choice [Stack] (digits : List Char) {n : Int}
    (hsent : (choiceRequest digits).sent = .ok ⟨"POST", "/api/forms/submit", [], some (choiceBody digits)⟩)
    (hparse : Json.parseSent (choiceBody digits) =
      .ok (.obj [("form_id", .str "f"), ("answers", .obj [("q", .arr [.int n])])])) (replies : List Reply) :
    ∀ webhookUrl ∈ ([[], "http://hook"] : List Text),
      Incoming.Submits { environment := requiredVariables } { tables := choiceTables webhookUrl }
        ⟨choiceRequest digits, replies⟩ (choiceForm webhookUrl) [("q", .arr [.int n])] := by
  intro webhookUrl hurl
  have hfind : Endpoint.find "POST" "/api/forms/submit" = .ok .submit := by decide +kernel
  have htype : isJsonType "application/json" = true := by decide +kernel
  refine ⟨_, .obj [("form_id", .str "f"), ("answers", .obj [("q", .arr [.int n])])],
    ⟨none, some "f", none, [("q", .arr [.int n])]⟩, ⟨hsent, rfl, hfind⟩, rfl, ?_, rfl,
    definition_choice webhookUrl hurl, rfl⟩
  have hjson : isJsonType (((⟨"POST", "/api/forms/submit", [], some (choiceBody digits)⟩ : Received).header?
      "content-type").getD "application/json") = true := htype
  simp only [body, hjson, if_true, hparse]

/-- The text of a body. -/
def choiceText (digits : List Char) : Text :=
  Text.ofString "\x7b\"form_id\": \"f\", \"answers\": \x7b\"q\": [" ++ digits.map .char ++
    Text.ofString "]\x7d\x7d"

/-- The body of such a submission, character by character. -/
theorem ofString_choiceBody (digits : List Char) : Text.ofString (choiceBody digits) = choiceText digits := by
  have happend (a b : String) :
      Text.ofString (a ++ String.ofList digits ++ b) = Text.ofString a ++ digits.map .char ++ Text.ofString b := by
    have hdigits : Text.ofString (String.ofList digits) = digits.map .char := by
      rw [Text.ofString, String.toList_ofList]
    rw [Text.ofString_append, Text.ofString_append, hdigits]
  exact happend _ _

/-- The digits of an integer that is too large. -/
def hugeDigits : List Char := List.replicate 309 '9'

/-- The body with the 309 digits is read, since it has fewer digits than the reader refuses. -/
theorem parseSent_hugeDigits : Json.parseSent (choiceBody hugeDigits) =
    .ok (.obj [("form_id", .str "f"), ("answers", .obj [("q", .arr [.int (10 ^ 309 - 1 : Nat)])])]) := by
  have hbytes : Text.ByteForm.ofBytes (choiceBody hugeDigits).toUTF8.toList = .bytes := by decide +kernel
  have hmark : (choiceText hugeDigits).head? ≠ some (.char '\ufeff') := by decide +kernel
  have hparse : Json.Reader.parseText Text.maxDigits Stack.readingRoom (choiceText hugeDigits) =
      .ok (.obj [("form_id", .str "f"), ("answers", .obj [("q", .arr [.int (10 ^ 309 - 1 : Nat)])])]) := by
    decide +kernel
  rw [Json.parseSent_of_bytes (ofString_choiceBody hugeDigits) hbytes hmark]
  exact hparse

/-! ## Two submissions -/

/-- **What a submission is answered depends on the webhook only where its payload cannot be made.** The settings can
be read, or else the service would not have started. Then a submission to a form and one of the same answers to the
form without an address to deliver to are told alike, whatever the other side replies, exactly if there is no such
address, or the payload can be made, or there is no address to lead to that could be sent. In the other case the
first is told of a failure and the second, like every submission that is led to an address, of a success. Of other
services nothing is asked but the delivery of the payload, once, and a delivery never fails for the service. -/
theorem told_alike_without_webhook_iff [Stack] (setup : Setup) (settings : Settings)
    (hsettings : Settings.read setup.environment = .ok settings) (i j : Incoming) (c d : Connection) (form : Form)
    (A : Answers) (hi : i.Submits setup c form A) (hj : j.Submits setup d form.withoutWebhook A) :
    ((i.handle setup c).told = (j.handle setup d).told ↔
      form.settings.webhookUrl = [] ∨ ¬ form.SelectsTextless A ∨ ¬ ∃ address, form.LeadsTo A address) ∧
    ((i.handle setup c).told ≠ (j.handle setup d).told → (i.handle setup c).told = .ok .failure) ∧
    (∀ address, form.LeadsTo A address → (j.handle setup d).told = .ok ⟨200, .bool true, .str address⟩) ∧
    (∀ replies, ({ i with replies }.handle setup c).told = (i.handle setup c).told) ∧
    (j.handle setup d).sent = [] ∧ (i.handle setup c).sent.length ≤ 1 ∧
    (∀ request ∈ (i.handle setup c).sent, ∃ payload target, form.payload A = .ok payload ∧
      Webhook.request form.settings.webhookUrl (.obj payload) = .ok (target, request)) ∧
    ∀ scheduled x, ∃ replies,
      (deliver scheduled).run.run x = (.ok (), { x with replies, sent := x.sent ++ posts scheduled }) := by
  have htold := told_of_submits hsettings hi
  have hplain := told_of_submits hsettings hj
  rw [htold, hplain, Except.ok.injEq, Except.ok.injEq]
  -- With a webhook and a selected option without a text the payload fails, and so does the request.
  have happart (h : ¬ (form.settings.webhookUrl = [] ∨ ¬ form.SelectsTextless A)) :
      Told.ofSubmission (form.submission A) = .failure := by
    obtain ⟨hurl, hselects⟩ := not_or.mp h
    exact told_of_selectsTextless hurl (not_not.mp hselects)
  refine ⟨?_, ?_, ?_, ?_, sent_of_submits_withoutWebhook hsettings hj, length_sent_of_submits_le hsettings hi,
    fun _ => delivers_of_mem_sent hsettings hi, run_deliver⟩
  -- A payload that fails is told as a failure, which the bare form is told only when it leads nowhere.
  · rw [← told_withoutWebhook_eq_failure_iff, ← or_assoc]
    by_cases hmade : form.settings.webhookUrl = [] ∨ ¬ form.SelectsTextless A
    · exact iff_of_true (told_of_payload hmade) (.inl hmade)
    · rw [happart hmade, or_iff_right hmade, eq_comm]
  · intro hdiffer
    by_cases hmade : form.settings.webhookUrl = [] ∨ ¬ form.SelectsTextless A
    · exact absurd (congrArg Except.ok (told_of_payload hmade)) hdiffer
    · rw [happart hmade]
  · rintro address ⟨hredirect, hwhole⟩
    rw [submission_withoutWebhook, hredirect]
    simp only [Except.map, Told.ofSubmission, if_pos hwhole]
  · intro replies
    have hreplies : { i with replies }.Submits setup c form A := hi
    exact told_of_submits hsettings hreplies

/-- A webhook that is down does no harm. -/
theorem told_alike_when_webhook_is_down :
    let setup : Setup := { environment := requiredVariables }
    let i : Incoming := ⟨choiceRequest ['7'], [.unreachable "refused"]⟩
    (i.handle setup { tables := choiceTables "http://hook" }).told = .ok ⟨200, .bool true, .str ""⟩ ∧
      (i.handle setup { tables := choiceTables [] }).told = .ok ⟨200, .bool true, .str ""⟩ := by
  intro setup i
  have hsubmits := submits_choice ['7'] (n := 7) (by decide +kernel) (by decide +kernel) i.replies
  have hi := hsubmits "http://hook" (by decide)
  have hj := hsubmits [] (by decide)
  obtain ⟨halike, -, hleads, -⟩ :=
    told_alike_without_webhook_iff setup requiredSettings read_requiredVariables i i _ _ (choiceForm "http://hook") _
      hi hj
  -- The only option is the number 7, which neither overflows nor nests.
  have hsmall : ¬ (choiceForm "http://hook").SelectsTextless [("q", .arr [.int 7])] := by
    rintro ⟨entry, hentry, q, -, -, option, hoption, htextless⟩
    obtain rfl := List.mem_singleton.mp hentry
    obtain rfl := List.mem_singleton.mp hoption
    rcases htextless with hoverflows | ⟨hstructured, -⟩
    · rw [Json.overflows_int] at hoverflows
      exact absurd hoverflows (by decide +kernel)
    · cases hstructured
  have hplain := hleads "" ⟨rfl, Text.whole_ofString ""⟩
  exact ⟨(halike.mpr (.inr (.inl hsmall))).trans hplain, hplain⟩

/-- Where a number beyond all doubles is chosen, a submission fails that would succeed without a webhook. -/
theorem told_apart_by_huge_choice :
    let setup : Setup := { environment := requiredVariables }
    let i : Incoming := ⟨choiceRequest hugeDigits, []⟩
    (i.handle setup { tables := choiceTables "http://hook" }).told = .ok ⟨500, .null, .null⟩ ∧
      (i.handle setup { tables := choiceTables [] }).told = .ok ⟨200, .bool true, .str ""⟩ := by
  intro setup i
  have hsubmits := submits_choice hugeDigits (by decide +kernel) parseSent_hugeDigits i.replies
  have hi := hsubmits "http://hook" (by decide)
  have hj := hsubmits [] (by decide)
  rw [told_of_submits read_requiredVariables hi, told_of_submits read_requiredVariables hj]
  decide +kernel

end Service
end Questionnaire
