import Questionnaire.Proofs.Exchanges
import Questionnaire.Proofs.History

/-!
# Who reaches the versions of a form

The endpoints for the versions of a form, and for the files made of one, first ask the user service whose token
a request bears, and then look at the row of the form. Only if the form is that user's do they go on; otherwise
they end there, without a look at any version. Later steps read rows again without asking whose they are, but
only rows of that form.

* `Service.Vouched`: the user service knows the token of a request.
* `Service.Guarded`: a step of answering that starts with both checks; `guarded_respond` that the endpoints do.
* `Service.Guarded.passes_or_refuses`: what becomes of such a step.
* `Store.SameRows`: tables with the same rows of a form; queries about the form cannot tell them apart.
* `version_endpoints_are_guarded`: requests that follow each other, whatever they hold.
-/

namespace Questionnaire

namespace Service

/-! ## Two checks -/

/-- The user service is asked about a token, and answers with an object. -/
inductive Answered [Stack] (setup : Setup) (replies : List Reply) (token : String) : OutboundRequest → Fields → Prop
  | intro {settings : Settings} {url : Url} {asked : OutboundRequest} {text : String} {fields : Fields}
      (hsettings : Settings.read setup.environment = .ok settings)
      (hasked : tokenRequest? settings token = some (url, asked))
      (hreply : replies.head?.getD .standard = .response 200 text)
      (hfields : Json.parseSent text = .ok (.obj fields)) : Answered setup replies token asked fields

/-- The user service, asked about the token of a request, names the user: somebody whose id is not empty. -/
inductive Vouched [Stack] (setup : Setup) (r : Received) (replies : List Reply) : OutboundRequest → Json → Prop
  | intro {token : String} {asked : OutboundRequest} {fields : Fields}
      (htoken : bearerToken? (r.header? "authorization") = some token)
      (hanswered : Answered setup replies token asked fields) (hid : (Fields.get fields "id").isEmpty = false) :
      Vouched setup r replies asked (Fields.get fields "id")

/-- The row of a form names a user as its owner. -/
def Owns (t : Tables) (formId : Text) (user : Json) : Prop :=
  ∃ row, t.forms.find? (Query.passes [("id", .str formId)]) = some row ∧ (row.get "user_id").equals user = true

/-- Somebody is vouched for who owns the form. -/
def Authorized [Stack] (setup : Setup) (r : Received) (replies : List Reply) (t : Tables) (formId : Text) : Prop :=
  ∃ asked user, Vouched setup r replies asked user ∧ Owns t formId user

variable {setup : Setup} {r : Received}

/-- A user is named by a reply with status 200 and an object, and by nothing else. -/
theorem userOf_eq_ok [Stack] {reply : Reply} {id : Json} (h : userOf reply = .ok id) :
    ∃ text fields, reply = .response 200 text ∧ Json.parseSent text = .ok (.obj fields) ∧
      id = Fields.get fields "id" := by
  unfold userOf at h
  split at h
  · cases h
  · cases h
  · cases h
  · rename_i status text
    split at h
    · cases h
    · rename_i hstatus
      obtain rfl : status = 200 := by simpa using hstatus
      split at h
      -- only an object in a reply with status 200 is left
      · rename_i fields hfields
        exact ⟨text, fields, rfl, hfields, (Except.ok.inj h).symm⟩
      · cases h

/-- A reply that is heard is the one that was given. -/
theorem heard_eq_ok {url : Url} {reply reply' : Reply} (h : url.heard reply = .ok reply') : reply' = reply := by
  unfold Url.heard at h
  split at h
  · split at h
    · exact (Except.ok.inj h).symm
    · cases h
  · exact (Except.ok.inj h).symm

/-- Reading the settings changes nothing. -/
theorem allows_settings [Stack] (setup : Setup) (x : Exchange) :
    Allows (settings setup) x fun result y =>
      y = x ∧ ∀ s, result = .ok s → Settings.read setup.environment = .ok s := by
  unfold settings
  cases hread : Settings.read setup.environment with
  | ok settings => exact allows_pure ⟨rfl, fun s hs => congrArg Except.ok (Except.ok.inj hs)⟩
  | error e => exact allows_throw ⟨rfl, fun s hs => by cases hs⟩

/-- What is given as the user of a token is the id in the answer of the user service. -/
theorem allows_verified [Stack] (setup : Setup) (token : String) (x : Exchange) :
    Allows (verified setup token) x fun result y => y.connection = x.connection ∧ ∀ id, result = .ok id →
      ∃ asked fields, Answered setup x.replies token asked fields ∧ id = Fields.get fields "id" ∧
        y.sent = x.sent ++ [asked] := by
  unfold verified
  refine (allows_settings setup x).bind ?_ ?_
  · rintro settings x ⟨rfl, hread⟩
    have hsettings := hread settings rfl
    split
    · exact allows_throw ⟨rfl, fun id hid => by cases hid⟩
    · rename_i url asked hasked
      -- taking a reply and recording a request never fail
      have hnext : Allows nextReply x fun result y => result = .ok (x.replies.head?.getD .standard) ∧ y = x :=
        ⟨rfl, rfl⟩
      have hrecord : Allows (record (some asked)) x fun result y =>
          (∃ u, result = .ok u) ∧ y.connection = x.connection ∧ y.sent = x.sent ++ [asked] :=
        ⟨⟨⟨⟩, rfl⟩, rfl, rfl⟩
      refine hnext.bind ?_ (fun e y h => by cases h.1)
      rintro _ x ⟨hreply, rfl⟩
      obtain rfl := Except.ok.inj hreply
      refine hrecord.bind ?_ (fun e y h => by cases h.1.choose_spec)
      rintro - y ⟨-, hconnection, hsent⟩
      split
      · exact allows_throw ⟨hconnection, fun id hid => by cases hid⟩
      · rename_i reply hheard
        obtain rfl := heard_eq_ok hheard
        split
        · -- the one way to be given an id: an answer that was heard and names it
          rename_i id huser
          refine allows_pure ⟨hconnection, fun id' hid' => ?_⟩
          obtain rfl := Except.ok.inj hid'
          obtain ⟨text, fields, hreply, hfields, hid⟩ := userOf_eq_ok huser
          exact ⟨asked, fields, .intro hsettings hasked hreply hfields, hid, hsent⟩
        · exact allows_throw ⟨hconnection, fun id hid => by cases hid⟩
  · rintro e _ ⟨rfl, -⟩
    exact ⟨rfl, fun id hid => by cases hid⟩

/-- The user of a request is vouched for, by the service that was asked. -/
theorem allows_currentUser [Stack] (setup : Setup) (r : Received) (x : Exchange) :
    Allows (currentUser setup r) x fun result y => y.connection = x.connection ∧ ∀ user, result = .ok user →
      user.isEmpty = false ∧ ∃ asked, Vouched setup r x.replies asked user ∧ y.sent = x.sent ++ [asked] := by
  unfold currentUser
  cases htoken : bearerToken? (r.header? "authorization") with
  | none => exact allows_throw ⟨rfl, fun user huser => by cases huser⟩
  | some token =>
    refine (allows_verified setup token x).bind ?_ ?_
    · rintro id y ⟨hconnection, hverified⟩
      obtain ⟨asked, fields, hanswered, rfl, hsent⟩ := hverified id rfl
      split
      · exact allows_throw ⟨hconnection, fun user huser => by cases huser⟩
      · rename_i hid
        have hid : (Fields.get fields "id").isEmpty = false := by simpa using hid
        refine allows_pure ⟨hconnection, fun user huser => ?_⟩
        obtain rfl := Except.ok.inj huser
        exact ⟨hid, asked, .intro htoken hanswered hid, hsent⟩
    · rintro e y ⟨hconnection, -⟩
      exact ⟨hconnection, fun user huser => by cases huser⟩

/-- Whom the user service names is the user of the request. -/
theorem run_currentUser [Stack] {settings : Settings} {token : String} {url : Url}
    {asked : OutboundRequest} {reply : Reply} {user : Json} (hsettings : Settings.read setup.environment = .ok settings)
    (htoken : bearerToken? (r.header? "authorization") = some token)
    (hasked : tokenRequest? settings token = some (url, asked)) (hheard : url.heard reply = .ok reply)
    (huser : userOf reply = .ok user) (hid : user.isEmpty = false) (c : Connection) :
    (currentUser setup r).run.run ⟨c, [reply], []⟩ = (.ok user, ⟨c, [], [asked]⟩) := by
  have hsettings : Service.settings setup = pure settings := by rw [Service.settings, hsettings]
  have hnext : nextReply.run.run ⟨c, [reply], []⟩ = (.ok reply, ⟨c, [reply], []⟩) := rfl
  have hrecord : (record (some asked)).run.run ⟨c, [reply], []⟩ = (.ok ⟨⟩, ⟨c, [], [asked]⟩) := rfl
  simp only [currentUser, htoken, verified, hsettings, pure_bind, hasked, bind_assoc]
  rw [run_bind, hnext]
  dsimp only
  rw [run_bind, hrecord]
  simp only [hheard, huser, pure_bind, hid]
  rfl

/-- An endpoint for authors goes on with the user of the request. -/
theorem run_authored [Stack] {f : Json → ServiceM Response} {user : Json}
    {x y : Exchange} (houtage : setup.outage = none) (huser : (currentUser setup r).run.run x = (.ok user, y)) :
    (authored setup r f).run.run x = (plain (f user)).run.run y := by
  have hstore : requireStore setup = pure () := by rw [requireStore, houtage]
  simp only [authored, plain, hstore, pure_bind, bind_assoc]
  rw [run_bind, huser]

/-! ## Steps that start with both -/

/-- A step that looks first whether a form is a user's. -/
inductive ChecksOwner (formId : Text) (user : Json) {α : Type} : ServiceM α → Prop
  | form (k : Row → ServiceM α) : ChecksOwner formId user (store (Store.form formId (some user)) >>= k)
  | before {β : Type} {m : ServiceM β} {k : β → ServiceM α} (hm : Asks (fun _ => False) m)
      (hk : ∀ a, ChecksOwner formId user (k a)) : ChecksOwner formId user (m >>= k)
  | refuse {e : Refusal} (h : e.Failing) : ChecksOwner formId user (throw e)

/-- A step that looks first who asks, and then whether a form is that user's. -/
inductive Guarded [Stack] (setup : Setup) (r : Received) (kind : Query → Prop) (formId : Text) {α : Type} :
    ServiceM α → Prop
  | user {k : Json → ServiceM α} (hasks : ∀ user, Asks kind (k user))
      (hk : ∀ user, user.isEmpty = false → ChecksOwner formId user (k user)) :
      Guarded setup r kind formId (currentUser setup r >>= k)
  | before {β : Type} {m : ServiceM β} {k : β → ServiceM α} (hm : Asks (fun _ => False) m)
      (hidle : ∀ x, (m.run.run x).2 = x) (hk : ∀ a, Guarded setup r kind formId (k a)) :
      Guarded setup r kind formId (m >>= k)

variable {α β : Type} {kind : Query → Prop} {formId : Text} {user : Json} {m : ServiceM α} {k : α → ServiceM β}

/-- What starts with the check of the owner still does, whatever follows. -/
theorem ChecksOwner.bind (h : ChecksOwner formId user m) (k : α → ServiceM β) :
    ChecksOwner formId user (m >>= k) := by
  induction h with
  | form rest =>
    rw [bind_assoc]
    exact .form _
  | before hm _ ih =>
    rw [bind_assoc]
    exact .before hm ih
  | refuse h => exact .refuse h

/-- The same of both checks. -/
theorem Guarded.bind [Stack] (h : Guarded setup r kind formId m) (hk : ∀ a, Asks kind (k a)) :
    Guarded setup r kind formId (m >>= k) := by
  induction h with
  | user hasks hrest =>
    rw [bind_assoc]
    exact .user (fun user => .bind (hasks user) hk) fun user huser => (hrest user huser).bind k
  | before hm hidle _ ih =>
    rw [bind_assoc]
    exact .before hm hidle ih

/-! ## Endpoints -/

/-- An operation that looks for the form of the user checks its owner. -/
theorem checksOwner_store (k : Row → StoreM α) :
    ChecksOwner formId user (store (Store.form formId (some user) >>= k)) := by
  rw [store_bind]
  exact .form _

/-- To read a version looks for the form first. -/
theorem checksOwner_version (formId versionId : Text) (user : Json) :
    ChecksOwner formId user (store (Store.version formId versionId (some user))) :=
  checksOwner_store _

/-- So do the list of versions, the latest one and a single one. -/
theorem checksOwner_listVersions (formId : String) (user : Json) : ChecksOwner formId user (listVersions formId user) :=
  (checksOwner_store _).bind _

/-- The latest version is read behind the row of the form. -/
theorem checksOwner_latestVersion (formId : String) (user : Json) :
    ChecksOwner formId user (latestVersion formId user) :=
  .form _

theorem checksOwner_oneVersion (formId versionId : String) (user : Json) :
    ChecksOwner formId user (oneVersion formId versionId user) :=
  .form _

/-- Who has an id is looked for as an owner. -/
theorem some_of_nonempty {user : Json} (h : user.isEmpty = false) :
    (if user.isNull = true then none else some user) = some user := by
  cases user with
  | null => cases h
  | _ => rfl

/-- A save looks for the form of the user, for the user is somebody. -/
theorem checksOwner_saveVersion (formId : String) {user : Json} (huser : user.isEmpty = false)
    (request : SaveRequest) : ChecksOwner formId user (saveVersion formId user request) := by
  unfold saveVersion Store.save
  rw [some_of_nonempty huser]
  exact (checksOwner_store _).bind _

/-- A restore reads the version as the user first. -/
theorem checksOwner_restoreVersion (formId versionId : String) {user : Json} (huser : user.isEmpty = false) :
    ChecksOwner formId user (restoreVersion formId versionId user) := by
  unfold restoreVersion Store.restore
  rw [some_of_nonempty huser, store_bind]
  exact ((checksOwner_version _ _ _).bind _).bind _

/-- A download is refused for a file that there is not, or else it looks for the form of the user. -/
theorem checksOwner_download [Stack] (setup : Setup) (formId versionId file : String) (user : Json) :
    ChecksOwner formId user (download setup formId versionId file user) := by
  unfold download
  split
  · exact .refuse (by simp)
  · exact (checksOwner_store _).bind _

/-- What is done for an author starts with both checks, if it starts with the second. -/
theorem guarded_authored [Stack] {f : Json → ServiceM Response} (hasks : ∀ user, Asks kind (f user))
    (hf : ∀ user, user.isEmpty = false → ChecksOwner formId user (f user)) :
    Guarded setup r kind formId (authored setup r f) :=
  Guarded.bind (.user (fun user => .bind (asks_requireStore setup) fun _ => hasks user)
    fun user huser => .before (asks_requireStore setup) fun _ => hf user huser) fun _ => .pure _

/-- Reading a body takes no part in the exchange. -/
theorem body_idle [Stack] (r : Received) (x : Exchange) : ((body r).run.run x).2 = x := by
  unfold body
  split
  · rfl
  · split
    · split
      · rfl
      · split <;> rfl
    · rfl

end Service

/-- The form whose versions an endpoint is about. -/
def Endpoint.guardedForm? : Endpoint → Option String
  | listVersions form => some form
  | latestVersion form => some form
  | oneVersion form _ => some form
  | saveVersion form => some form
  | restoreVersion form _ => some form
  | download form _ _ => some form
  | root | health | submit | previewSession | previewRedirect | previewPostcode | exportNumbered | exportCompiled =>
    none

namespace Service

variable {setup : Setup} {r : Received} {endpoint : Endpoint} {form : String}

/-- Each of the six endpoints starts with both. -/
theorem guarded_answer [Stack] (h : endpoint.guardedForm? = some form) :
    Guarded setup r endpoint.MayAsk form (answer setup r endpoint) := by
  cases endpoint <;> cases h
  case listVersions =>
    exact guarded_authored (asks_listVersions form) fun user _ => checksOwner_listVersions form user
  case latestVersion =>
    exact guarded_authored (asks_latestVersion form) fun user _ => checksOwner_latestVersion form user
  case oneVersion version =>
    exact guarded_authored (asks_oneVersion form version) fun user _ => checksOwner_oneVersion form version user
  case saveVersion =>
    -- the body is read in front of the checks, which takes no query
    refine .before (asks_body r) (body_idle r) fun body => guarded_authored ?_ ?_
    · exact fun user => .bind (asks_checked _ body) (asks_saveVersion form user)
    · exact fun user huser => .before (asks_checked _ body) (checksOwner_saveVersion form huser)
  case restoreVersion version =>
    exact guarded_authored (asks_restoreVersion form version) fun user huser =>
      checksOwner_restoreVersion form version huser
  case download version file =>
    exact guarded_authored (asks_download setup form version file) fun user _ =>
      checksOwner_download setup form version file user

/-- Delivering what was scheduled comes behind them. -/
theorem guarded_respond [Stack] (h : endpoint.guardedForm? = some form) :
    Guarded setup r endpoint.MayAsk form (respond setup r endpoint) := by
  refine (guarded_answer h).bind fun answered => ?_
  obtain ⟨response, scheduled⟩ := answered
  dsimp only
  split
  · exact .bind (asks_deliver scheduled) fun _ => .pure _
  · exact .pure _

section

variable {α β : Type} {kind : Query → Prop} {formId : Text} {user : Json} {m : ServiceM α} {k : α → ServiceM β}

/-! ## What becomes of them -/

/-- Tables with the same forms; their versions may differ. -/
def SameForms (t u : Tables) : Prop := t.forms = u.forms

/-- The row of a form is found among the forms alone. -/
theorem respects_formRow (id : Text) : (Query.formRow id).Respects SameForms := by
  intro t u h
  refine ⟨?_, h⟩
  simp only [Query.formRow, Query.run, Tables.rows]
  rw [h]

/-- On one exchange as on the other a step is refused, and the tables stay as they are. -/
structure RefusedAlike (m : ServiceM α) (x y : Exchange) (e : Refusal) : Prop where
  failing : e.Failing
  left : (m.run.run x).1 = .error e
  right : (m.run.run y).1 = .error e
  tables : (m.run.run x).2.connection.tables = x.connection.tables

variable {x y : Exchange}

/-- A step that asks nothing ends alike, and leaves the tables as they are. -/
theorem Asks.quiet (hm : Asks (fun _ => False) m) (hxy : x.Alike SameForms y) :
    ∃ result x' y', m.run.run x = (result, x') ∧ m.run.run y = (result, y') ∧ x'.Alike SameForms y' ∧
      x'.connection.tables = x.connection.tables ∧ ∀ e, result = .error e → e.Failing := by
  obtain ⟨hresult, hafter⟩ := hm.agree (fun _ hq => hq.elim) hxy
  have htables := hm.tables_eq (fun _ hq => hq.elim) x
  exact ⟨(m.run.run x).1, (m.run.run x).2, (m.run.run y).2, rfl, Prod.ext hresult.symm rfl, hafter, htables,
    fun e he => hm.failing he⟩

/-- What is refused at the second step is refused, after a first that leaves the tables as they are. -/
theorem refusedAlike_bind {result : Except Refusal α} {x' y' : Exchange} (hx : m.run.run x = (result, x'))
    (hy : m.run.run y = (result, y')) (htables : x'.connection.tables = x.connection.tables)
    (hok : ∀ a, result = .ok a → ∃ e, RefusedAlike (k a) x' y' e)
    (herror : ∀ e, result = .error e → e.Failing) : ∃ e, RefusedAlike (m >>= k) x y e := by
  -- the first step succeeds and the second is refused, or the first is refused
  cases result with
  | ok a =>
    obtain ⟨e, hfailing, hleft, hright, hsame⟩ := hok a rfl
    refine ⟨e, hfailing, ?_, ?_, ?_⟩
    · rw [run_bind, hx]
      exact hleft
    · rw [run_bind, hy]
      exact hright
    · rw [run_bind, hx]
      exact hsame.trans htables
  | error e =>
    refine ⟨e, herror e rfl, ?_, ?_, ?_⟩
    · rw [run_bind, hx]
    · rw [run_bind, hy]
    · rw [run_bind, hx]
      exact htables

/-- The form is the user's, or the step is refused. -/
theorem ChecksOwner.owns_or_refused (h : ChecksOwner formId user m) (hxy : x.Alike SameForms y) :
    Owns x.connection.tables formId user ∨ ∃ e, RefusedAlike m x y e := by
  induction h generalizing x y with
  | form k =>
    -- the rows of forms are the same on both, so the look-up ends on both alike
    obtain ⟨htables, hfound⟩ := Store.finds_form formId (some user) x.connection rfl
    have hagree := (Store.asks_form formId (some user)).agree
      (fun q hq => hq ▸ respects_formRow formId) hxy.connection
    cases hresult : ((Store.form formId (some user)).run.run x.connection).1 with
    | ok row =>
      obtain ⟨hrow, howner⟩ := hfound row hresult
      exact .inl ⟨row, hrow, howner user rfl⟩
    | error e =>
      right
      have hy := run_store (Store.form formId (some user)) y
      rw [← hagree.1] at hy
      refine refusedAlike_bind (run_store _ x) hy htables ?_ ?_
      · intro row hrow
        rw [hresult] at hrow
        cases hrow
      · intro e' he'
        rw [hresult] at he'
        obtain rfl := Except.error.inj he'
        exact failing_storeRefusal e
  | before hm _ ih =>
    obtain ⟨result, x', y', hx, hy, halike, htables, hfailing⟩ := hm.quiet hxy
    by_cases howns : Owns x.connection.tables formId user
    · exact .inl howns
    · refine .inr (refusedAlike_bind hx hy htables (fun a _ => ?_) hfailing)
      exact (ih a halike).resolve_left (by rwa [htables])
  | refuse he => exact .inr ⟨_, he, rfl, rfl, rfl⟩

/-- Somebody is vouched for who owns the form, and the user service was the first to be asked; or the step is
refused. -/
theorem Guarded.passes_or_refuses [Stack] (h : Guarded setup r kind formId m) (hxy : x.Alike SameForms y) :
    (∃ asked user more, Vouched setup r x.replies asked user ∧ Owns x.connection.tables formId user ∧
      (m.run.run x).2.sent = x.sent ++ asked :: more) ∨ ∃ e, RefusedAlike m x y e := by
  induction h generalizing x y with
  | @user k hasks hk =>
    -- no table is looked at to tell who asks
    have hasking : Asks (fun _ => False) (currentUser setup r) := asks_currentUser setup r
    obtain ⟨result, x', y', hx, hy, halike, htables, hfailing⟩ := hasking.quiet hxy
    obtain ⟨-, hvouched⟩ := allows_currentUser setup r x
    rw [hx] at hvouched
    cases result with
    | error e => exact .inr (refusedAlike_bind hx hy htables (fun a ha => by cases ha) hfailing)
    | ok user =>
      obtain ⟨hid, asked, hasked, hsent⟩ := hvouched user rfl
      rcases (hk user hid).owns_or_refused halike with howns | hrefused
      · left
        rw [htables] at howns
        obtain ⟨more, hmore⟩ := (hasks user).sent_grows x'
        refine ⟨asked, user, more, hasked, howns, ?_⟩
        rw [run_bind, hx]
        dsimp only
        rw [hmore, hsent, List.append_assoc]
        rfl
      · right
        refine refusedAlike_bind hx hy htables (fun a ha => ?_) hfailing
        obtain rfl := Except.ok.inj ha
        exact hrefused
  | before hm hidle _ ih =>
    obtain ⟨result, x', y', hx, hy, halike, htables, hfailing⟩ := hm.quiet hxy
    obtain rfl : x = x' := by rw [← hidle x, hx]
    cases result with
    | error e => exact .inr (refusedAlike_bind hx hy htables (fun a ha => by cases ha) hfailing)
    | ok a =>
      rcases ih a halike with hpasses | hrefused
      · left
        rw [run_bind, hx]
        exact hpasses
      · right
        refine refusedAlike_bind hx hy htables (fun a' ha' => ?_) hfailing
        obtain rfl := Except.ok.inj ha'
        exact hrefused

end

end Service

/-! ## Rows of a form -/

namespace Store

/-- Tables with the same rows of a form and its versions. -/
structure SameRows (formId : Text) (t u : Tables) : Prop where
  forms : t.forms.filter (Query.passes [("id", .str formId)]) = u.forms.filter (Query.passes [("id", .str formId)])
  versions : t.versions.filter (Query.passes [("form_id", .str formId)]) =
    u.versions.filter (Query.passes [("form_id", .str formId)])

variable {formId : Text} {t u v : Tables}

theorem SameRows.refl (formId : Text) (t : Tables) : SameRows formId t t := ⟨rfl, rfl⟩

theorem SameRows.trans (h : SameRows formId t u) (h' : SameRows formId u v) : SameRows formId t v :=
  ⟨h.forms.trans h'.forms, h.versions.trans h'.versions⟩

/-- Filters of which one is for the form look at rows of the form alone. -/
theorem filter_passes_of_mem {rows rows' : List Row} {column : Text} {v : Json} {filters : List (Text × Json)}
    (hmem : (column, v) ∈ filters)
    (h : rows.filter (Query.passes [(column, v)]) = rows'.filter (Query.passes [(column, v)])) :
    rows.filter (Query.passes filters) = rows'.filter (Query.passes filters) := by
  have hboth : ∀ rows : List Row, rows.filter (Query.passes filters) =
      (rows.filter (Query.passes [(column, v)])).filter (Query.passes filters) := by
    intro rows
    rw [List.filter_filter]
    refine List.filter_congr fun row _ => ?_
    cases hpasses : Query.passes filters row with
    | false => rfl
    | true =>
      have hone := List.all_eq_true.mp hpasses (column, v) hmem
      simpa [Query.passes] using hone
  rw [hboth rows, hboth rows', h]

/-- What is read of a form is told by its rows. -/
theorem respects_reads {q : Query} (h : q.Reads formId) : q.Respects (SameRows formId) := by
  intro t u hsame
  cases h with
  | form =>
    refine ⟨?_, hsame⟩
    simp only [Query.formRow, Query.run, Tables.rows]
    rw [hsame.forms]
  | versions hmem =>
    refine ⟨?_, hsame⟩
    simp only [Query.run, Tables.rows]
    rw [filter_passes_of_mem hmem hsame.versions]

/-- Bringing the row of a form in line keeps it among the rows of the form. -/
theorem filter_synced (rows : List Row) (formId : Text) (form : Form) :
    (rows.map (syncedRow formId form)).filter (Query.passes [("id", .str formId)]) =
      (rows.filter (Query.passes [("id", .str formId)])).map (syncedRow formId form) := by
  have hid : Query.passes [("id", .str formId)] ∘ syncedRow formId form = Query.passes [("id", .str formId)] := by
    funext row
    simp [Query.passes, syncedRow_id]
  rw [List.filter_map, hid]

/-- Queries about a form cannot tell tables with the same rows of it apart, if new rows get the same ids. -/
theorem respects_concerns {q : Query} (h : q.Concerns formId) :
    q.Respects fun t u => SameRows formId t u ∧ t.ids = u.ids := by
  rintro t u ⟨hsame, hids⟩
  rcases h with hreads | hwrites
  · obtain ⟨hrows, -⟩ := respects_reads hreads t u hsame
    rw [hreads.run_tables, hreads.run_tables]
    exact ⟨hrows, hsame, hids⟩
  · cases hwrites with
    | version user form number message =>
      rw [run_insert_version, run_insert_version, hids]
      refine ⟨rfl, ⟨hsame.forms, ?_⟩, rfl⟩
      rw [List.filter_append, List.filter_append, hsame.versions]
    | form form =>
      rw [run_sync, run_sync]
      refine ⟨?_, ⟨?_, hsame.versions⟩, hids⟩
      · simp only [Query.run, Tables.rows]
        rw [hsame.forms]
      · rw [filter_synced, filter_synced, hsame.forms]

/-- The row of another form keeps its id, and that of this form is not touched. -/
theorem filter_kept {otherId : Text} {rows rows' : List Row} (h : List.Forall₂ (Kept otherId) rows rows')
    (hne : otherId ≠ formId) :
    rows.filter (Query.passes [("id", .str formId)]) = rows'.filter (Query.passes [("id", .str formId)]) := by
  induction h with
  | nil => rfl
  | @cons row row' rows rows' hrow _ ih =>
    rw [List.filter_cons, List.filter_cons, ih]
    by_cases hid : row.get "id" = .str formId
    · rw [hrow.others (by rw [hid]; exact fun heq => hne (Json.str.inj heq).symm)]
    · have hid' : row'.get "id" ≠ .str formId := by
        rwa [Fields.get, hrow.columns "id" (by simp [syncedColumns])]
      simp [Query.passes_str, hid, hid']

/-- What is done to another form leaves the rows of a form as they are. -/
theorem OnlyFor.sameRows {otherId : Text} (h : OnlyFor otherId t u) (hne : otherId ≠ formId) :
    SameRows formId t u := by
  obtain ⟨hforms, added, hversions, hown⟩ := h
  have hnone : added.filter (Query.passes [("form_id", .str formId)]) = [] := by
    rw [List.filter_eq_nil_iff]
    intro row hrow
    simp [Query.passes_str, hown row hrow, hne]
  exact ⟨filter_kept hforms hne, by rw [hversions, List.filter_append, hnone, List.append_nil]⟩

end Store

/-! ## Requests -/

/-- The queries of an endpoint for the versions of a form concern that form. -/
theorem Endpoint.concerns_of_mayAsk {endpoint : Endpoint} {form : String} (h : endpoint.guardedForm? = some form)
    {q : Query} (hq : endpoint.MayAsk q) : q.Concerns form := by
  cases endpoint <;> cases h
  case saveVersion => exact hq
  case restoreVersion => exact hq
  all_goals exact .inl hq

/-- Other endpoints only read, if they look at the tables at all. -/
theorem Endpoint.reads_of_unguarded {endpoint : Endpoint} (h : endpoint.guardedForm? = none) {q : Query}
    (hq : endpoint.MayAsk q) : ∃ formId, q.Reads formId := by
  cases endpoint <;> cases h
  case submit => exact hq
  all_goals exact hq.elim

namespace Service

variable {setup : Setup} {i : Incoming} {r : Received} {endpoint : Endpoint} {form : String}

/-- Somebody is vouched for who owns the form, and the user service was asked first; or the client is told of no
success, the tables stay as they are, and any versions get the same answer. -/
theorem handle_passes_or_refuses [Stack] (setup : Setup) (hreaches : i.Reaches r endpoint)
    (hform : endpoint.guardedForm? = some form) (c : Connection) :
    (∃ asked user, Vouched setup r i.replies asked user ∧ Owns c.tables form user ∧
      (i.handle setup c).sent.head? = some asked) ∨
    (¬ (i.handle setup c).Succeeds ∧ (i.handle setup c).connection.tables = c.tables ∧
      ∀ versions, (i.handle setup { c with tables := { c.tables with versions } }).response =
        (i.handle setup c).response) := by
  have hguarded : Guarded setup r endpoint.MayAsk form (respond setup r endpoint) := guarded_respond hform
  have hx : ∀ versions, Exchange.Alike SameForms { connection := c, replies := i.replies }
      { connection := { c with tables := { c.tables with versions } }, replies := i.replies } :=
    fun versions => ⟨⟨rfl, rfl⟩, rfl⟩
  by_cases hpasses : ∃ asked user, Vouched setup r i.replies asked user ∧ Owns c.tables form user ∧
      (i.handle setup c).sent.head? = some asked
  · exact .inl hpasses
  · right
    -- whatever the versions are, the request is refused
    have hrefused : ∀ versions, ∃ e, RefusedAlike (respond setup r endpoint) { connection := c, replies := i.replies }
        { connection := { c with tables := { c.tables with versions } }, replies := i.replies } e := by
      intro versions
      refine (hguarded.passes_or_refuses (hx versions)).resolve_left ?_
      rintro ⟨asked, user, more, hvouched, howns, hsent⟩
      refine hpasses ⟨asked, user, hvouched, howns, ?_⟩
      rw [handle_of_reaches hreaches, hsent]
      rfl
    refine ⟨?_, ?_, fun versions => ?_⟩
    · obtain ⟨e, hrefused⟩ := hrefused c.tables.versions
      rintro ⟨delivered, hdelivered, -, hsuccess⟩
      rw [handle_of_reaches hreaches, hrefused.left] at hdelivered
      have hstatus := delivered_refused hrefused.failing hdelivered
      omega
    · obtain ⟨e, hrefused⟩ := hrefused c.tables.versions
      rw [handle_of_reaches hreaches]
      exact hrefused.tables
    · obtain ⟨e, hrefused⟩ := hrefused versions
      rw [handle_of_reaches hreaches, handle_of_reaches hreaches, hrefused.left, hrefused.right]

/-- Only the row of the form and its versions are written. -/
theorem handle_onlyFor [Stack] (hreaches : i.Reaches r endpoint) (hform : endpoint.guardedForm? = some form)
    (c : Connection) : Store.OnlyFor form c.tables (i.handle setup c).connection.tables := by
  rw [handle_of_reaches hreaches]
  refine (asks_respond setup r endpoint).keeps (I := Store.OnlyFor form c.tables) ?_ (Store.OnlyFor.refl _ _)
  intro q hq t ht
  exact ht.trans (Store.onlyFor_of_concerns (Endpoint.concerns_of_mayAsk hform hq) t)

/-- Rows of other forms and of their versions do not matter. -/
theorem handle_sameRows [Stack] (hreaches : i.Reaches r endpoint) (hform : endpoint.guardedForm? = some form)
    {c : Connection} {forms versions : List Row}
    (hsame : Store.SameRows form c.tables { c.tables with forms, versions }) :
    let other := i.handle setup { c with tables := { c.tables with forms, versions } }
    other.response = (i.handle setup c).response ∧ other.sent = (i.handle setup c).sent ∧
      Store.SameRows form (i.handle setup c).connection.tables other.connection.tables := by
  have hrespects : ∀ q, endpoint.MayAsk q →
      q.Respects fun t u => Store.SameRows form t u ∧ t.ids = u.ids := fun _ hq =>
    Store.respects_concerns (Endpoint.concerns_of_mayAsk hform hq)
  obtain ⟨hresult, hafter⟩ := (asks_respond setup r endpoint).agree hrespects
    (x := { connection := c, replies := i.replies })
    (y := { connection := { c with tables := { c.tables with forms, versions } }, replies := i.replies })
    ⟨⟨⟨hsame, rfl⟩, rfl⟩, rfl⟩
  rw [handle_of_reaches hreaches, handle_of_reaches hreaches, ← hresult]
  refine ⟨rfl, ?_, hafter.connection.tables.1⟩
  rw [hafter.rest]

/-- An endpoint that is not about the versions of a form leaves the tables as they are. -/
theorem handle_unguarded [Stack] (hreaches : i.Reaches r endpoint) (hform : endpoint.guardedForm? = none)
    (c : Connection) : (i.handle setup c).connection.tables = c.tables := by
  rw [handle_of_reaches hreaches]
  exact (asks_respond setup r endpoint).tables_eq (fun _ => Endpoint.reads_of_unguarded hform) _

/-- A request that is not let through to the versions of a form leaves its rows as they are. -/
theorem handle_keeps_rows [Stack] (setup : Setup) (c : Connection) (form : String)
    (hunauthorized : ∀ r endpoint, i.Reaches r endpoint → endpoint.guardedForm? = some form →
      ¬ Authorized setup r i.replies c.tables form) :
    Store.SameRows form c.tables (i.handle setup c).connection.tables := by
  by_cases hreaches : ∃ r endpoint, i.Reaches r endpoint
  · obtain ⟨r, endpoint, hreaches⟩ := hreaches
    cases hform : endpoint.guardedForm? with
    | none =>
      rw [handle_unguarded hreaches hform]
      exact .refl _ _
    | some other =>
      -- a request about another form touches no row of this one
      by_cases hsame : other = form
      · subst hsame
        rcases handle_passes_or_refuses setup hreaches hform c with
          ⟨asked, user, hvouched, howns, -⟩ | ⟨-, htables, -⟩
        · exact absurd ⟨asked, user, hvouched, howns⟩ (hunauthorized r endpoint hreaches hform)
        · rw [htables]
          exact .refl _ _
      · exact (handle_onlyFor hreaches hform c).sameRows fun h => hsame (Text.ofString_inj.mp h)
  · rw [handle_of_not_reaches (fun r endpoint h => hreaches ⟨r, endpoint, h⟩)]
    exact .refl _ _

/-- So does a run of such requests. -/
theorem after_keeps_rows [Stack] (c : Connection) (form : String) (is : List Incoming)
    (hunauthorized : ∀ before i rest r endpoint, is = before ++ i :: rest → i.Reaches r endpoint →
      endpoint.guardedForm? = some form → ¬ Authorized setup r i.replies (after setup c before).tables form) :
    Store.SameRows form c.tables (after setup c is).tables := by
  -- on the requests, each of which is handled with what those before it left
  induction is generalizing c with
  | nil => exact .refl _ _
  | cons i is ih =>
    have hfirst := handle_keeps_rows (i := i) setup c form fun r endpoint hreaches hform =>
      hunauthorized [] i is r endpoint rfl hreaches hform
    refine hfirst.trans (ih _ ?_)
    intro before i' rest r endpoint hsplit hreaches hform
    exact hunauthorized (i :: before) i' rest r endpoint (by rw [hsplit]; rfl) hreaches hform

/-! ## Restores by the owner of a form and by somebody else -/

/-- A user restores a version of a form. -/
def restoreAs (user : String) : Incoming where
  request := {
    method := "POST"
    target := "/api/forms/f/versions/v/restore"
    headers := [("authorization", "Bearer t")] }
  replies := [.response 200 ("\x7b\"id\": \"" ++ user ++ "\"\x7d")]

/-- What of it reaches the service. -/
def restoreReceived : Received where
  method := "POST"
  path := "/api/forms/f/versions/v/restore"
  headers := [("authorization", "Bearer t")]
  body := none

/-- A form of one user with a version, and a form of another user. -/
def ownedTables : Tables where
  forms := [[("id", .str "f"), ("user_id", .str "u"), ("title", .str "T")], [("id", .str "g"), ("user_id", .str "w")]]
  versions := [[("id", .str "v"), ("form_id", .str "f"), ("form_data", .obj []), (Store.numberColumn, .int 1)]]

/-- Whoever asks, it reaches the endpoint. -/
theorem reaches_restoreAs (user : String) :
    (restoreAs user).Reaches restoreReceived (.restoreVersion "f" "v") := by
  have hsent : (restoreAs "u").request.sent = .ok restoreReceived := by decide +kernel
  exact ⟨hsent, rfl, by decide +kernel⟩

/-- The owner of the form is let through, and a version is added. -/
theorem restore_succeeds_for_owner {setup : Setup}
    (hsettings : Settings.read setup.environment = .ok requiredSettings) (houtage : setup.outage = none) :
    let handled := (restoreAs "u").handle setup { tables := ownedTables }
    handled.Succeeds ∧ handled.connection.tables.versions.length = 2 := by
  let url : Url := { Url.empty with scheme := "https", host := "users", path := "/auth/v1/user" }
  let asked : OutboundRequest := .to url "GET" (tokenHeaders requiredSettings "t") ""
  let reply : Reply := .response 200 "\x7b\"id\": \"u\"\x7d"
  have htoken : bearerToken? (restoreReceived.header? "authorization") = some "t" := by decide +kernel
  have hasked : tokenRequest? requiredSettings "t" = some (url, asked) := by decide +kernel
  have huser : (currentUser setup restoreReceived).run.run ⟨{ tables := ownedTables }, [reply], []⟩ =
      (.ok (.str "u"), ⟨{ tables := ownedTables }, [], [asked]⟩) :=
    run_currentUser hsettings htoken hasked (by decide +kernel) (by decide +kernel) rfl _
  -- what is left reads neither the settings nor a reply
  have hdone : let ran := (restoreVersion "f" "v" (.str "u")).run.run ⟨{ tables := ownedTables }, [], [asked]⟩
      ran.1.toOption.map (fun response => (response.status, response.content.written.isOk)) = some (200, true) ∧
        ran.2.connection.tables.versions.length = 2 := by
    decide +kernel
  rcases hran : (restoreVersion "f" "v" (.str "u")).run.run ⟨{ tables := ownedTables }, [], [asked]⟩ with
    ⟨e | response, y⟩
  · rw [hran] at hdone
    cases hdone.1
  · rw [hran] at hdone
    obtain ⟨hresponse, hversions⟩ := hdone
    obtain ⟨hstatus, hwritten⟩ := Prod.mk.inj (Option.some.inj hresponse)
    have hanswer : (answer setup restoreReceived (.restoreVersion "f" "v")).run.run
        ⟨{ tables := ownedTables }, (restoreAs "u").replies, []⟩ = (.ok (response, none), y) := by
      simp only [answer]
      have hreplies : (restoreAs "u").replies = [reply] := rfl
      rw [hreplies, run_authored houtage huser, plain, run_bind, hran]
      rfl
    obtain ⟨hsucceeds, hconnection⟩ :=
      succeeds_of_answer (reaches_restoreAs "u") hanswer hwritten (by rw [hstatus]; decide)
    exact ⟨hsucceeds, by rw [hconnection]; exact hversions⟩

/-- The form that is restored is not that of the other user. -/
theorem not_owns_ownedTables : ¬ Owns ownedTables "f" (.str "w") := by
  rintro ⟨row, hrow, howner⟩
  have hothers : (ownedTables.forms.find? (Query.passes [("id", .str "f")])).all
      (fun row => !(row.get "user_id").equals (.str "w")) = true := by
    decide +kernel
  rw [hrow, Option.all_some, howner] at hothers
  cases hothers

end Service

/-- **Only its owner reaches the versions of a form.** Let requests follow each other, with any tokens, with any
replies of other services and on any tables. If a request reaches an endpoint for the versions of a form, or for
the files made of one, and gets a success or changes the tables, then the user service, asked first and about
its token, named a user with an id, and the row of the form names the same one. Otherwise the tables stay as
they are and the answer is the same whatever the versions are. Only the row of that form and its versions are
written, and no other row has a part in the answer. A submission changes no table, and without such a request
the rows of a form are never changed. -/
theorem version_endpoints_are_guarded [Stack] (setup : Setup) (start : Connection) (earlier : List Service.Incoming)
    (next : Service.Incoming) :
    let c := Service.after setup start earlier
    let handled := next.handle setup c
    (∀ r endpoint form, next.Reaches r endpoint → endpoint.guardedForm? = some form →
      (handled.Succeeds ∨ handled.connection.tables ≠ c.tables →
        ∃ asked user, Service.Vouched setup r next.replies asked user ∧ Service.Owns c.tables form user ∧
          handled.sent.head? = some asked) ∧
      (¬ Service.Authorized setup r next.replies c.tables form →
        handled.connection.tables = c.tables ∧ ¬ handled.Succeeds ∧
        ∀ versions, (next.handle setup { c with tables := { c.tables with versions } }).response =
          handled.response) ∧
      Store.OnlyFor form c.tables handled.connection.tables ∧
      ∀ forms versions, Store.SameRows form c.tables { c.tables with forms, versions } →
        let other := next.handle setup { c with tables := { c.tables with forms, versions } }
        other.response = handled.response ∧ other.sent = handled.sent ∧
          Store.SameRows form handled.connection.tables other.connection.tables) ∧
    (∀ r, next.Reaches r .submit → handled.connection.tables = c.tables) ∧
    ∀ form : String, (∀ before i rest r endpoint, earlier = before ++ i :: rest → i.Reaches r endpoint →
        endpoint.guardedForm? = some form →
        ¬ Service.Authorized setup r i.replies (Service.after setup start before).tables form) →
      Store.SameRows form start.tables c.tables := by
  intro c handled
  refine ⟨fun r endpoint form hreaches hform => ?_, fun r hreaches => Service.handle_unguarded hreaches rfl c,
    fun form => Service.after_keeps_rows start form earlier⟩
  -- a request either passes with the owner of the form, or is refused without a trace
  have hcases := Service.handle_passes_or_refuses setup hreaches hform c
  refine ⟨fun hdone => ?_, fun hunauthorized => ?_, Service.handle_onlyFor hreaches hform c,
    fun forms versions => Service.handle_sameRows hreaches hform⟩
  · refine hcases.resolve_right ?_
    rintro ⟨hfailed, htables, -⟩
    exact hdone.elim hfailed fun hchanged => hchanged htables
  · obtain ⟨hfailed, htables, hresponse⟩ := hcases.resolve_left fun ⟨asked, user, hvouched, howns, _⟩ =>
      hunauthorized ⟨asked, user, hvouched, howns⟩
    exact ⟨htables, hfailed, hresponse⟩

/-- The owner of a form restores a version of it, and somebody else does not. -/
theorem version_endpoints_are_guarded_for_restores :
    let setup : Setup := { environment := Service.requiredVariables }
    let c : Connection := { tables := Service.ownedTables }
    let restored := (Service.restoreAs "u").handle setup c
    let refused := (Service.restoreAs "w").handle setup c
    (∀ user, (Service.restoreAs user).Reaches Service.restoreReceived (.restoreVersion "f" "v")) ∧
    restored.Succeeds ∧ restored.connection.tables ≠ c.tables ∧
    Service.Authorized setup Service.restoreReceived (Service.restoreAs "u").replies c.tables "f" ∧
    ¬ Service.Authorized setup Service.restoreReceived (Service.restoreAs "w").replies c.tables "f" ∧
    ¬ refused.Succeeds ∧ refused.connection.tables = c.tables := by
  intro setup c restored refused
  have hreaches := Service.reaches_restoreAs
  have hrestored : restored.Succeeds ∧ restored.connection.tables.versions.length = 2 :=
    Service.restore_succeeds_for_owner Service.read_requiredVariables rfl
  obtain ⟨hsucceeds, hlength⟩ := hrestored
  have hchanged : restored.connection.tables ≠ c.tables := by
    intro hsame
    rw [hsame] at hlength
    cases hlength
  obtain ⟨asked, user, hvouched, howns, -⟩ :=
    ((version_endpoints_are_guarded setup c [] (Service.restoreAs "u")).1 _ _ "f" (hreaches "u") rfl).1 (.inl hsucceeds)
  have hunauthorized :
      ¬ Service.Authorized setup Service.restoreReceived (Service.restoreAs "w").replies c.tables "f" := by
    rintro ⟨_, _, ⟨-, hanswered, -⟩, howns⟩
    rcases hanswered with ⟨-, -, hreply, hfields⟩
    -- the reply names another user than the row of the form
    obtain ⟨-, rfl⟩ := Reply.response.inj hreply
    have hparse : Json.parseSent ("\x7b\"id\": \"" ++ "w" ++ "\"\x7d") = .ok (.obj [("id", .str "w")]) := by
      decide +kernel
    obtain rfl := Json.obj.inj (Except.ok.inj (hparse.symm.trans hfields))
    exact Service.not_owns_ownedTables howns
  obtain ⟨htables, hfails, -⟩ :=
    ((version_endpoints_are_guarded setup c [] (Service.restoreAs "w")).1 _ _ "f" (hreaches "w") rfl).2.1 hunauthorized
  exact ⟨hreaches, hsucceeds, hchanged, ⟨asked, user, hvouched, howns⟩, hunauthorized, hfails, htables⟩

end Questionnaire
