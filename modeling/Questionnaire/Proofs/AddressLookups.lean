import Questionnaire.Proofs.AnswerTexts
import Questionnaire.Proofs.CompactReading
import Questionnaire.Web.AddressLookup

/-!
# How look-ups end

A look-up gives addresses or is refused with an error of its own, and its clients expect nothing else of it. But it
may fail in other ways: before a provider is asked, when a postcode or a key cannot be written in a URL, and after it
has answered, when lists and objects stand in one another too deep or when an integer is beyond all doubles.

* `Percent.form_eq_ok_iff`, `Url.withParameters_eq`: which parameters a URL can be given.
* `AddressLookup.target_of_serviceable`: which postcodes a provider can be asked for.
* `AddressLookup.candidates_eq_ok_iff`, `AddressLookup.candidates_fails_iff`: what becomes of an answer that is read.
* `AddressLookup.reply_cases`: what a provider may do.
* `AddressLookup.lookup_fails_otherwise_iff`: how a look-up ends.
-/

namespace Questionnaire

/-! ## Parameters of a URL -/

namespace Percent

/-- A text can be written in a form exactly if it holds no halves. -/
theorem formText_eq_ok_iff {t : Text} : (∃ s, formText t = .ok s) ↔ t.Whole := by
  have hwhole : t.Whole ↔ Text.utf8Fault? t = none := Text.utf8Fault?_eq_none_iff.symm
  unfold formText Text.utf8
  rw [hwhole]
  cases Text.utf8Fault? t <;> simp [bind, Except.bind, pure, Except.pure]

/-- A parameter can be written exactly if its name and its value can. -/
theorem formParameter_eq_ok_iff {p : Text × Text} : (∃ s, formParameter p = .ok s) ↔ p.1.Whole ∧ p.2.Whole := by
  rw [← formText_eq_ok_iff, ← formText_eq_ok_iff]
  unfold formParameter
  cases formText p.1 <;> cases formText p.2 <;> simp [bind, Except.bind, pure, Except.pure]

/-- Parameters can be written if their names and values are made of characters. -/
theorem form_eq_ok_iff {ps : List (Text × Text)} : (∃ s, form ps = .ok s) ↔ ∀ p ∈ ps, p.1.Whole ∧ p.2.Whole := by
  have hparts : (∃ parts, ps.mapM formParameter = .ok parts) ↔ ∀ p ∈ ps, p.1.Whole ∧ p.2.Whole := by
    induction ps with
    | nil => simp [pure, Except.pure]
    | cons p ps ih =>
      rw [List.forall_mem_cons, ← ih, ← formParameter_eq_ok_iff, List.mapM_cons]
      cases formParameter p <;> cases ps.mapM formParameter <;> simp [bind, Except.bind, pure, Except.pure]
  rw [← hparts]
  unfold form
  cases ps.mapM formParameter <;> simp [bind, Except.bind, pure, Except.pure]

/-- Characters can be encoded. -/
theorem encode_ofString (allowed : Char → Bool) (s : String) : encode allowed s = .ok (encodeChars allowed s) := by
  have hnone : ((Text.ofString s).findSome? fun p => Text.utf8Fault? [p]) = none := by
    rw [List.findSome?_eq_none_iff]
    intro p hp
    rw [Text.utf8Fault?_eq_none_iff]
    intro q hq
    rw [List.mem_singleton.mp hq]
    exact Text.whole_ofString s p hp
  rw [encode, hnone, Text.string_ofString]

end Percent

namespace Url

/-- The query is no matter to the other parts. -/
theorem Written.normal_query {w : Written} {t : Url} (h : { w with query := some [] }.normal = .ok t)
    (query : String) :
    { w with query := some (Text.ofString query) }.normal =
      .ok { t with query := some (Percent.encodeChars Percent.inQuery query) } := by
  have hencoded : encoded? Percent.inQuery (some (Text.ofString query)) =
      .ok (some (Percent.encodeChars Percent.inQuery query)) := by
    rw [encoded?, encoded, Percent.encode_ofString]
    rfl
  unfold normal at h ⊢
  simp only [bind_eq_ok_iff] at h
  obtain ⟨userinfo, huserinfo, host, hhost, port, hport, ⟨⟩, hpath, path, hencodedPath, none?, -, fragment, hfragment,
    h⟩ := h
  cases h
  simp only [huserinfo, hhost, hport, hpath, hencodedPath, hencoded, hfragment, bind, Except.bind]
  rfl

/-- A query is put in place of another unless it is too long. -/
theorem Written.again_query {w : Written} {t : Url} (h : { w with query := some [] }.again = .ok t) (query : String) :
    { w with query := some (Text.ofString query) }.again =
      if maxLength < query.length then .error (.partTooLong "query")
      else .ok { t with query := some (Percent.encodeChars Percent.inQuery query) } := by
  have hlength : (Text.ofString query).length = query.length := by simp [Text.ofString, String.length_toList]
  unfold again at h ⊢
  cases hlong : { w with query := some [] }.longPart? with
  | some part =>
    rw [hlong] at h
    cases h
  | none =>
    rw [hlong] at h
    have hparts : ¬ maxLength < w.scheme.length ∧ ¬ maxLength < w.authority.length ∧ ¬ maxLength < w.path.length ∧
        w.fragment.any (fun t => maxLength < t.length) = false := by
      simpa [longPart?] using hlong
    rcases hparts with ⟨hscheme, hauthority, hpath, hfragment⟩
    -- no other part is too long, so only the query can be
    by_cases hquery : maxLength < query.length
    · simp [longPart?, hscheme, hauthority, hpath, hlength, hquery]
    · have hnone : { w with query := some (Text.ofString query) }.longPart? = none := by
        simp [longPart?, hscheme, hauthority, hpath, hlength, hquery, hfragment]
      rw [hnone, if_neg hquery]
      exact normal_query h query

/-- If the URL can be given no parameters, it can be given all that can be written and are not too long. -/
theorem withParameters_eq {u t : Url} (h : u.withParameters [] = .ok t) {ps : List (Text × Text)} {query : String}
    (hquery : Percent.form ps = .ok query) :
    u.withParameters ps =
      if maxLength < query.length then .error (.partTooLong "query")
      else .ok { t with query := some (Percent.encodeChars Percent.inQuery query) } := by
  have hagain : { u.written with query := some [] }.again = .ok t := h
  rw [withParameters, hquery]
  exact Written.again_query hagain query

end Url

namespace AddressLookup

/-! ## What is asked -/

/-- Can a request be sent to a URL, if its parameters can be written? -/
def Serviceable (url : Text) : Prop :=
  ∃ u t, Url.parse url = .ok u ∧ u.isAbsolute = true ∧ u.withParameters [] = .ok t ∧ t.isAbsolute = true ∧
    t.refusal? = none

/-- Can a postcode and a key be written as parameters of a URL? -/
structure Writable (postcode key : Text) : Prop where
  wholePostcode : postcode.Whole
  wholeKey : key.Whole
  short : ∀ query, Percent.form (parameters postcode key) = .ok query → query.length ≤ Url.maxLength

/-- The parameters of a look-up can be written exactly if the postcode and the key can. -/
theorem form_parameters_eq_ok_iff {postcode key : Text} :
    (∃ query, Percent.form (parameters postcode key) = .ok query) ↔ postcode.Whole ∧ key.Whole := by
  have hwhole : (Text.ofString "postcode").Whole ∧ (Text.ofString "key").Whole ∧ Text.Whole [] := by decide
  rw [Percent.form_eq_ok_iff, parameters]
  by_cases hkey : key = [] <;> simp [hkey, hwhole]

/-- What was written, and is short enough, is writable. -/
theorem writable_of_form {postcode key : Text} {query : String}
    (h : Percent.form (parameters postcode key) = .ok query) (hshort : query.length ≤ Url.maxLength) :
    Writable postcode key := by
  obtain ⟨hpostcode, hkey⟩ := form_parameters_eq_ok_iff.mp ⟨query, h⟩
  refine ⟨hpostcode, hkey, ?_⟩
  intro query' hquery'
  rw [h] at hquery'
  cases hquery'
  exact hshort

/-- A URL to which requests can be sent is asked if the parameters can be written, and only then. -/
theorem target_of_serviceable {url : Text} (h : Serviceable url) (postcode key : Text) :
    Writable postcode key ∧ (∃ t, target postcode url key = .ok t ∧ t.isAbsolute = true) ∨
      ¬ Writable postcode key ∧ ∃ e, target postcode url key = .error e := by
  obtain ⟨u, t, hparse, habsolute, hplain, habsolute', hrefusal⟩ := h
  have hwithin : Url.empty.within u = .ok u := if_pos habsolute
  -- what cannot be written fails first, and what is too long when the URL is put together
  cases hquery : Percent.form (parameters postcode key) with
  | error e =>
    right
    constructor
    · rintro ⟨hpostcode, hkey, -⟩
      obtain ⟨query, hform⟩ := form_parameters_eq_ok_iff.mpr ⟨hpostcode, hkey⟩
      rw [hquery] at hform
      cases hform
    · have hfails : u.withParameters (parameters postcode key) = .error (.unwritable e) := by
        rw [Url.withParameters, hquery]
        rfl
      refine ⟨.unwritable e, ?_⟩
      simp only [target, hparse, hwithin, hfails, bind, Except.bind]
  | ok query =>
    have hput := Url.withParameters_eq hplain hquery
    by_cases hlong : Url.maxLength < query.length
    · right
      rw [if_pos hlong] at hput
      constructor
      · rintro ⟨-, -, hshort⟩
        exact absurd (hshort query hquery) (by omega)
      · refine ⟨.partTooLong "query", ?_⟩
        simp only [target, hparse, hwithin, hput, bind, Except.bind]
    · left
      rw [if_neg hlong] at hput
      constructor
      · exact writable_of_form hquery (by omega)
      · -- neither the scheme nor the host is changed by the query
        have hkept : { t with query := some (Percent.encodeChars Percent.inQuery query) }.refusal? = none := hrefusal
        refine ⟨{ t with query := some (Percent.encodeChars Percent.inQuery query) }, ?_, habsolute'⟩
        simp only [target, hparse, hwithin, hput, bind, Except.bind]
        rw [hkept]
        rfl

/-! ## Ways to end that exclude one another -/

/-- Is a look-up refused with a status? -/
def RefusedWith (status : Nat) (result : Except LookupFailure (List AddressAnswer)) : Prop :=
  ∃ e : LookupError, result = .error (.refused e) ∧ e.status = status

/-- Does a look-up fail in another way? -/
def Escapes (result : Except LookupFailure (List AddressAnswer)) : Prop :=
  ∃ f, result = .error f ∧ ∀ e, f ≠ .refused e

/-- A look-up is refused with one status at most. -/
theorem RefusedWith.status_eq {status status' : Nat} {result : Except LookupFailure (List AddressAnswer)}
    (h : RefusedWith status result) (h' : RefusedWith status' result) : status = status' := by
  obtain ⟨e, rfl, rfl⟩ := h
  obtain ⟨e', he, rfl⟩ := h'
  cases he
  rfl

/-- A failure that leaves the look-up is no refusal. -/
theorem Escapes.not_refusedWith {result : Except LookupFailure (List AddressAnswer)} (h : Escapes result)
    (status : Nat) : ¬ RefusedWith status result := by
  obtain ⟨f, rfl, hf⟩ := h
  rintro ⟨e, he, -⟩
  cases he
  exact hf e rfl

/-- Nor does it give addresses. -/
theorem Escapes.ne_ok {result : Except LookupFailure (List AddressAnswer)} (h : Escapes result)
    (as : List AddressAnswer) : result ≠ .ok as := by
  obtain ⟨f, rfl, -⟩ := h
  intro hok
  cases hok

/-- Nor does a refusal. -/
theorem RefusedWith.ne_ok {status : Nat} {result : Except LookupFailure (List AddressAnswer)}
    (h : RefusedWith status result) (as : List AddressAnswer) : result ≠ .ok as := by
  obtain ⟨e, rfl, -⟩ := h
  intro hok
  cases hok

/-! ## What a provider's answer holds -/

section Replies

/-- The keys of the parts of a candidate. -/
def partKeys : List Text := ["Address", "BuildingNumber", "StreetAddress", "Town", "Postcode"]

variable [Stack]

/-- Is an address what a candidate describes? -/
def Describes (v : Json) (a : AddressAnswer) : Prop :=
  part v "Address" = .ok a.fullAddress ∧ part v "BuildingNumber" = .ok a.buildingNumber ∧
    part v "StreetAddress" = .ok a.street ∧ part v "Town" = .ok a.town ∧ part v "Postcode" = .ok a.postcode

/-- Is there an integer beyond all doubles in a part of a candidate? -/
def HoldsHuge (body : Json) : Prop := ∃ v ∈ objects body, ∃ key ∈ partKeys, (v.field key).Overflows

/-- Do more values stand in one another in a part of a candidate than can be written? -/
def HoldsDeep (body : Json) : Prop := ∃ v ∈ objects body, ∃ key ∈ partKeys, (v.field key).IsTooDeep

/-- A candidate is read exactly as what it describes. -/
theorem candidate_eq_ok_iff {v : Json} {a : AddressAnswer} : candidate v = .ok a ↔ Describes v a := by
  unfold candidate Describes
  simp only [bind_eq_ok_iff]
  constructor
  · rintro ⟨_, h1, _, h2, _, h3, _, h4, _, h5, h⟩
    cases h
    exact ⟨h1, h2, h3, h4, h5⟩
  · rintro ⟨h1, h2, h3, h4, h5⟩
    exact ⟨_, h1, _, h2, _, h3, _, h4, _, h5, rfl⟩

/-- A candidate describes no address exactly if one of its parts has no text. -/
theorem candidate_fails_iff {v : Json} :
    (∃ e, candidate v = .error e) ↔ ∃ key ∈ partKeys, (v.field key).LacksText := by
  have hpart : ∀ key, (∃ e, part v key = .error e) ↔ (v.field key).LacksText := fun key =>
    Json.answerText_fails_iff _
  simp only [partKeys, List.exists_mem_cons_iff, List.not_mem_nil, false_and, exists_false, or_false, ← hpart]
  unfold candidate
  cases part v "Address" <;> cases part v "BuildingNumber" <;> cases part v "StreetAddress" <;>
    cases part v "Town" <;> cases part v "Postcode" <;> simp [bind, Except.bind, pure, Except.pure]

/-- Candidates are read in their order, objects alone. -/
theorem candidates_eq_ok_iff {body : Json} {as : List AddressAnswer} :
    candidates body = .ok as ↔ List.Forall₂ Describes (objects body) as := by
  have hdescribes : (fun v a => candidate v = .ok a) = Describes := by
    funext v a
    exact propext candidate_eq_ok_iff
  rw [← hdescribes]
  exact mapM_eq_ok_iff

/-- They cannot be read exactly if a part of one has no text. -/
theorem candidates_fails_iff {body : Json} :
    (∃ e, candidates body = .error e) ↔ HoldsDeep body ∨ HoldsHuge body := by
  have hfails : (∃ e, candidates body = .error e) ↔ ∃ v ∈ objects body, ∃ e, candidate v = .error e := mapM_fails_iff
  simp only [hfails, candidate_fails_iff, Json.LacksText, HoldsDeep, HoldsHuge, and_or_left, exists_or]
  exact or_comm

/-! ## How a look-up ends -/

/-- Is nothing asked, for want of a postcode or of a provider? -/
def Unasked (postcode url : Text) : Prop := Text.strip postcode = [] ∨ url = []

instance (postcode url : Text) : Decidable (Unasked postcode url) :=
  inferInstanceAs (Decidable (Text.strip postcode = [] ∨ url = []))

/-- Is a reply what a provider does, who is not reached or sends a response with any status and body? -/
def FromProvider : Reply → Prop
  | .response _ _ | .unreachable _ => True
  | .unwritable _ | .failure _ => False

/-- Do lists and objects stand in one another to a depth that is too great for the reader? -/
def TooDeep (body : String) : Prop := ∃ inObject offset, Json.parseSent body = .error ⟨.tooDeep inObject, offset⟩

/-- Is a reply no answer: was the provider not reached, or is the status not 200, or the body no JSON? -/
def NoAnswer : Reply → Prop
  | .unreachable _ => True
  | .response status body => status ≠ 200 ∨ (∃ e, Json.parseSent body = .error e) ∧ ¬ TooDeep body
  | .unwritable _ | .failure _ => False

/-- Does an answer that is JSON make a look-up fail? -/
def Breaks (reply : Reply) : Prop :=
  ∃ body, reply = .response 200 body ∧ (TooDeep body ∨ ∃ v, Json.parseSent body = .ok v ∧ (HoldsDeep v ∨ HoldsHuge v))

/-- Do a provider's objects describe addresses, in order? -/
def Answered (reply : Reply) (as : List AddressAnswer) : Prop :=
  ∃ body v, reply = .response 200 body ∧ Json.parseSent body = .ok v ∧ List.Forall₂ Describes (objects v) as

/-- Any other status than success is refused. -/
theorem interpret_of_ne {status : Nat} (h : status ≠ 200) (postcode : Text) (body : String) :
    (interpret postcode (.response status body)).2 = .error (.refused (.badStatus status)) := by
  rw [interpret, if_pos h]

/-- From a body that can be read candidates are taken. -/
theorem interpret_of_parseSent {body : String} {v : Json} (h : Json.parseSent body = .ok v) (postcode : Text) :
    (interpret postcode (.response 200 body)).2 = (candidates v).mapError .text := by
  rw [interpret, if_neg (by simp), h]

/-- Where the body is too deep to be read, that is the error. -/
theorem interpret_of_tooDeep {body : String} (h : TooDeep body) (postcode : Text) :
    ∃ inObject, (interpret postcode (.response 200 body)).2 = .error (.depth (.tooDeep inObject)) := by
  obtain ⟨inObject, offset, hdeep⟩ := h
  refine ⟨inObject, ?_⟩
  rw [interpret, if_neg (by simp), hdeep]

/-- A body that cannot be read for another reason is refused. -/
theorem interpret_of_unread {body : String} {e : ParseError} (h : Json.parseSent body = .error e)
    (hdeep : ¬ TooDeep body) (postcode : Text) :
    (interpret postcode (.response 200 body)).2 = .error (.refused .unreadable) := by
  rw [interpret, if_neg (by simp), h]
  split
  · next inObject offset heq =>
    cases heq
    exact absurd ⟨inObject, offset, h⟩ hdeep
  · rfl
  · next heq => cases heq

/-- Without an answer the look-up is refused with 502. -/
theorem interpret_of_noAnswer {reply : Reply} (h : NoAnswer reply) (postcode : Text) :
    RefusedWith 502 (interpret postcode reply).2 := by
  cases reply with
  | unwritable e => cases h
  | failure reason => cases h
  | unreachable reason => exact ⟨.unavailable, rfl, rfl⟩
  | response status body =>
    by_cases hstatus : status = 200
    · subst hstatus
      rcases h with hstatus | ⟨⟨e, hbody⟩, hdeep⟩
      · exact absurd rfl hstatus
      · exact ⟨.unreadable, interpret_of_unread hbody hdeep postcode, rfl⟩
    · exact ⟨.badStatus status, interpret_of_ne hstatus postcode body, rfl⟩

/-- From an answer that breaks it a failure leaves the look-up. -/
theorem interpret_of_breaks {reply : Reply} (h : Breaks reply) (postcode : Text) :
    Escapes (interpret postcode reply).2 := by
  rcases h with ⟨body, rfl, hdeep | ⟨v, hbody, hparts⟩⟩
  · obtain ⟨inObject, hresult⟩ := interpret_of_tooDeep hdeep postcode
    exact ⟨_, hresult, by simp⟩
  · obtain ⟨e, he⟩ := candidates_fails_iff.mpr hparts
    have hresult := interpret_of_parseSent hbody postcode
    rw [he] at hresult
    exact ⟨.text e, hresult, by simp⟩

/-- From any other answer addresses are given. -/
theorem interpret_of_answered {reply : Reply} {as : List AddressAnswer} (h : Answered reply as) (postcode : Text) :
    (interpret postcode reply).2 = .ok as := by
  obtain ⟨body, v, rfl, hbody, has⟩ := h
  rw [interpret_of_parseSent hbody, candidates_eq_ok_iff.mpr has]
  rfl

/-- A provider gives no answer, or one that makes the look-up fail, or one with addresses. -/
theorem reply_cases {reply : Reply} (h : FromProvider reply) :
    NoAnswer reply ∨ Breaks reply ∨ ∃ as, Answered reply as := by
  cases reply with
  | unwritable e => cases h
  | failure reason => cases h
  | unreachable reason => exact .inl trivial
  | response status body =>
    -- only a body that came with status 200 is looked at, and it breaks the reading, holds no value or has candidates
    by_cases hstatus : status = 200
    · subst hstatus
      cases hbody : Json.parseSent body with
      | error e =>
        by_cases hdeep : TooDeep body
        · exact .inr (.inl ⟨body, rfl, .inl hdeep⟩)
        · exact .inl (.inr ⟨⟨e, hbody⟩, hdeep⟩)
      | ok v =>
        cases has : candidates v with
        | error e => exact .inr (.inl ⟨body, rfl, .inr ⟨v, hbody, candidates_fails_iff.mp ⟨e, has⟩⟩⟩)
        | ok as => exact .inr (.inr ⟨as, body, v, rfl, hbody, candidates_eq_ok_iff.mp has⟩)
    · exact .inl (.inl hstatus)

/-- A reply is the reason for a refusal, with status 502, if it is no answer, and only then. -/
theorem interpret_refusedWith_iff {reply : Reply} (h : FromProvider reply) (postcode : Text) {status : Nat} :
    RefusedWith status (interpret postcode reply).2 ↔ status = 502 ∧ NoAnswer reply := by
  constructor
  · intro hrefused
    rcases reply_cases h with hnone | hbreaks | ⟨as, has⟩
    · exact ⟨hrefused.status_eq (interpret_of_noAnswer hnone postcode), hnone⟩
    · exact absurd hrefused ((interpret_of_breaks hbreaks postcode).not_refusedWith status)
    · exact absurd (interpret_of_answered has postcode) (hrefused.ne_ok as)
  · rintro ⟨rfl, hnone⟩
    exact interpret_of_noAnswer hnone postcode

/-- There is no other way for a failure to leave it. -/
theorem interpret_escapes_iff {reply : Reply} (h : FromProvider reply) (postcode : Text) :
    Escapes (interpret postcode reply).2 ↔ Breaks reply := by
  constructor
  · intro hescapes
    rcases reply_cases h with hnone | hbreaks | ⟨as, has⟩
    · exact absurd (interpret_of_noAnswer hnone postcode) (hescapes.not_refusedWith 502)
    · exact hbreaks
    · exact absurd (interpret_of_answered has postcode) (hescapes.ne_ok as)
  · intro hbreaks
    exact interpret_of_breaks hbreaks postcode

/-- Nor is there another way to get addresses. -/
theorem interpret_eq_ok_iff {reply : Reply} (h : FromProvider reply) (postcode : Text) {as : List AddressAnswer} :
    (interpret postcode reply).2 = .ok as ↔ Answered reply as := by
  constructor
  · intro hok
    rcases reply_cases h with hnone | hbreaks | ⟨as', has⟩
    · exact absurd hok ((interpret_of_noAnswer hnone postcode).ne_ok as)
    · exact absurd hok ((interpret_of_breaks hbreaks postcode).ne_ok as)
    · rw [interpret_of_answered has postcode] at hok
      cases hok
      exact has
  · intro has
    exact interpret_of_answered has postcode

/-! ## Whole look-ups -/

/-- Without a postcode or a URL nothing is asked. -/
theorem run_of_unasked {postcode url : Text} (h : Unasked postcode url) (key : Text) (reply : Reply) :
    (run postcode url key reply).request = none ∧ RefusedWith 400 (run postcode url key reply).result := by
  unfold run
  by_cases hpostcode : Text.strip postcode = []
  · rw [if_pos hpostcode]
    exact ⟨rfl, .blankPostcode, rfl, rfl⟩
  · have hurl : url = [] := h.resolve_left hpostcode
    rw [if_neg hpostcode, if_pos hurl]
    exact ⟨rfl, .notConfigured, rfl, rfl⟩

/-- A request that cannot be written is not sent, and the failure is no refusal. -/
theorem run_of_not_writable {postcode url key : Text} (hasked : ¬ Unasked postcode url) (hurl : Serviceable url)
    (h : ¬ Writable (Text.strip postcode) key) (reply : Reply) :
    (run postcode url key reply).request = none ∧ Escapes (run postcode url key reply).result := by
  obtain ⟨hpostcode, hnonempty⟩ := not_or.mp hasked
  rcases target_of_serviceable hurl (Text.strip postcode) key with ⟨hwritable, -⟩ | ⟨-, e, htarget⟩
  · exact absurd hwritable h
  · simp only [run, if_neg hpostcode, if_neg hnonempty, htarget]
    exact ⟨trivial, .url e, rfl, by simp⟩

/-- A provider that is asked is what decides. -/
theorem run_of_writable {postcode url key : Text} (hasked : ¬ Unasked postcode url) (hurl : Serviceable url)
    (h : Writable (Text.strip postcode) key) (reply : Reply) :
    (run postcode url key reply).request ≠ none ∧
      (run postcode url key reply).result = (interpret (Text.strip postcode) reply).2 := by
  obtain ⟨hpostcode, hnonempty⟩ := not_or.mp hasked
  rcases target_of_serviceable hurl (Text.strip postcode) key with ⟨-, t, htarget, habsolute⟩ | ⟨hwritable, -⟩
  · have hheard : t.heard reply = .ok reply := by
      cases reply <;> simp [Url.heard, habsolute]
    simp only [run, if_neg hpostcode, if_neg hnonempty, htarget, hheard]
    exact ⟨by simp, trivial⟩
  · exact absurd h hwritable

/-- **How a look-up ends.** A request can be sent to the URL, or there is none, and a provider that is asked is not
reached or sends a response with some status and body. Nothing is asked for a blank postcode or without a URL, which
is refused with status 400, and for a postcode or a key that cannot be written. With status 502 a look-up is refused
exactly if the provider was asked and gave no answer. Addresses are what the objects in the list of an answer
describe, in order. But a failure that is no refusal leaves a look-up if the postcode or the key cannot be written,
or if values in the answer stand in one another too deep to be read or to be written, or if a part of a candidate
holds an integer beyond all doubles. -/
theorem lookup_fails_otherwise_iff (postcode url key : Text) (reply : Reply) (hurl : url = [] ∨ Serviceable url)
    (hreply : FromProvider reply) :
    let asked := ¬ Unasked postcode url ∧ Writable (Text.strip postcode) key
    let l := run postcode url key reply
    (RefusedWith 400 l.result ↔ Unasked postcode url) ∧
    (l.request ≠ none ↔ asked) ∧
    (RefusedWith 502 l.result ↔ asked ∧ NoAnswer reply) ∧
    (∀ as, l.result = .ok as ↔ asked ∧ Answered reply as) ∧
    (Escapes l.result ↔ ¬ Unasked postcode url ∧ ¬ Writable (Text.strip postcode) key ∨ asked ∧ Breaks reply) := by
  intro asked l
  by_cases hunasked : Unasked postcode url
  · -- nothing is asked: the look-up is refused
    have hasked : ¬ asked := fun h => h.1 hunasked
    obtain ⟨hrequest, hrefused⟩ := run_of_unasked hunasked key reply
    refine ⟨?_, ?_, ?_, ?_, ?_⟩
    · exact iff_of_true hrefused hunasked
    · exact iff_of_false (not_not.mpr hrequest) hasked
    · exact iff_of_false (fun h => absurd (hrefused.status_eq h) (by decide)) (fun h => hasked h.1)
    · intro as
      exact iff_of_false (hrefused.ne_ok as) (fun h => hasked h.1)
    · exact iff_of_false (fun h => h.not_refusedWith 400 hrefused)
        (fun h => h.elim (fun h => h.1 hunasked) (fun h => hasked h.1))
  · have hserviceable : Serviceable url := hurl.resolve_left (fun h => hunasked (.inr h))
    by_cases hwritable : Writable (Text.strip postcode) key
    · -- the provider is asked, and its reply decides
      have hasked : asked := ⟨hunasked, hwritable⟩
      obtain ⟨hrequest, hresult⟩ := run_of_writable hunasked hserviceable hwritable reply
      have hnever : ¬ (¬ Unasked postcode url ∧ ¬ Writable (Text.strip postcode) key) := fun h => h.2 hwritable
      show (RefusedWith 400 (run postcode url key reply).result ↔ _) ∧ _ ∧
        (RefusedWith 502 (run postcode url key reply).result ↔ _) ∧
        (∀ as, (run postcode url key reply).result = .ok as ↔ _) ∧ (Escapes (run postcode url key reply).result ↔ _)
      rw [hresult, interpret_refusedWith_iff hreply, interpret_refusedWith_iff hreply, interpret_escapes_iff hreply]
      refine ⟨?_, ?_, ?_, ?_, ?_⟩
      · exact iff_of_false (fun h => absurd h.1 (by decide)) hunasked
      · exact iff_of_true hrequest hasked
      · exact and_congr_left fun _ => iff_of_true rfl hasked
      · intro as
        rw [interpret_eq_ok_iff hreply]
        exact (and_iff_right hasked).symm
      · rw [or_iff_right hnever]
        exact (and_iff_right hasked).symm
    · -- the request cannot be written, which is no refusal
      have hasked : ¬ asked := fun h => hwritable h.2
      obtain ⟨hrequest, hescapes⟩ := run_of_not_writable hunasked hserviceable hwritable reply
      refine ⟨?_, ?_, ?_, ?_, ?_⟩
      · exact iff_of_false (hescapes.not_refusedWith 400) hunasked
      · exact iff_of_false (not_not.mpr hrequest) hasked
      · exact iff_of_false (hescapes.not_refusedWith 502) (fun h => hasked h.1)
      · intro as
        exact iff_of_false (hescapes.ne_ok as) (fun h => hasked h.1)
      · exact iff_of_true hescapes (.inl ⟨hunasked, hwritable⟩)

end Replies

/-- The URL of a provider. -/
def providerAddress : Text := "https://lookup.example.com/find"

/-- Requests can be sent to it. -/
theorem serviceable_providerAddress : Serviceable providerAddress := by
  refine ⟨⟨"https", "", "lookup.example.com", none, "/find", none, none⟩,
    ⟨"https", "", "lookup.example.com", none, "/find", some "", none⟩, ?_, ?_, ?_, ?_, ?_⟩
  all_goals decide +kernel

/-- Of two entries in an answer the object describes an address. -/
theorem lookup_fails_otherwise_iff_of_two_entries :
    let body := "[\x7b\"Address\": \"1 The Mall\", \"Town\": null\x7d, 5]"
    Serviceable providerAddress ∧ FromProvider (.response 200 body) ∧
      (run " SW1A " providerAddress [] (.response 200 body)).result =
        .ok [{ fullAddress := "1 The Mall", buildingNumber := "", street := "", town := "", postcode := "" }] := by
  intro body
  have hform : Percent.form (parameters (Text.strip " SW1A ") []) = .ok "postcode=SW1A" := by decide +kernel
  have hwritable : Writable (Text.strip " SW1A ") [] := writable_of_form hform (by decide +kernel)
  have hunasked : ¬ Unasked " SW1A " providerAddress := by decide +kernel
  have hanswered : Answered (.response 200 body)
      [{ fullAddress := "1 The Mall", buildingNumber := "", street := "", town := "", postcode := "" }] := by
    refine ⟨body, .arr [.obj [("Address", .str "1 The Mall"), ("Town", .null)], .int 5], rfl, ?_, ?_⟩
    · decide +kernel
    · exact .cons ⟨rfl, rfl, rfl, rfl, rfl⟩ .nil
  obtain ⟨-, -, -, hok, -⟩ := lookup_fails_otherwise_iff " SW1A " providerAddress [] (.response 200 body)
    (.inr serviceable_providerAddress) trivial
  exact ⟨serviceable_providerAddress, trivial, (hok _).mpr ⟨⟨hunasked, hwritable⟩, hanswered⟩⟩

/-- A body whose one candidate has an integer of 309 digits for its address. -/
def hugeBody : String := "[\x7b\"Address\": " ++ String.ofList (List.replicate 309 '9') ++ "\x7d]"

/-- The body is read, for so many digits are allowed. -/
theorem parseSent_hugeBody :
    Json.parseSent hugeBody = .ok (.arr [.obj [("Address", .int (10 ^ 309 - 1 : Nat))]]) := by
  have hdigits : Text.ofString (String.ofList (List.replicate 309 '9')) = List.replicate 309 (CodePoint.char '9') := by
    rw [Text.ofString, String.toList_ofList, List.map_replicate]
  have htext : Text.ofString hugeBody =
      Text.ofString "[\x7b\"Address\": " ++ List.replicate 309 (CodePoint.char '9') ++ Text.ofString "\x7d]" := by
    rw [hugeBody, Text.ofString_append, Text.ofString_append, hdigits]
  rw [Json.parseSent_of_bytes htext (by decide +kernel) (by decide +kernel)]
  decide +kernel

/-- A provider is asked, sends JSON with status 200 and makes the look-up fail, and no look-up error is the reason. -/
theorem huge_integer_leaves_lookup :
    Serviceable providerAddress ∧ (∃ v, Json.parseSent hugeBody = .ok v) ∧
      (run "SW1A 2AA" providerAddress [] (.response 200 hugeBody)).request ≠ none ∧
      (run "SW1A 2AA" providerAddress [] (.response 200 hugeBody)).result = .error (.text .integerTooLarge) := by
  have hform : Percent.form (parameters (Text.strip "SW1A 2AA") []) = .ok "postcode=SW1A+2AA" := by decide +kernel
  have hwritable : Writable (Text.strip "SW1A 2AA") [] := writable_of_form hform (by decide +kernel)
  have hunasked : ¬ Unasked "SW1A 2AA" providerAddress := by decide +kernel
  have hcandidates : candidates (.arr [.obj [("Address", .int (10 ^ 309 - 1 : Nat))]]) = .error .integerTooLarge := by
    decide +kernel
  obtain ⟨hrequest, hresult⟩ := run_of_writable hunasked serviceable_providerAddress hwritable (.response 200 hugeBody)
  refine ⟨serviceable_providerAddress, ⟨_, parseSent_hugeBody⟩, hrequest, ?_⟩
  rw [hresult, interpret_of_parseSent parseSent_hugeBody, hcandidates]
  rfl

end AddressLookup
end Questionnaire
