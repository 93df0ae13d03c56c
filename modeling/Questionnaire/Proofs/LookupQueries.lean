import Questionnaire.Proofs.AddressLookups
import Questionnaire.Proofs.UrlSigns

/-!
# Queries of look-ups

The URL of a provider may have a query of its own, but the parameters of a look-up are put in place of it. They arrive
as they are, whatever characters a postcode and a key are made of, and they arrive alone: what the URL had is kept
only if that was nothing.

* `Url.parametersOf`: the parameters in the text of a URL.
* `AddressLookup.parametersOf_request`: the parameters in the URL that is asked for.
* `AddressLookup.lookup_keeps_parameters_iff`: when a provider gets its own parameters.
-/

namespace Questionnaire

/-! ## Parameters of a URL that is written -/

namespace Url

/-- The parameters in the text of a URL. Without a query there are none. -/
def parametersOf (t : Text) : List (Text × Text) := ((Written.ofText t).query.map Percent.formEntries).getD []

/-- The query of a normal URL is the one that was written, encoded. -/
theorem Written.query_normal {w : Written} {u : Url} (h : w.normal = .ok u) :
    encoded? Percent.inQuery w.query = .ok u.query := by
  unfold normal at h
  simp only [bind_eq_ok_iff] at h
  rcases h with ⟨userinfo, -, host, -, port, -, ⟨⟩, -, path, -, query, hquery, fragment, -, h⟩
  cases h
  exact hquery

/-- To read a URL again is to make it normal, unless a part is too long. -/
theorem Written.normal_of_again {w : Written} {u : Url} (h : w.again = .ok u) : w.normal = .ok u := by
  unfold again at h
  split at h
  · cases h
  · exact h

/-- So the parts of a URL that was read are apart. -/
theorem apart_parse {t : Text} {u : Url} (h : parse t = .ok u) : u.Apart := by
  unfold parse at h
  split at h
  · cases h
  · split at h
    · cases h
    · exact Written.apart_normal (Written.unmarked_ofText t).1 (Written.unmarked_ofText t).2 h

/-- They still are where a URL is taken from the empty one. -/
theorem apart_within {u v : Url} (hu : u.Apart) (h : empty.within u = .ok v) : v.Apart := by
  unfold within at h
  split at h
  · cases h
    exact hu
  · exact Written.apart_normal Text.unmarked_nil Text.unmarked_nil (Written.normal_of_again h)

/-- Parameters are read from the URL to which they were given as they are, and no others with them. -/
theorem parametersOf_withParameters {u t : Url} {ps : List (Text × Text)} (hu : u.Apart)
    (h : u.withParameters ps = .ok t) : parametersOf t.render.string = ps := by
  unfold withParameters at h
  simp only [bind_eq_ok_iff, mapError_eq_ok] at h
  rcases h with ⟨query, hform, h⟩
  have hnormal := Written.normal_of_again h
  have hapart := Written.apart_normal hu.scheme hu.unmarked_authority hnormal
  have hencoded := Written.query_normal hnormal
  rw [encoded?, encoded, Percent.encode_ofString, Percent.encodeChars_of_form hform] at hencoded
  have hquery : t.query = some query := (Except.ok.inj hencoded).symm
  rw [parametersOf, hapart.query_ofText hquery (Percent.notMem_of_form hform)]
  exact Percent.formEntries_of_form hform

end Url

namespace AddressLookup

/-! ## What a provider is asked -/

/-- The parameters in the URL that is asked for are those of the look-up. -/
theorem parametersOf_target {postcode url key : Text} {t : Url} (h : target postcode url key = .ok t) :
    Url.parametersOf t.render.string = parameters postcode key := by
  unfold target at h
  simp only [bind_eq_ok_iff] at h
  rcases h with ⟨u, hparse, v, hwithin, t', hput, h⟩
  split at h
  · cases h
  · cases h
    exact Url.parametersOf_withParameters (Url.apart_within (Url.apart_parse hparse) hwithin) hput

/-- The empty text is no URL to which requests can be sent. -/
theorem Serviceable.ne_nil {url : Text} (h : Serviceable url) : url ≠ [] := by
  rintro rfl
  rcases h with ⟨u, t, hparse, habsolute, -⟩
  have hempty : Url.parse [] = .ok Url.empty := by decide +kernel
  rw [hempty] at hparse
  cases hparse
  cases habsolute

/-- The request to a provider has the parameters of the look-up and no others. -/
theorem parametersOf_request [Stack] {postcode url key : Text} {reply : Reply} {request : OutboundRequest}
    (h : (run postcode url key reply).request = some request) :
    Url.parametersOf request.url = parameters (Text.strip postcode) key := by
  unfold run at h
  simp only at h
  split at h
  · cases h
  · split at h
    · cases h
    · split at h
      · cases h
      · next t htarget =>
        -- the request is the same whatever is heard of it
        have hrequest : OutboundRequest.to t "GET" [] "" = request := by
          split at h <;> exact Option.some.inj h
        rw [← hrequest]
        exact parametersOf_target htarget

/-- **What becomes of a provider's own parameters.** A provider that can be asked is asked for every postcode that is
not blank, if the postcode and the key can be written, and only then. It gets the postcode, without the blanks around
it, and the key if there is one, as they are: whatever characters they are made of, what is read from the query of the
URL is what was to be said. But the query of the provider's URL, if it has one, is gone. So the parameters in the URL
that is asked for are those of the provider's URL followed by those of the look-up only if the provider's URL has
none. -/
theorem lookup_keeps_parameters_iff [Stack] {postcode url key : Text} (hurl : Serviceable url)
    (hpostcode : Text.strip postcode ≠ []) (reply : Reply) :
    let l := run postcode url key reply
    (l.request ≠ none ↔ Writable (Text.strip postcode) key) ∧
    ∀ request, l.request = some request →
      Url.parametersOf request.url = parameters (Text.strip postcode) key ∧
      (Url.parametersOf request.url = Url.parametersOf url ++ parameters (Text.strip postcode) key ↔
        Url.parametersOf url = []) := by
  intro l
  have hasked : ¬ Unasked postcode url := not_or.mpr ⟨hpostcode, hurl.ne_nil⟩
  constructor
  · constructor
    · intro hrequest
      by_contra hwritable
      exact hrequest (run_of_not_writable hasked hurl hwritable reply).1
    · intro hwritable
      exact (run_of_writable hasked hurl hwritable reply).1
  · intro request hrequest
    -- the query is replaced, so only the parameters of the look-up are left
    have hparameters := parametersOf_request hrequest
    refine ⟨hparameters, ?_⟩
    rw [hparameters]
    constructor
    · intro hkept
      exact List.append_left_eq_self.mp hkept.symm
    · intro hnone
      rw [hnone, List.nil_append]

/-- A key with the signs of a form in it arrives as it is, at a provider without parameters of its own. -/
theorem lookup_keeps_parameters_iff_of_key_with_signs :
    let l := run " SW1A 2AA " providerAddress "k&=+%é" (.response 200 "[]")
    let expected : List (Text × Text) := [("postcode", "SW1A 2AA"), ("key", "k&=+%é")]
    Serviceable providerAddress ∧ Text.strip " SW1A 2AA " ≠ [] ∧
      ∃ request, l.request = some request ∧
        Url.parametersOf request.url = Url.parametersOf providerAddress ++ expected := by
  intro l expected
  have hform : Percent.form (parameters (Text.strip " SW1A 2AA ") "k&=+%é") =
      .ok "postcode=SW1A+2AA&key=k%26%3D%2B%25%C3%A9" := by decide +kernel
  have hwritable : Writable (Text.strip " SW1A 2AA ") "k&=+%é" := writable_of_form hform (by decide +kernel)
  have hpostcode : Text.strip " SW1A 2AA " ≠ [] := by decide +kernel
  have hexpected : parameters (Text.strip " SW1A 2AA ") "k&=+%é" = expected := by decide +kernel
  rcases lookup_keeps_parameters_iff serviceable_providerAddress hpostcode (.response 200 "[]") with ⟨hasked, hkept⟩
  rcases Option.ne_none_iff_exists'.mp (hasked.mpr hwritable) with ⟨request, hrequest⟩
  refine ⟨serviceable_providerAddress, hpostcode, request, hrequest, ?_⟩
  rw [← hexpected]
  exact (hkept request hrequest).2.mpr (by decide +kernel)

/-- The URL of a provider with a parameter of its own. -/
def formatAddress : Text := "https://lookup.example.com/find?format=json"

/-- A provider that is to be asked for JSON is asked without it. -/
theorem parameter_of_provider_is_lost :
    Serviceable formatAddress ∧ Url.parametersOf formatAddress = ([("format", "json")] : List (Text × Text)) ∧
      ∃ request, (run "SW1A 2AA" formatAddress [] (.response 200 "[]")).request = some request ∧
        request.url = "https://lookup.example.com/find?postcode=SW1A+2AA" ∧
        Url.parametersOf request.url ≠
          Url.parametersOf formatAddress ++ parameters (Text.strip "SW1A 2AA") [] := by
  have hserviceable : Serviceable formatAddress := by
    refine ⟨⟨"https", "", "lookup.example.com", none, "/find", some "format=json", none⟩,
      ⟨"https", "", "lookup.example.com", none, "/find", some "", none⟩, ?_, ?_, ?_, ?_, ?_⟩
    all_goals decide +kernel
  refine ⟨hserviceable, by decide +kernel,
    ⟨"GET", "https://lookup.example.com/find?postcode=SW1A+2AA", [], ""⟩, ?_, rfl, ?_⟩
  · decide +kernel
  · decide +kernel

end AddressLookup
end Questionnaire
