import Mathlib.Data.List.Infix
import Questionnaire.Proofs.FormCoding
import Questionnaire.Proofs.Names
import Questionnaire.Proofs.ScriptData
import Questionnaire.Web.Outbound

/-!
# Signs in the parts of a URL

A question mark ends the path of a URL and a number sign its query. Where either stands in another part it is encoded,
and in a scheme or a host it cannot stand at all: a host is an address in numbers, or encoded, or made of labels whose
ASCII forms are letters, digits and hyphens beside the ASCII characters of labels. So the query of a URL is read from
its text as it was.

* `Text.Unmarked`: texts without the two signs.
* `Host.unmarked_normal`: hosts, from `Label.unmarked_toAscii?` and `Punycode.unmarked_encode` for their labels.
* `Url.Apart`: URLs in which the two signs stand only where they belong; `Url.Written.apart_normal` finds them so.
* `Url.Written.query_ofText`: where the query of a text is.
* `Url.Apart.query_ofText`: the query of a URL is read from its text.
-/

namespace Questionnaire

/-! ## The signs that end a path -/

/-- Does a code point end the path of a URL? -/
def endsPath (p : CodePoint) : Bool := p = '?' || p = '#'

/-- Does no code point of a text end the path of a URL? -/
def Text.Unmarked (t : Text) : Prop := ∀ p ∈ t, endsPath p = false

/-- Whether a text is without the signs is found by looking at its code points. -/
instance (t : Text) : Decidable t.Unmarked := inferInstanceAs (Decidable (∀ p ∈ t, endsPath p = false))

namespace Text

variable {s t : Text}

/-- Halves are replaced one by one, so the string of two texts is made of theirs. -/
theorem string_append (s t : Text) : string (s ++ t) = string s ++ string t := by
  rw [string, List.flatMap_append, String.ofList_append]
  rfl

theorem unmarked_nil : Unmarked [] := nofun

theorem unmarked_append : Unmarked (s ++ t) ↔ Unmarked s ∧ Unmarked t := List.forall_mem_append

theorem unmarked_cons {p : CodePoint} : Unmarked (p :: t) ↔ endsPath p = false ∧ Unmarked t := List.forall_mem_cons

/-- Taking code points away, or putting them in another order, brings in no sign. -/
theorem Unmarked.of_subset (h : Unmarked t) (hs : s ⊆ t) : Unmarked s := fun p hp => h p (hs hp)

theorem unmarked_reverse : Unmarked t.reverse ↔ Unmarked t := by
  simp only [Unmarked, List.mem_reverse]

/-- A sign that ends paths is not found in such a text. -/
theorem Unmarked.notMem (h : Unmarked t) {p : CodePoint} (hp : endsPath p = true) : p ∉ t := by
  intro hmem
  rw [h p hmem] at hp
  cases hp

/-- Only a question mark and a number sign end a path. -/
theorem eq_or_eq_of_endsPath {p : CodePoint} (h : endsPath p = true) : p = '?' ∨ p = '#' := by
  simpa [endsPath] using h

/-- A test that both signs fail finds texts without them. -/
theorem unmarked_of_forall {f : CodePoint → Bool} (hquestion : f '?' = false) (hnumber : f '#' = false)
    (h : ∀ p ∈ t, f p = true) : Unmarked t := by
  intro p hp
  rw [← Bool.not_eq_true]
  intro hends
  have hf := h p hp
  rcases eq_or_eq_of_endsPath hends with rfl | rfl
  · rw [hquestion] at hf
    cases hf
  · rw [hnumber] at hf
    cases hf

/-- The two signs by their code points, in which lower case is counted. -/
theorem endsPath_iff_toNat {p : CodePoint} : endsPath p = true ↔ p.toNat = 63 ∨ p.toNat = 35 := by
  have hchar : ∀ c d : Char, CodePoint.char c = d ↔ c.toNat = d.toNat := by
    intro c d
    rw [CodePoint.char.injEq, Char.ext_iff, UInt32.ext_iff]
    rfl
  cases p with
  | half index =>
    -- halves come long after the signs
    have hlarge : 0xD800 ≤ (CodePoint.half index).toNat := Nat.le_add_right _ _
    have hends : endsPath (CodePoint.half index) = false := rfl
    rw [hends]
    exact iff_of_false Bool.false_ne_true (by omega)
  | char c =>
    simp only [endsPath, Bool.or_eq_true, decide_eq_true_eq, hchar]
    rfl

/-- Lower case neither makes nor removes the signs. -/
theorem endsPath_lowerAscii (p : CodePoint) : endsPath p.lowerAscii = endsPath p := by
  cases p with
  | half index => rfl
  | char c =>
    have hself : (CodePoint.char c).toNat = c.toNat := rfl
    rw [Bool.eq_iff_iff, endsPath_iff_toNat, endsPath_iff_toNat, Markup.toNat_lowerAscii, hself]
    split <;> omega

/-- So a text has the signs that it has in lower case. -/
theorem unmarked_lowerAscii : Unmarked t.lowerAscii ↔ Unmarked t := by
  simp only [Unmarked, lowerAscii, List.forall_mem_map, endsPath_lowerAscii]

/-- Nor do the replacements for halves. -/
theorem unmarked_ofString_string (h : Unmarked t) : Unmarked (ofString t.string) := by
  intro p hp
  rcases List.mem_map.mp hp with ⟨c, hc, rfl⟩
  rw [string, String.toList_ofList] at hc
  rcases List.mem_flatMap.mp hc with ⟨q, hq, hc⟩
  cases q with
  | char d =>
    rw [List.mem_singleton.mp hc]
    exact h _ hq
  -- a half becomes the replacement character, which is no sign either
  | half index =>
    have hreplacement : c = CodePoint.replacement := by simpa [CodePoint.chars] using hc
    rw [hreplacement]
    rfl

/-- Parts without the signs are joined to a text without them, if what stands between them has none. -/
theorem unmarked_intercalate {separator : Text} {parts : List Text} (hseparator : Unmarked separator)
    (h : ∀ part ∈ parts, Unmarked part) : Unmarked (intercalate separator parts) :=
  forall_mem_intercalate hseparator h

end Text

open Text (Unmarked unmarked_append unmarked_cons unmarked_nil unmarked_of_forall unmarked_intercalate)

/-! ## Encoded parts -/

/-- Encoding leaves a sign only if it is allowed to stand. -/
theorem Percent.unmarked_encodeChars {allowed : Char → Bool} (hquestion : allowed '?' = false)
    (hnumber : allowed '#' = false) (s : String) : Unmarked (Percent.encodeChars allowed s) := by
  -- what may stand in the encoded text, as one test
  let stands : CodePoint → Bool := fun p => p.chars.all fun c => c = '%' || Percent.isUnreserved c || allowed c
  have hchar : ∀ c : Char, stands c = (decide (c = '%') || Percent.isUnreserved c || allowed c) :=
    fun _ => Bool.and_true _
  have hstands : ∀ p ∈ Text.ofString (Percent.encodeChars allowed s), stands p = true := by
    intro p hp
    rcases List.mem_map.mp hp with ⟨c, hc, rfl⟩
    rw [hchar]
    rw [Percent.encodeChars, String.toList_ofList] at hc
    rcases List.mem_flatMap.mp hc with ⟨d, -, hd⟩
    split at hd
    · next hallowed => rw [List.mem_singleton.mp hd, Bool.or_assoc, hallowed, Bool.or_true]
    · rcases Percent.mem_escape hd with rfl | hunreserved
      · rfl
      · rw [hunreserved, Bool.or_true, Bool.true_or]
  -- neither sign is unreserved
  exact unmarked_of_forall ((hchar '?').trans hquestion) ((hchar '#').trans hnumber) hstands

/-- The same of a part of a URL, where it can be encoded. -/
theorem Url.unmarked_encoded {allowed : Char → Bool} (hquestion : allowed '?' = false) (hnumber : allowed '#' = false)
    {t : Text} {s : String} (h : Url.encoded allowed t = .ok s) : Unmarked s := by
  unfold Url.encoded Percent.encode at h
  split at h
  · cases h
  · rw [← Except.ok.inj h]
    exact Percent.unmarked_encodeChars hquestion hnumber _

/-! ## Names of hosts -/

namespace Punycode

/-- The digits of labels are letters and decimal digits. -/
theorem endsPath_digitChar : ∀ d < 36, endsPath (digitChar d) = false := by decide

/-- A number is written with digits alone. -/
theorem unmarked_digits (bias place n : Nat) : Unmarked (digits bias place n) := by
  fun_induction digits bias place n with
  | case1 place n t h =>
    have ht : t ≤ 26 := threshold_le place bias
    exact unmarked_cons.mpr ⟨endsPath_digitChar _ (by omega), unmarked_nil⟩
  | case2 place n t h ih =>
    -- the threshold and a remainder below what it leaves of the base
    have ht : t ≤ 26 := threshold_le place bias
    have hdigit : t + (n - t) % (base - t) < 36 := by
      have hmod := Nat.mod_lt (n - t) (show 0 < base - t by unfold base; omega)
      unfold base at hmod
      unfold base
      omega
    exact unmarked_cons.mpr ⟨endsPath_digitChar _ hdigit, ih⟩

/-- A step of the encoder writes no more than a number. -/
theorem unmarked_step {basics code : Nat} {e : Encoding} (h : Unmarked e.written) (c : CodePoint) :
    Unmarked (step basics code e c).written := by
  unfold step
  split
  · exact h
  · split
    · exact unmarked_append.mpr ⟨Text.unmarked_reverse.mpr (unmarked_digits _ _ _), h⟩
    · exact h

/-- Neither do all its steps together. -/
theorem unmarked_writeCodes {label : Text} {basics : Nat} {codes : List Nat} {next : Nat} {e : Encoding}
    (h : Unmarked e.written) : Unmarked (writeCodes label basics codes next e).written := by
  -- first through the label for one code point, then through the code points
  have hlabel : ∀ (code : Nat) (e : Encoding), Unmarked e.written →
      Unmarked (label.foldl (step basics code) e).written := by
    intro code
    induction label with
    | nil => exact fun e h => h
    | cons c label ih => exact fun e h => ih _ (unmarked_step h c)
  induction codes generalizing next e with
  | nil => exact h
  | cons code codes ih => exact ih (hlabel code _ h)

/-- The encoded form of a label holds its ASCII characters, a hyphen behind them, and digits. -/
theorem unmarked_encode {label : Text} (h : Unmarked label) : Unmarked (encode label) := by
  -- the ASCII characters, the hyphen, and the written numbers
  refine unmarked_append.mpr ⟨unmarked_append.mpr ⟨?_, ?_⟩, ?_⟩
  · exact h.of_subset (List.filter_subset_self label)
  · split
    · exact unmarked_nil
    · decide
  · exact Text.unmarked_reverse.mpr (unmarked_writeCodes unmarked_nil)

end Punycode

namespace Label

/-- The signs have no place in a label. -/
theorem endsPath_of_placeFault? {label before after : Text} {p : CodePoint}
    (h : placeFault? label p before after = none) : endsPath p = false := by
  have hquestion : Host.characterClass '?' = .nowhere := by decide +kernel
  have hnumber : Host.characterClass '#' = .nowhere := by decide +kernel
  rw [← Bool.not_eq_true]
  intro hends
  rcases Text.eq_or_eq_of_endsPath hends with rfl | rfl
  · simp [placeFault?, hquestion] at h
  · simp [placeFault?, hnumber] at h

/-- So a label whose characters are all in their places has none. -/
theorem unmarked_of_checkPlaces {label before rest : Text} (h : checkPlaces label before rest = .ok ()) :
    Unmarked rest := by
  induction rest generalizing before with
  | nil => exact unmarked_nil
  | cons p rest ih =>
    unfold checkPlaces at h
    split at h
    · cases h
    · next hfault => exact unmarked_cons.mpr ⟨endsPath_of_placeFault? hfault, ih h⟩

/-- The places of the characters are among what is checked of a label. -/
theorem unmarked_of_check {label : Text} (h : check label = .ok ()) : Unmarked label := by
  unfold check at h
  simp only [bind_eq_ok_iff] at h
  rcases h with ⟨_, -, _, hplaces, -⟩
  exact unmarked_of_checkPlaces hplaces

/-- An ASCII form passes as the form of a label that passes, or as such a label itself. -/
theorem unmarked_of_checkAscii {t : Text} (h : checkAscii t = .ok ()) : Unmarked t := by
  rw [← Text.unmarked_lowerAscii]
  unfold checkAscii at h
  simp only at h
  split at h
  · next hmark =>
    rcases List.isPrefixOf_iff_prefix.mp hmark with ⟨form, hform⟩
    rw [← hform, List.drop_left] at h
    rw [← hform]
    split at h
    · cases h
    · split at h
      · cases h
      · split at h
        · cases h
        · next label hlabel =>
          -- the form is that of a label, and nothing else stands in it than in the label
          simp only [bind_eq_ok_iff] at h
          rcases h with ⟨_, hcheck, h⟩
          split at h
          · next hencode =>
            rw [← hencode]
            exact unmarked_append.mpr ⟨by decide, Punycode.unmarked_encode (unmarked_of_check hcheck)⟩
          · cases h
  · exact unmarked_of_check h

/-- A check gives nothing but its success. -/
theorem eq_ok_of_isOk {result : Except NameFault Unit} (h : result.isOk = true) : result = .ok () := by
  cases result with
  | error e => cases h
  | ok u => rfl

/-- The ASCII form of a label is checked before it is given, or made of a label that is. -/
theorem unmarked_toAscii? {label ascii : Text} (h : toAscii? label = some ascii) : Unmarked ascii := by
  unfold toAscii? at h
  simp only [Option.ite_none_right_eq_some, Bool.and_eq_true] at h
  rcases h with ⟨⟨hok, -⟩, h⟩
  cases h
  -- a label of ASCII characters is its own form
  by_cases hascii : label.all Punycode.isBasic = true
  · rw [if_pos hascii] at hok ⊢
    exact unmarked_of_checkAscii (eq_ok_of_isOk hok)
  · rw [if_neg hascii] at hok ⊢
    exact unmarked_append.mpr ⟨by decide, Punycode.unmarked_encode (unmarked_of_check (eq_ok_of_isOk hok))⟩

end Label

namespace Host

/-- What holds of each result holds of all the results in a list. -/
theorem forall_mem_of_mapM {α β : Type} {f : α → Option β} {P : β → Prop} (hf : ∀ a b, f a = some b → P b)
    {as : List α} {bs : List β} (h : as.mapM f = some bs) : ∀ b ∈ bs, P b := by
  induction as generalizing bs with
  | nil =>
    cases h
    nofun
  | cons a as ih =>
    rw [List.mapM_cons] at h
    simp only [Option.bind_eq_bind, Option.bind_eq_some_iff] at h
    rcases h with ⟨b, hb, rest, hrest, h⟩
    cases h
    exact List.forall_mem_cons.mpr ⟨hf a b hb, ih hrest⟩

/-- The labels of a name are joined by full stops. -/
theorem unmarked_toAscii? {name ascii : Text} (h : toAscii? name = some ascii) : Unmarked ascii := by
  unfold toAscii? at h
  simp only at h
  split at h
  · cases h
  · next labels hlabels =>
    have hjoined : Unmarked (Text.intercalate "." labels) :=
      unmarked_intercalate (by decide) (forall_mem_of_mapM (fun _ _ => Label.unmarked_toAscii?) hlabels)
    split at h
    · cases h
      split
      · exact unmarked_append.mpr ⟨hjoined, by decide⟩
      · exact hjoined
    · cases h

/-- A host in its normal form has the signs no more than the written one. -/
theorem unmarked_normal {written host : Text} (hwritten : Unmarked written) (h : normal written = .ok host) :
    Unmarked host := by
  unfold normal at h
  -- four numbers, an address in brackets, a name in ASCII, and any other name
  split at h
  · split at h
    · cases h
      exact hwritten
    · cases h
  · split at h
    · simp only at h
      split at h
      · cases h
        exact hwritten.of_subset fun p hp => List.mem_of_mem_tail (List.mem_of_mem_dropLast hp)
      · cases h
    · split at h
      · rw [← Except.ok.inj h]
        exact Percent.unmarked_encodeChars rfl rfl _
      · split at h
        · next ascii hascii =>
          cases h
          exact unmarked_toAscii? hascii
        · cases h

end Host

/-! ## The parts of a URL -/

namespace Url

/-- Does only the query stand behind a question mark, and only the fragment behind a number sign? -/
structure Apart (u : Url) : Prop where
  scheme : Unmarked u.scheme
  userinfo : Unmarked u.userinfo
  host : Unmarked u.host
  path : Unmarked u.path

namespace Written

/-- What stands behind the user is part of the authority. -/
theorem subset_splitUserinfo (t : Text) : (splitUserinfo t).2 ⊆ t := by
  unfold splitUserinfo
  split
  · intro p hp
    have hbehind : p ∈ t.reverse.takeWhile (· ≠ CodePoint.char '@') := List.mem_reverse.mp hp
    exact List.mem_reverse.mp (List.takeWhile_subset _ hbehind)
  · exact List.Subset.refl t

/-- The host is part of what stands behind the user. -/
theorem subset_splitHost (t : Text) : (splitHost t).1 ⊆ t := by
  have hhost : (if t.head? = some '[' ∧ t.contains ']' then (t.reverse.dropWhile (· ≠ .char ']')).reverse
      else t.takeWhile fun p => p ≠ ':' && p ≠ '@' : Text) ⊆ t := by
    split
    · intro p hp
      exact List.mem_reverse.mp ((List.dropWhile_suffix _).subset (List.mem_reverse.mp hp))
    · exact List.takeWhile_subset _
  unfold splitHost
  simp only
  split <;> exact hhost

/-- Each part of a normal URL is encoded, or was read from a part that the signs end. -/
theorem apart_normal {w : Written} {u : Url} (hscheme : Unmarked w.scheme) (hauthority : Unmarked w.authority)
    (h : w.normal = .ok u) : u.Apart := by
  unfold normal at h
  simp only [bind_eq_ok_iff, mapError_eq_ok] at h
  -- what is left out of account here are the port, the query and the fragment
  rcases h with ⟨userinfo, huserinfo, host, hhost, port, -, ⟨⟩, -, path, hpath, query, -, fragment, -, h⟩
  cases h
  constructor
  · exact Text.unmarked_ofString_string (Text.unmarked_lowerAscii.mpr hscheme)
  · exact unmarked_encoded rfl rfl huserinfo
  · refine Host.unmarked_normal (hauthority.of_subset ?_) hhost
    exact List.Subset.trans (subset_splitHost _) (subset_splitUserinfo _)
  · exact unmarked_encoded rfl rfl hpath

end Written

/-- An integer is written with digits and a hyphen. -/
theorem unmarked_toString (n : Int) : Unmarked (toString n) := by
  -- a negative integer is a hyphen and the digits of its size
  have hdigits : ∀ k : Nat, Unmarked (toString k) := by
    intro k
    exact unmarked_of_forall rfl rfl fun p hp => isDigit_of_mem_toString hp
  cases n with
  | ofNat k => exact hdigits k
  | negSucc k =>
    have hsign : Text.ofString (toString (Int.negSucc k)) = Text.ofString "-" ++ Text.ofString (toString (k + 1)) := by
      rw [← Text.ofString_append]
      rfl
    rw [hsign]
    exact unmarked_append.mpr ⟨by decide, hdigits _⟩

/-- The authority is put together from the user, the host and the port, with signs of its own. -/
theorem Apart.unmarked_authority {u : Url} (h : u.Apart) : Unmarked u.authority := by
  refine unmarked_append.mpr ⟨?_, unmarked_append.mpr ⟨?_, ?_⟩⟩
  · split
    · exact unmarked_nil
    · rw [Text.ofString_append]
      exact unmarked_append.mpr ⟨h.userinfo, by decide⟩
  · split
    · exact unmarked_append.mpr ⟨unmarked_append.mpr ⟨by decide, h.host⟩, by decide⟩
    · exact h.host
  · cases u.port with
    | none => exact unmarked_nil
    | some n =>
      rw [Option.map_some, Option.getD_some, Text.ofString_append]
      exact unmarked_append.mpr ⟨by decide, unmarked_toString n⟩

/-! ## Reading the query -/

/-- The scheme is read from the front of a text, where neither sign stands yet. -/
theorem splitScheme_parts (t : Text) :
    Unmarked (splitScheme t).1 ∧ ∃ front, Unmarked front ∧ t = front ++ (splitScheme t).2 := by
  unfold splitScheme
  simp only
  generalize hscheme : (if (t.head?.map CodePoint.isAlpha).getD false then t.takeWhile inScheme else []) = scheme
  have hletters : Unmarked scheme ∧ scheme <+: t := by
    rw [← hscheme]
    split
    · exact ⟨unmarked_of_forall rfl rfl fun p hp => List.mem_takeWhile_imp hp, List.takeWhile_prefix _⟩
    · exact ⟨unmarked_nil, List.nil_prefix⟩
  rcases hletters with ⟨hunmarked, hstart⟩
  split
  · next rest hrest =>
    refine ⟨hunmarked, scheme ++ [.char ':'], unmarked_append.mpr ⟨hunmarked, by decide⟩, ?_⟩
    have hparts := List.prefix_iff_eq_append.mp hstart
    rw [hrest] at hparts
    rw [List.append_assoc]
    exact hparts.symm
  · exact ⟨unmarked_nil, [], unmarked_nil, rfl⟩

/-- The authority goes on until the path begins or one of the signs ends it. -/
theorem splitAuthority_parts (t : Text) :
    Unmarked (splitAuthority t).1 ∧ ∃ front, Unmarked front ∧ t = front ++ (splitAuthority t).2 := by
  unfold splitAuthority
  split
  · next rest =>
    simp only
    generalize hends : (fun p : CodePoint => !(p = '/' || p = '?' || p = '#')) = continues
    have hauthority : Unmarked (rest.takeWhile continues) := by
      rw [← hends]
      exact unmarked_of_forall rfl rfl fun p hp => List.mem_takeWhile_imp hp
    refine ⟨hauthority, "//" ++ rest.takeWhile continues, unmarked_append.mpr ⟨by decide, hauthority⟩, ?_⟩
    rw [List.append_assoc, List.takeWhile_append_dropWhile]
    rfl
  · exact ⟨unmarked_nil, [], unmarked_nil, rfl⟩

namespace Written

/-- Scheme and authority of a text have neither sign, whatever the text is. -/
theorem unmarked_ofText (t : Text) : Unmarked (ofText t).scheme ∧ Unmarked (ofText t).authority :=
  ⟨(splitScheme_parts t).1, (splitAuthority_parts _).1⟩

/-- The query of a text stands between the first question mark and the fragment. -/
theorem query_ofText (t : Text) : (ofText t).query = (Text.splitAt '?' (Text.splitAt '#' t).1).2 := by
  rcases (splitScheme_parts t).2 with ⟨scheme, hscheme, ht⟩
  rcases (splitAuthority_parts (splitScheme t).2).2 with ⟨authority, hauthority, hrest⟩
  have hparts : t = (scheme ++ authority) ++ (splitAuthority (splitScheme t).2).2 := by
    rw [List.append_assoc, ← hrest]
    exact ht
  -- neither sign stands in what was read before, so the text is split where the rest of it is
  have hfront : Unmarked (scheme ++ authority) := unmarked_append.mpr ⟨hscheme, hauthority⟩
  have hquery : (ofText t).query =
      (Text.splitAt '?' (Text.splitAt '#' (splitAuthority (splitScheme t).2).2).1).2 := rfl
  rw [hquery]
  conv => rhs; rw [hparts]
  rw [Text.splitAt_append_left (hfront.notMem rfl), Text.splitAt_append_left (hfront.notMem rfl)]

end Written

/-- What stands in front of the query of a URL. -/
def front (u : Url) : Text :=
  (if u.scheme = "" then "" else u.scheme ++ ":" : String)
    ++ (if u.authority = [] then [] else ("//" : Text) ++ u.authority) ++ u.path

/-- Neither sign stands in front of the query. -/
theorem Apart.unmarked_front {u : Url} (h : u.Apart) : Unmarked u.front := by
  refine unmarked_append.mpr ⟨unmarked_append.mpr ⟨?_, ?_⟩, h.path⟩
  · split
    · exact unmarked_nil
    · rw [Text.ofString_append]
      exact unmarked_append.mpr ⟨h.scheme, by decide⟩
  · split
    · exact unmarked_nil
    · exact unmarked_append.mpr ⟨by decide, h.unmarked_authority⟩

/-- The query of a URL is read from its text. -/
theorem Apart.query_ofText {u : Url} (h : u.Apart) {query : String} (hquery : u.query = some query)
    (hmark : CodePoint.char '#' ∉ Text.ofString query) :
    (Written.ofText u.render.string).query = some (query : Text) := by
  -- the URL as it is written, in front of its query, in it, and behind it
  have hrender : Text.ofString u.render.string = (u.front.string : Text) ++ .char '?' :: (query : Text) ++
      ((u.fragment.map ("#" ++ ·)).getD "" : String) := by
    have hparts : u.render = u.front ++ ("?" ++ query : String) ++ ((u.fragment.map ("#" ++ ·)).getD "" : String) := by
      rw [render, hquery]
      rfl
    rw [hparts, Text.string_append, Text.string_append, Text.string_ofString, Text.string_ofString,
      Text.ofString_append, Text.ofString_append, Text.ofString_append]
    rfl
  have hfront := Text.unmarked_ofString_string h.unmarked_front
  -- the first number sign is the one of the fragment
  have hbehind : CodePoint.char '#' ∉ (u.front.string : Text) ++ .char '?' :: (query : Text) := by
    simp only [List.mem_append, List.mem_cons, not_or]
    exact ⟨hfront.notMem rfl, by decide, hmark⟩
  have hfragment : (Text.splitAt '#' u.render.string).1 = (u.front.string : Text) ++ .char '?' :: (query : Text) := by
    rw [hrender, Text.splitAt_append_left hbehind]
    cases u.fragment with
    | none => exact List.append_nil _
    | some f =>
      rw [Option.map_some, Option.getD_some, Text.ofString_append]
      exact List.append_nil _
  rw [Written.query_ofText, hfragment, Text.splitAt_append (hfront.notMem rfl)]

end Url
end Questionnaire
