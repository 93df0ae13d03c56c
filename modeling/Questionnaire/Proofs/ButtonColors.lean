import Questionnaire.Proofs.Names
import Questionnaire.Proofs.OpenParentheses
import Questionnaire.Proofs.PageParts

/-!
# The colour of the buttons

The colour of the buttons stands in a dozen values of the stylesheet. What is used for a colour holds nothing that
ends a declaration, but it may leave a parenthesis open, and then the first of those values takes in the rest of the
stylesheet.

* `Color.IsAccepted`, `Color.ofString_safe`: the colours that are used, and what is used for a colour.
* `Style.stylesheet_clean`: the rules end nothing by themselves, and their values are like the colour.
* `Style.outline_styles`: how the stylesheet of an artifact is split.
* `stylesheets_split_alike_iff`: when two stylesheets are split alike.
-/

namespace Questionnaire

/-! ## Colours that are used -/

namespace Color

/-- Is there something in a colour, and nothing that is not allowed? -/
def IsAccepted (color : Text) : Prop := color ≠ [] ∧ ∀ p ∈ color, isAllowed p = true

instance (color : Text) : Decidable (IsAccepted color) :=
  inferInstanceAs (Decidable (color ≠ [] ∧ ∀ p ∈ color, isAllowed p = true))

/-- The code points that end a declaration, a rule or the element that holds the stylesheet, or start something else. -/
def breakers : Text := ";:\x7b\x7d\"'\\/<>@"

/-- Is a string a `#` with three or six hexadecimal digits? -/
def IsHexColor (s : String) : Prop :=
  ∃ digits, Text.ofString s = .char '#' :: digits ∧ (digits.length = 3 ∨ digits.length = 6) ∧
    ∀ p ∈ digits, (Text.hexValue? p).isSome = true

/-- No half of a pair is allowed in a colour. -/
theorem isHalf_of_isAllowed {p : CodePoint} (h : isAllowed p = true) : p.isHalf = false := by
  cases p with
  | char c => rfl
  | half index =>
    have hblank : Text.isBlank (.half index) = false := by
      have hnumber : 0xD800 ≤ (CodePoint.half index).toNat := Nat.le_add_right _ _
      rw [← Bool.not_eq_true]
      intro hblank
      simp only [Text.isBlank, Bool.or_eq_true, Bool.and_eq_true, decide_eq_true_eq, beq_iff_eq] at hblank
      omega
    simp [isAllowed, hblank, CodePoint.isAlphanum, CodePoint.isAlpha, CodePoint.not_half_le_char, Text.ofString] at h

/-- What is used for a colour. -/
theorem ofString_safe (color : Text) (default : String) :
    Text.ofString (safe color default) =
      if IsAccepted (Text.strip color) then Text.strip color else Text.ofString default := by
  have htest : (!(Text.strip color).isEmpty && (Text.strip color).all isAllowed) = true ↔
      IsAccepted (Text.strip color) := by
    simp [IsAccepted]
  unfold safe
  by_cases h : IsAccepted (Text.strip color)
  · rw [if_pos h, if_pos (htest.mpr h)]
    exact Text.ofString_string fun p hp => isHalf_of_isAllowed (h.2 p hp)
  · rw [if_neg h, if_neg (mt htest.mp h)]

/-- Hexadecimal digits are. -/
theorem isAllowed_of_hexValue? {p : CodePoint} (h : (Text.hexValue? p).isSome = true) : isAllowed p = true := by
  have hletter : p.isAlphanum = true := by
    unfold Text.hexValue? at h
    -- decimal digits, small letters and capital letters
    split_ifs at h with hdigit hlower hupper
    · unfold Text.isDigit at hdigit
      simp [CodePoint.isAlphanum, hdigit]
    · simp only [Bool.and_eq_true, decide_eq_true_eq] at hlower
      have hz : p ≤ .char 'z' := Nat.le_trans hlower.2 (by decide : CodePoint.char 'f' ≤ .char 'z')
      simp [CodePoint.isAlphanum, CodePoint.isAlpha, hlower.1, hz]
    · simp only [Bool.and_eq_true, decide_eq_true_eq] at hupper
      have hz : p ≤ .char 'Z' := Nat.le_trans hupper.2 (by decide : CodePoint.char 'F' ≤ .char 'Z')
      simp [CodePoint.isAlphanum, CodePoint.isAlpha, hupper.1, hz]
    · cases h
  simp [isAllowed, hletter]

/-- What is used for a colour is made of allowed code points, if the default is a hexadecimal colour. -/
theorem isAllowed_of_mem_safe {default : String} (hdefault : IsHexColor default) (color : Text) :
    ∀ p ∈ Text.ofString (safe color default), isAllowed p = true := by
  rw [ofString_safe]
  split
  · next h => exact h.2
  · rcases hdefault with ⟨digits, hdigits, -, hhex⟩
    rw [hdigits, List.forall_mem_cons]
    exact ⟨by decide, fun p hp => isAllowed_of_hexValue? (hhex p hp)⟩

end Color

namespace Style

open Artifact Color

/-- What is allowed holds no marks. -/
theorem calm_of_isAllowed {t : Text} (h : ∀ p ∈ t, isAllowed p = true) : Calm t := by
  apply calm_of_notMem_marks
  intro p hp hmark
  have hnone : ∀ q ∈ marks, isAllowed q = false := by decide
  have hallowed := h p hp
  rw [hnone p hmark] at hallowed
  cases hallowed

/-- A hexadecimal colour has no parentheses. -/
theorem balanced_of_isHexColor {s : String} (h : IsHexColor s) : Balanced s := by
  rcases h with ⟨digits, hdigits, -, hhex⟩
  have hnone : ∀ q ∈ ([.char '(', .char ')'] : Text), q ∉ Text.ofString s := by
    have hvalues : ∀ q ∈ ([.char '(', .char ')'] : Text), (Text.hexValue? q).isSome = false ∧ q ≠ .char '#' := by
      decide
    intro q hq hmem
    rcases hvalues q hq with ⟨hvalue, hsharp⟩
    rw [hdigits] at hmem
    rcases List.mem_cons.mp hmem with rfl | hmem
    · exact hsharp rfl
    · rw [hhex q hmem] at hvalue
      cases hvalue
  simp only [List.forall_mem_cons] at hnone
  exact balanced_of_notMem hnone.1 hnone.2.1

/-! ## Strings that are spelt out -/

/-- The characters that end something or start quotes. -/
def markChars : List Char := [';', '\x7b', '\x7d', '[', ']', '/', '"', '\'', '\\']

/-- May a character stand in the name of a property? -/
def isNameChar (c : Char) : Bool := !(['(', ')', ':'] ++ markChars).contains c

/-- The code points of a string are those that it is spelt with. -/
theorem ofString_spelt {s : String} {cs : List Char} (h : s = String.ofList cs) : Text.ofString s = cs.map .char := by
  rw [h, Text.ofString, String.toList_ofList]

/-- A string that is spelt out is looked through as a list of characters. -/
theorem isName_spelt {s : String} {cs : List Char} (h : s = String.ofList cs) (hcs : cs.all isNameChar = true) :
    IsName s := by
  have hmarks : nameMarks = (['(', ')', ':'] ++ markChars).map .char := rfl
  rw [ofString_spelt h]
  intro p hp hmark
  rcases List.mem_map.mp hp with ⟨c, hc, rfl⟩
  have hname := List.all_eq_true.mp hcs c hc
  rw [hmarks] at hmark
  rcases List.mem_map.mp hmark with ⟨d, hd, hsame⟩
  rw [CodePoint.char.inj hsame] at hd
  rw [isNameChar, List.contains_iff_mem.mpr hd] at hname
  cases hname

/-- A text that is spelt out is tidy if its characters are. -/
theorem tidy_spelt {s : String} {cs : List Char} (h : s = String.ofList cs)
    (hcs : Calm (cs.map .char) ∧ Balanced (cs.map .char)) : Tidy s := by
  rw [ofString_spelt h]
  exact ⟨hcs.1, hcs.2.keepsParens⟩

/-- So is one without parentheses. -/
theorem tidy_quoted {s : String} {cs : List Char} (h : s = String.ofList cs) (hcs : Calm (cs.map .char))
    (hopen : '(' ∉ cs) (hclose : ')' ∉ cs) : Tidy s := by
  rw [ofString_spelt h]
  exact ⟨hcs, keepsParens_of_notMem (by simpa using hopen) (by simpa using hclose)⟩

/-- Tidy strings may be put together. -/
theorem tidy_append {s t : String} (hs : Tidy s) (ht : Tidy t) : Tidy (s ++ t : String) := by
  rw [Text.ofString_append]
  exact hs.append ht

/-- A parenthesis is closed behind a text that keeps it open. -/
theorem tidy_wrapped {before t after : String} (ht : Tidy t) (hbefore : Calm before) (hafter : Calm after)
    (h : Balanced ((before : Text) ++ (after : Text))) : Tidy (before ++ t ++ after : String) := by
  rw [Text.ofString_append, Text.ofString_append]
  refine ⟨(hbefore.append ht.calm).append hafter, ?_⟩
  intro n
  have hkept := h.keepsParens n
  rw [parens_append] at hkept
  rw [parens_append, parens_append, ht.keepsParens]
  exact hkept

/-! ## The stylesheet -/

/-- The selectors and properties end nothing. Of the values, those without the colour do not either, and those with it
are like the colour. -/
theorem stylesheet_clean {V : Text → Prop} {p button parts : String} (hp : Tidy p) (hparts : Tidy parts)
    (hbutton : V button) (htidy : ∀ t : String, Tidy t → V t)
    (hbehind : ∀ t : String, Tidy t → V (t ++ button : String))
    (hbefore : ∀ t : String, Tidy t → V (button ++ t : String)) :
    ∀ b ∈ stylesheet p button parts, CleanBlock V b := by
  simp only [stylesheet, Css.rule, List.forall_mem_cons, CleanBlock, List.not_mem_nil, false_implies,
    implies_true, and_true, toString]
  -- one goal for each selector, property and value, which is spelt out but for the prefix or the colour in it
  repeat' first
    | with_reducible apply And.intro
    | with_reducible assumption
    | with_reducible refine List.forall_mem_cons.mpr ⟨?_, ?_⟩
    | with_reducible exact List.forall_mem_nil _
    | with_reducible exact List.cons_ne_nil _ _
    | (with_reducible apply CleanRule.mk) <;> dsimp only
    | (with_reducible apply CleanDeclaration.mk) <;> dsimp only
    | with_reducible apply hbehind
    | with_reducible apply hbefore
    | with_reducible apply htidy
    | with_reducible refine tidy_wrapped hparts (by decide) (by decide) (by decide)
    | with_reducible apply tidy_append
    | (with_reducible apply isName_spelt); rfl; rfl
    | (with_reducible apply IsName.tidy); (with_reducible apply isName_spelt); rfl; rfl
    | exact tidy_quoted rfl (by decide) (by decide) (by decide)
    | exact tidy_spelt rfl (by decide)

/-- The parts of a colour are numbers and commas. -/
theorem tidy_parts (color : Text) : Tidy (Color.parts color) := by
  have hdigits : ∀ n : Nat, IsName (toString n) := by
    intro n p hp hmark
    have hnone : ∀ q ∈ nameMarks, Text.isDigit q = false := by decide
    have hdigit := isDigit_of_mem_toString hp
    rw [hnone p hmark] at hdigit
    cases hdigit
  have hname : IsName (Color.parts color) := by
    unfold Color.parts
    split
    · apply Markup.forall_intercalate
      · exact isName_spelt rfl rfl
      · intro s hs
        rcases List.mem_map.mp hs with ⟨n, -, rfl⟩
        exact hdigits n
    · exact isName_spelt rfl rfl
  exact hname.tidy

/-- An accepted prefix ends nothing. -/
theorem tidy_classPrefix {form : Form} {options : ArtifactOptions} {a : Artifact}
    (h : Artifact.ofForm form options = .ok a) : Tidy a.classPrefix := by
  rw [ofString_classPrefix h]
  apply IsName.tidy
  intro p hp hmark
  have hnone : ∀ q ∈ nameMarks, isPrefixPoint q = false := by decide
  have hpoint := isPrefixPoint_of_mem (ofForm_eq_ok.mp h).1.1 p hp
  rw [hnone p hmark] at hpoint
  cases hpoint

/-- The colour of the buttons opens no quotes, whatever the form asks for. -/
theorem calm_button {form : Form} {options : ArtifactOptions} {a : Artifact}
    (h : Artifact.ofForm form options = .ok a) : Calm a.button := by
  obtain ⟨-, rfl⟩ := ofForm_eq_ok.mp h
  have hdefault : IsHexColor "#000000" :=
    ⟨"000000", rfl, .inr rfl, by decide⟩
  exact calm_of_isAllowed (isAllowed_of_mem_safe hdefault _)

/-- The rules of a stylesheet with a prefix, without the colour. -/
def plainSheet (p : String) : List Css.Block := stylesheet p "" ""

/-- Selectors and properties do not depend on the colour. -/
theorem contents_stylesheet (p button parts : String) :
    contents (stylesheet p button parts) = contents (plainSheet p) := rfl

/-- What is left of them if the colour leaves a parenthesis open. -/
def openContents (p : String) : List Event :=
  contents ((plainSheet p).take 5) ++ [.enter (Text.strip s!".{p}progress-bar-fill")] ++
    [.property "height"] ++ [.property "background-color"]

/-- The title does not end the comment that it stands in. -/
theorem plain_title : .char '*' ∉ Text.ofString "Quote Form Styles" := by decide

/-- With a colour that leaves nothing open, the stylesheet is read as it was put together. -/
theorem outline_of_closed {p button parts : String} (hp : Tidy p) (hparts : Tidy parts) (hbutton : Closed button) :
    outline (Css.render "Quote Form Styles" (stylesheet p button parts)) = contents (plainSheet p) := by
  have hclean := stylesheet_clean (V := Closed) hp hparts hbutton (fun t ht => ht.closed)
    (fun t ht => by rw [Text.ofString_append]; exact ht.append_closed hbutton)
    (fun t ht => by rw [Text.ofString_append]; exact hbutton.append_tidy ht)
  have hsome : stylesheet p button parts ≠ [] := List.cons_ne_nil _ _
  rw [outline_render plain_title hsome hclean, contents_stylesheet]

/-- So is the stylesheet with no colour in it. -/
theorem plainSheet_clean {p : String} (hp : Tidy p) : ∀ b ∈ plainSheet p, CleanBlock Tidy b := by
  have hempty : Tidy "" := Blank.tidy (by decide)
  exact stylesheet_clean hp hempty hempty (fun t ht => ht) (fun t ht => tidy_append ht hempty)
    fun t ht => tidy_append hempty ht

/-- With a colour that leaves a parenthesis open, nothing behind it is read. -/
theorem outline_of_open {p button parts : String} (hp : Tidy p) (hparts : Tidy parts) (hbutton : Calm button)
    (hopen : LeavesOpen button) :
    outline (Css.render "Quote Form Styles" (stylesheet p button parts)) = openContents p := by
  have hclean := stylesheet_clean (V := Calm) hp hparts hbutton (fun t ht => ht.calm)
    (fun t ht => by rw [Text.ofString_append]; exact ht.calm.append hbutton)
    (fun t ht => by rw [Text.ofString_append]; exact hbutton.append ht.calm)
  have hplain := plainSheet_clean hp
  -- the rule in which the colour comes up first
  have hrule : CleanRule Tidy ⟨s!".{p}progress-bar-fill", [("height", "100%"), ("background-color", ""),
      ("width", "0"), ("transition", "width 0.5s ease-out")]⟩ :=
    hplain (.rule _) (List.mem_of_getElem? (i := 5) rfl)
  have habove : ∀ b ∈ (plainSheet p).take 5, CleanBlock Closed b := fun b hb =>
    (hplain b (List.mem_of_mem_take hb)).mono fun t ht => ht.closed
  have hbelow : ∀ b ∈ (stylesheet p button parts).drop 6, CleanBlock Calm b := fun b hb =>
    hclean b (List.mem_of_mem_drop hb)
  have hbefore : ∀ e ∈ [("height", "100%")], CleanDeclaration Closed e := fun e he =>
    (hrule.declarations e (by simp_all)).mono fun t ht => ht.closed
  have hafter : ∀ e ∈ [("width", "0"), ("transition", "width 0.5s ease-out")], CleanDeclaration Tidy e :=
    fun e he => hrule.declarations e (by simp_all)
  have hname := (hrule.declarations ("background-color", "") (by simp)).name
  have hread := outline_render_of_open plain_title habove hrule.selector hbefore
    (d := ("background-color", button)) ⟨hname, hbutton⟩ hopen hafter hbelow
  have hsplit : stylesheet p button parts = (plainSheet p).take 5 ++
      .rule ⟨s!".{p}progress-bar-fill", [("height", "100%")] ++ ("background-color", button) ::
        [("width", "0"), ("transition", "width 0.5s ease-out")]⟩ :: (stylesheet p button parts).drop 6 := rfl
  have hheight : Text.strip "height" = "height" := by decide
  have hcolor : Text.strip "background-color" = "background-color" := by decide
  rw [← hsplit] at hread
  rw [hread, openContents, List.map_cons, List.map_nil, hheight, hcolor]

/-- The two differ in what they end with. -/
theorem contents_ne_openContents (p : String) : contents (plainSheet p) ≠ openContents p := by
  intro h
  have hlast : (contents (plainSheet p)).getLast? = some .leave := rfl
  have hlastOpen : (openContents p).getLast? = some (.property "background-color") := List.getLast?_concat
  rw [h, hlastOpen] at hlast
  cases hlast

/-- How the stylesheet of an artifact is split: as it was put together, or up to the first use of the colour. -/
theorem outline_styles {form : Form} {options : ArtifactOptions} {a : Artifact}
    (h : Artifact.ofForm form options = .ok a) :
    outline a.styles =
      if LeavesOpen a.button then openContents a.classPrefix else contents (plainSheet a.classPrefix) := by
  split
  · next hopen => exact outline_of_open (tidy_classPrefix h) (tidy_parts _) (calm_button h) hopen
  · next hclosed => exact outline_of_closed (tidy_classPrefix h) (tidy_parts _) ⟨calm_button h, hclosed⟩

end Style

open Style Color

/-- What is used for a colour holds nothing that ends a declaration, but its parentheses are those of the colour. Two
stylesheets with the same prefix are split alike exactly if both colours leave a parenthesis open, or neither does; so
colours with balanced parentheses make no difference. -/
theorem stylesheets_split_alike_iff {f g : Form} {options options' : ArtifactOptions} {a b : Artifact}
    (ha : Artifact.ofForm f options = .ok a) (hb : Artifact.ofForm g options' = .ok b)
    (hclasses : options.classPrefix = options'.classPrefix) (color : Text) {default : String}
    (hdefault : IsHexColor default) :
    (∀ p ∈ Text.ofString (safe color default), p ∉ breakers) ∧
      (Balanced (safe color default) ↔ (IsAccepted (Text.strip color) → Balanced (Text.strip color))) ∧
      (outline a.styles = outline b.styles ↔ (LeavesOpen a.button ↔ LeavesOpen b.button)) ∧
      (Balanced a.button → Balanced b.button → outline a.styles = outline b.styles) := by
  have hsplit : outline a.styles = outline b.styles ↔ (LeavesOpen a.button ↔ LeavesOpen b.button) := by
    -- only the prefix and whether a parenthesis is left open tell how a sheet is split
    have hclassPrefix : a.classPrefix = b.classPrefix := by
      rw [Artifact.classPrefix, Artifact.classPrefix, (Artifact.ofForm_eq_ok.mp ha).2,
        (Artifact.ofForm_eq_ok.mp hb).2, hclasses]
    have hne := contents_ne_openContents b.classPrefix
    rw [outline_styles ha, outline_styles hb, hclassPrefix]
    by_cases hopen : LeavesOpen a.button
    · by_cases hopen' : LeavesOpen b.button
      · simp [hopen, hopen']
      · simp [hopen, hopen', hne.symm]
    · by_cases hopen' : LeavesOpen b.button
      · simp [hopen, hopen', hne]
      · simp [hopen, hopen']
  refine ⟨?_, ?_, hsplit, ?_⟩
  · intro p hp hbreaker
    -- nothing that ends a declaration is allowed in a colour
    have hnone : ∀ q ∈ breakers, isAllowed q = false := by decide
    have hallowed := isAllowed_of_mem_safe hdefault color p hp
    rw [hnone p hbreaker] at hallowed
    cases hallowed
  · rw [ofString_safe]
    split
    · next haccepted => simp [haccepted]
    · next hrejected => simp [hrejected, balanced_of_isHexColor hdefault]
  · intro hbalanced hbalanced'
    rw [hsplit]
    exact iff_of_false hbalanced.not_leavesOpen hbalanced'.not_leavesOpen

/-- A form with a colour. -/
def coloredForm (color : Text) : Form where
  title := ""
  description := ""
  questions := []
  settings := { FormSettings.standard with buttonColor := color }

/-- A parenthesis that closes nothing is used as it is, and changes nothing. -/
theorem stylesheets_split_alike_of_closing_parenthesis :
    ∃ a b, Artifact.ofForm (coloredForm " )") {} = .ok a ∧
      Artifact.ofForm (coloredForm "rgb(1, 2, 3)") {} = .ok b ∧ IsHexColor "#fff" ∧ a.button = ")" ∧
      ¬ Balanced (safe " )" "#fff") ∧ outline a.styles = outline b.styles := by
  obtain ⟨a, ha⟩ : ∃ a, Artifact.ofForm (coloredForm " )") {} = .ok a := ⟨_, rfl⟩
  obtain ⟨b, hb⟩ : ∃ b, Artifact.ofForm (coloredForm "rgb(1, 2, 3)") {} = .ok b := ⟨_, rfl⟩
  have hdefault : IsHexColor "#fff" := ⟨"fff", rfl, .inl rfl, by decide⟩
  rcases stylesheets_split_alike_iff ha hb rfl " )" hdefault with ⟨-, hbalanced, hsplit, -⟩
  have hclosing : a.button = ")" := by
    rw [(Artifact.ofForm_eq_ok.mp ha).2]
    decide
  have hrgb : b.button = "rgb(1, 2, 3)" := by
    rw [(Artifact.ofForm_eq_ok.mp hb).2]
    decide
  refine ⟨a, b, ha, hb, hdefault, hclosing, ?_, ?_⟩
  · rw [hbalanced]
    decide
  · rw [hsplit, hclosing, hrgb]
    decide

/-- A parenthesis that is left open is used as it is, and takes in the stylesheet behind it. -/
theorem open_parenthesis_takes_in_stylesheet :
    safe "(" "#000000" = "(" ∧ ¬ Balanced (safe "(" "#000000") ∧
      ∃ a b, Artifact.ofForm (coloredForm "(") {} = .ok a ∧ Artifact.ofForm (coloredForm "#000000") {} = .ok b ∧
        outline a.styles ≠ outline b.styles := by
  have hsafe : safe "(" "#000000" = "(" := by decide
  obtain ⟨a, ha⟩ : ∃ a, Artifact.ofForm (coloredForm "(") {} = .ok a := ⟨_, rfl⟩
  obtain ⟨b, hb⟩ : ∃ b, Artifact.ofForm (coloredForm "#000000") {} = .ok b := ⟨_, rfl⟩
  have hopen : LeavesOpen a.button := by
    rw [(Artifact.ofForm_eq_ok.mp ha).2]
    decide
  have hclosed : ¬ LeavesOpen b.button := by
    rw [(Artifact.ofForm_eq_ok.mp hb).2]
    decide
  -- the forms differ in the colour alone, so the classes are the same
  have hclasses : a.classPrefix = b.classPrefix := by
    rw [(Artifact.ofForm_eq_ok.mp ha).2, (Artifact.ofForm_eq_ok.mp hb).2]
    rfl
  refine ⟨hsafe, ?_, a, b, ha, hb, ?_⟩
  · rw [hsafe]
    decide
  · rw [outline_styles ha, outline_styles hb, if_pos hopen, if_neg hclosed, hclasses]
    exact (contents_ne_openContents _).symm

end Questionnaire
