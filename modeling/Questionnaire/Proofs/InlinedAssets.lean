import Questionnaire.Proofs.ConfigurationLiteral
import Questionnaire.Proofs.PageParts
import Questionnaire.Proofs.ScriptData

/-!
# Inlined assets

A page that holds its stylesheet and its script is read as it was put together, unless the literal of the form opens
a comment in the script and a script tag in that: then no end tag ends the script.

* `NoTag`: strings in which no tag starts; the stylesheet is one.
* `KeepsScript`: texts that leave a reader of a script as it is; the lines that do not depend on the form are such.
* `inlined_assets_end_as_written_iff`: when the style and the script element end where they should.
-/

namespace Questionnaire.Markup

open Artifact Html

/-! ## Strings without tags -/

/-- Does no tag start in a string? -/
def NoTag (s : String) : Prop := ∀ p ∈ Text.ofString s, p ≠ '<'

/-- Where no tag starts, there is no less-than sign. -/
theorem NoTag.notMem {s : String} (h : NoTag s) : .char '<' ∉ Text.ofString s := fun hmem => h _ hmem rfl

/-- A text without marks starts no tag. -/
theorem noTag_of_noMarks {s : String} (h : NoMarks s) : NoTag s := fun p hp => (h p hp).1

/-- A string that is spelt out is looked through as a list of characters. -/
theorem noTag_spelt {s : String} {cs : List Char} (h : s = String.ofList cs) (hcs : '<' ∉ cs) : NoTag s := by
  intro p hp hless
  rw [h, Text.ofString, String.toList_ofList] at hp
  obtain ⟨c, hc, rfl⟩ := List.mem_map.mp hp
  have heq : c = '<' := by simpa using hless
  exact hcs (heq ▸ hc)

theorem noTag_empty : NoTag "" := by simp [NoTag, Text.ofString]

/-- Neither do two texts together of which neither does. -/
theorem noTag_append {s t : String} (hs : NoTag s) (ht : NoTag t) : NoTag (s ++ t) :=
  forall_ofString_append.mpr ⟨hs, ht⟩

/-- Nor do any number of them. -/
theorem noTag_join {strings : List String} (h : ∀ s ∈ strings, NoTag s) : NoTag (String.join strings) := by
  induction strings with
  | nil => exact noTag_empty
  | cons s strings ih =>
    obtain ⟨hs, hstrings⟩ := List.forall_mem_cons.mp h
    rw [String.join_cons]
    exact noTag_append hs (ih hstrings)

/-- Numbers are digits. -/
theorem noTag_toString (n : Nat) : NoTag (toString n) := by
  intro p hp hless
  have hdigits : p ∈ Json.Reader.digits n := by simpa [Json.Reader.digits, Decimal.digitsOf, Text.ofString] using hp
  have hdigit := Json.Reader.isDigit_of_mem_digits hdigits
  rw [hless] at hdigit
  exact absurd hdigit (by decide)

/-! ## The stylesheet -/

/-- Does no tag start in the parts of a rule? -/
def RuleHasNoTag (r : Css.Rule) : Prop := NoTag r.selector ∧ ∀ d ∈ r.declarations, NoTag d.1 ∧ NoTag d.2

/-- Does no tag start in the parts of a block? -/
def BlockHasNoTag : Css.Block → Prop
  | .rule r => RuleHasNoTag r
  | .media name rules | .keyframes name rules => NoTag name ∧ ∀ r ∈ rules, RuleHasNoTag r

/-- The prefix and the colours are the only parts of the rules that are no literals. -/
theorem stylesheet_hasNoTag {p button parts : String} (hp : NoTag p) (hbutton : NoTag button) (hparts : NoTag parts) :
    ∀ b ∈ stylesheet p button parts, BlockHasNoTag b := by
  simp only [stylesheet, Css.rule, List.forall_mem_cons, BlockHasNoTag, RuleHasNoTag, List.not_mem_nil, false_implies,
    implies_true, and_true, toString]
  -- one goal for each selector, property and value, which is a literal but for the prefix or a colour in it
  repeat' first
    | apply And.intro
    | with_reducible apply noTag_append
    | with_reducible assumption
    | exact noTag_spelt rfl (by decide)

/-- A declaration adds a colon and a semicolon. -/
theorem noTag_declarationText {d : String × String} (h : NoTag d.1 ∧ NoTag d.2) : NoTag (Css.declarationText d) := by
  have hcolon : NoTag ": " := noTag_spelt rfl (by decide)
  have hsemicolon : NoTag ";" := noTag_spelt rfl (by decide)
  exact noTag_append (noTag_append (noTag_append h.1 hcolon) h.2) hsemicolon

/-- A rule adds braces and line breaks. -/
theorem noTag_ruleText {margin : String} (hmargin : NoTag margin) {r : Css.Rule} (h : RuleHasNoTag r) :
    NoTag (r.text margin) := by
  have hopen : NoTag " \x7b\n" := noTag_spelt rfl (by decide)
  have hindent : NoTag "  " := noTag_spelt rfl (by decide)
  have hline : NoTag "\n" := noTag_spelt rfl (by decide)
  have hclose : NoTag "\x7d\n" := noTag_spelt rfl (by decide)
  have hdeclarations :
      NoTag (String.join (r.declarations.map fun d => margin ++ "  " ++ Css.declarationText d ++ "\n")) := by
    apply noTag_join
    intro s hs
    obtain ⟨d, hd, rfl⟩ := List.mem_map.mp hs
    exact noTag_append (noTag_append (noTag_append hmargin hindent) (noTag_declarationText (h.2 d hd))) hline
  exact noTag_append (noTag_append (noTag_append (noTag_append (noTag_append hmargin h.1) hopen) hdeclarations)
    hmargin) hclose

/-- So does a frame, but for the line breaks. -/
theorem noTag_frameText {r : Css.Rule} (h : RuleHasNoTag r) : NoTag r.frameText := by
  have hindent : NoTag "  " := noTag_spelt rfl (by decide)
  have hopen : NoTag " \x7b " := noTag_spelt rfl (by decide)
  have hspace : NoTag " " := noTag_spelt rfl (by decide)
  have hclose : NoTag " \x7d\n" := noTag_spelt rfl (by decide)
  have hdeclarations : NoTag (" ".intercalate (r.declarations.map Css.declarationText)) := by
    apply forall_intercalate hspace
    intro s hs
    obtain ⟨d, hd, rfl⟩ := List.mem_map.mp hs
    exact noTag_declarationText (h.2 d hd)
  exact noTag_append (noTag_append (noTag_append (noTag_append hindent h.1) hopen) hdeclarations) hclose

/-- A block adds its word and its braces. -/
theorem noTag_blockText {b : Css.Block} (h : BlockHasNoTag b) : NoTag b.text := by
  have hopen : NoTag " \x7b\n" := noTag_spelt rfl (by decide)
  have hclose : NoTag "\x7d\n" := noTag_spelt rfl (by decide)
  cases b with
  | rule r => exact noTag_ruleText noTag_empty h
  | media condition rules =>
    have hword : NoTag "@media " := noTag_spelt rfl (by decide)
    have hline : NoTag "\n" := noTag_spelt rfl (by decide)
    -- the rules have line breaks between them
    have hrules : NoTag ("\n".intercalate (rules.map (Css.Rule.text "  "))) := by
      apply forall_intercalate hline
      intro s hs
      obtain ⟨r, hr, rfl⟩ := List.mem_map.mp hs
      exact noTag_ruleText (noTag_spelt rfl (by decide)) (h.2 r hr)
    exact noTag_append (noTag_append (noTag_append (noTag_append hword h.1) hopen) hrules) hclose
  | keyframes name frames =>
    have hword : NoTag "@keyframes " := noTag_spelt rfl (by decide)
    have hframes : NoTag (String.join (frames.map Css.Rule.frameText)) := by
      apply noTag_join
      intro s hs
      obtain ⟨r, hr, rfl⟩ := List.mem_map.mp hs
      exact noTag_frameText (h.2 r hr)
    exact noTag_append (noTag_append (noTag_append (noTag_append hword h.1) hopen) hframes) hclose

/-- A stylesheet adds a comment. -/
theorem noTag_render {title : String} (htitle : NoTag title) {blocks : List Css.Block}
    (h : ∀ b ∈ blocks, BlockHasNoTag b) : NoTag (Css.render title blocks) := by
  have hopen : NoTag "/* " := noTag_spelt rfl (by decide)
  have hclose : NoTag " */\n" := noTag_spelt rfl (by decide)
  have hline : NoTag "\n" := noTag_spelt rfl (by decide)
  have hblocks : NoTag ("\n".intercalate (blocks.map Css.Block.text)) := by
    apply forall_intercalate hline
    intro s hs
    obtain ⟨b, hb, rfl⟩ := List.mem_map.mp hs
    exact noTag_blockText (h b hb)
  exact noTag_append (noTag_append (noTag_append hopen htitle) hclose) hblocks

/-- The parts of a colour are numbers. -/
theorem noTag_parts (color : Text) : NoTag (Color.parts color) := by
  have hseparator : NoTag ", " := noTag_spelt rfl (by decide)
  unfold Color.parts
  split
  · apply forall_intercalate hseparator
    intro s hs
    obtain ⟨n, -, rfl⟩ := List.mem_map.mp hs
    exact noTag_toString n
  · exact noTag_spelt rfl (by decide)

/-- No tag starts in a stylesheet. -/
theorem noTag_styles {form : Form} {options : ArtifactOptions} {a : Artifact}
    (h : Artifact.ofForm form options = .ok a) : NoTag a.styles := by
  have hp : NoTag a.classPrefix := noTag_of_noMarks (noMarks_classPrefix h)
  have hbutton : NoTag a.button := by
    obtain ⟨-, rfl⟩ := ofForm_eq_ok.mp h
    exact noTag_of_noMarks (noMarks_safe _ (by decide))
  exact noTag_render (noTag_spelt rfl (by decide)) (stylesheet_hasNoTag hp hbutton (noTag_parts _))

/-! ## The script behind the literal -/

/-- Does a text leave a reader of a script as it is, whether the script is escaped or not? -/
def KeepsScript (t : Text) : Prop :=
  ∀ c ∈ [Content.script, .escaped 0, .doubled 0], run (.content c) t = (.content c, chars t)

instance (t : Text) : Decidable (KeepsScript t) :=
  inferInstanceAs <| Decidable <|
    ∀ c ∈ [Content.script, .escaped 0, .doubled 0], run (.content c) t = (.content c, chars t)

/-- Texts that do not end the script may follow each other. -/
theorem keepsScript_append {a b : Text} (ha : KeepsScript a) (hb : KeepsScript b) : KeepsScript (a ++ b) := by
  intro c hc
  rw [run_append (ha c hc) (hb c hc), chars_append]

/-- Text without `<` and dashes leaves a reader as it is. -/
theorem keepsScript_of_notMem {t : Text} (hless : .char '<' ∉ t) (hdash : .char '-' ∉ t) : KeepsScript t := by
  intro c hc
  induction t with
  | nil => rfl
  | cons p t ih =>
    simp only [List.mem_cons, not_or] at hless hdash
    have hnext : c.next p = c := by
      simp only [List.mem_cons, List.not_mem_nil, or_false] at hc
      rcases hc with rfl | rfl | rfl <;> simp [Content.next, Content.dashesAfter, Ne.symm hdash.1]
    have hstep : step (.content c) p = (.content c, [.char p]) := by
      simp [step, stepContent, Ne.symm hless.1, hnext]
    rw [run_of_step hstep (ih hless.2 hdash.2)]
    rfl

/-- The characters of a line and of its end. -/
def lineText (cs : List Char) : Text := (cs ++ ['\n']).map .char

/-- Is a character a `<` or a dash? -/
def isLessOrDash (c : Char) : Bool := c.toNat == '<'.toNat || c.toNat == '-'.toNat

/-- A script is ended, or led astray, by less-than signs and hyphens alone. -/
theorem keepsScript_of_not_isLessOrDash {c : Char} (h : isLessOrDash c = false) : KeepsScript [.char c] := by
  have hmark : ∀ d : Char, isLessOrDash d = true → CodePoint.char d ∉ [CodePoint.char c] := by
    rintro d hd hmem
    cases List.mem_singleton.mp hmem
    exact absurd (hd.symm.trans h) (by decide)
  exact keepsScript_of_notMem (hmark '<' (by decide)) (hmark '-' (by decide))

/-- Is each `<` and each dash in a line settled by the character that follows it? -/
def settles : List Char → Bool
  | [] => true
  | [c] => !isLessOrDash c
  | c :: d :: cs => bif isLessOrDash c then decide (KeepsScript [.char c, .char d]) && settles cs else settles (d :: cs)

/-- Such a line is only looked at around them. -/
theorem keepsScript_of_settles {cs : List Char} (h : settles cs = true) : KeepsScript (lineText cs) := by
  induction cs using settles.induct with
  | case1 => decide
  | case2 c =>
    rw [settles, Bool.not_eq_true'] at h
    exact keepsScript_append (keepsScript_of_not_isLessOrDash h) (b := "\n") (by decide)
  | case3 c d cs hmark ih =>
    rw [settles, hmark, cond_true, Bool.and_eq_true, decide_eq_true_eq] at h
    exact keepsScript_append h.1 (ih h.2)
  | case4 c d cs hmark ih =>
    rw [settles, hmark, cond_false] at h
    exact keepsScript_append (keepsScript_of_not_isLessOrDash hmark) (ih h)

/-- Strings, and the characters that they are made of. -/
inductive SpeltOut : List String → List (List Char) → Prop
  | nil : SpeltOut [] []
  | cons {l : String} {cs : List Char} {lines : List String} {spelt : List (List Char)} :
      l = String.ofList cs → SpeltOut lines spelt → SpeltOut (l :: lines) (cs :: spelt)

/-- Lines are spelt out one after the other. -/
theorem SpeltOut.append {lines lines' : List String} {spelt spelt' : List (List Char)} (h : SpeltOut lines spelt)
    (h' : SpeltOut lines' spelt') : SpeltOut (lines ++ lines') (spelt ++ spelt') := by
  induction h with
  | nil => exact h'
  | cons hl _ ih => exact .cons hl ih

/-- Lines are looked through as lists of characters. -/
theorem SpeltOut.keepsScript {lines : List String} {spelt : List (List Char)} (h : SpeltOut lines spelt)
    (hspelt : ∀ cs ∈ spelt, settles cs = true ∨ KeepsScript (lineText cs)) :
    ∀ l ∈ lines, KeepsScript (Text.ofString (l ++ "\n")) := by
  induction h with
  | nil => simp
  | @cons l cs lines spelt hl _ ih =>
    obtain ⟨hcs, hspelt⟩ := List.forall_mem_cons.mp hspelt
    refine List.forall_mem_cons.mpr ⟨?_, ih hspelt⟩
    have htext : Text.ofString (l ++ "\n") = lineText cs := by
      rw [hl, Text.ofString, String.toList_append, String.toList_ofList]
      rfl
    rw [htext]
    exact hcs.elim keepsScript_of_settles id

/-- No line of the script behind the literal opens or closes a comment, or the script. -/
theorem keepsScript_runtime : ∀ l ∈ runtime, KeepsScript (Text.ofString (l ++ "\n")) := by
  obtain ⟨_, hspelt, hquiet⟩ : ∃ spelt, SpeltOut runtime spelt ∧
      ∀ cs ∈ spelt, settles cs = true ∨ KeepsScript (lineText cs) := by
    constructor
    constructor
    · -- the characters are found by unification; taking them from the bytes of the strings would be slow
      unfold runtime
      apply SpeltOut.append
      apply SpeltOut.append
      all_goals
        dsimp only [Script.engine, Script.page, Script.exports]
        repeat apply SpeltOut.cons rfl
        exact .nil
    · decide +kernel
  exact hspelt.keepsScript hquiet

/-- Lines that do not end the script make up a script. -/
theorem keepsScript_join {lines : List String} (h : ∀ l ∈ lines, KeepsScript (Text.ofString (l ++ "\n"))) :
    KeepsScript (Text.ofString (String.join (lines.map fun l => l ++ "\n"))) := by
  induction lines with
  | nil => decide
  | cons l lines ih =>
    obtain ⟨hl, hlines⟩ := List.forall_mem_cons.mp h
    rw [List.map_cons, String.join_cons, Text.ofString_append]
    exact keepsScript_append hl (ih hlines)

/-! ## The page with its assets -/

/-- The text of the style element. -/
def styleContent (a : Artifact) : Text := "\n" ++ a.styles ++ "\n  "

/-- The text of the script element. -/
def scriptContent (a : Artifact) : Text := "\n" ++ a.behavior ++ "\n  "

/-- What stands behind the literal in the script element. -/
def scriptRest : Text :=
  ";\n" ++ String.join (runtime.map fun l => l ++ "\n") ++ "\x7d)();\n" ++ "\n  "

/-- What stands in front of it. -/
def scriptOpening : Text := "\n// Quote Form Script\n(function () \x7b\n  'use strict';\n\n  var CONFIG = "

/-- The page that holds its assets, up to its script. -/
def beforeScript (a : Artifact) : List Token :=
  pageOpening ++ element "title" [] [authored a.form.title] ++ line 2 [] ++
    element "style" [] [.text (styleContent a)] ++ pageBody a

/-- The page that holds its assets, as it is put together. -/
def singlePage (a : Artifact) : List Token :=
  beforeScript a ++ element "script" [] [.text (scriptContent a)] ++ pageClosing

/-- The single file is a page whose assets stand in it. -/
theorem singleFile_eq (a : Artifact) : a.singleFile = render (singlePage a) := by
  rw [Artifact.singleFile, page_eq]
  rfl

/-- It is written up to the script, then the script, and then its end. -/
theorem written_singlePage (a : Artifact) :
    written (singlePage a) = written (beforeScript a) ++ .start "script" [] ::
      (chars (scriptContent a) ++ .stop "script" :: written pageClosing) := by
  simp [singlePage, element, written, tokenEvents]

/-- In the script the configuration stands between fixed texts. -/
theorem scriptContent_eq (a : Artifact) : scriptContent a = scriptOpening ++ a.configLiteral ++ scriptRest := by
  have hopening : ("\n" : Text) ++ "// Quote Form Script\n(function () \x7b\n  'use strict';\n\n  var CONFIG = " =
      scriptOpening := rfl
  simp only [scriptContent, Artifact.behavior, Artifact.configuration, scriptRest, List.append_assoc, ← hopening]

/-- The literal ends in a brace. -/
theorem configLiteral_concat (a : Artifact) : ∃ t, a.configLiteral = t ++ [.char '\x7d'] := by
  obtain ⟨t, ht⟩ : ∃ t, a.config.pretty = t ++ .char '\x7d' :: [] := ⟨_, rfl⟩
  refine ⟨guardClosings t, ?_⟩
  rw [Artifact.configLiteral, ht, guardClosings_append_cons (by decide)]
  rfl

/-- Parts of a page are rendered one after the other. -/
theorem render_append (a b : List Token) : render (a ++ b) = render a ++ render b := List.flatMap_append

/-- The fixed text behind the configuration does not end the script. -/
theorem keepsScript_scriptRest : KeepsScript scriptRest := by
  -- the statement of the configuration is closed, the runtime follows, and its function is called
  have hstart : KeepsScript ";\n" := by decide
  have hend : KeepsScript "\x7d)();\n" := by decide
  have hmargin : KeepsScript "\n  " := by decide
  exact keepsScript_append (keepsScript_append (keepsScript_append hstart (keepsScript_join keepsScript_runtime)) hend)
    hmargin

/-- Up to its script the page is read as it is put together. -/
theorem run_beforeScript {form : Form} {options : ArtifactOptions} {a : Artifact}
    (h : Artifact.ofForm form options = .ok a) :
    run (.content .data) (render (beforeScript a)) = (.content .data, written (beforeScript a)) := by
  -- the two elements that hold text alone, and the plain parts around them
  have htitle : run (.content .data) (render (element "title" [] [authored a.form.title])) =
      (.content .data, written (element "title" [] [authored a.form.title])) := by
    have hless : .char '<' ∉ escape a.form.title := fun hmem => (noMarks_escape _ _ hmem).1 rfl
    exact run_raw_element (by decide) (by decide) hless (by decide)
  have hstyle : run (.content .data) (render (element "style" [] [.text (styleContent a)])) =
      (.content .data, written (element "style" [] [.text (styleContent a)])) := by
    have hless : .char '<' ∉ styleContent a := by
      have hmargin : .char '<' ∉ ("\n" : Text) ∧ .char '<' ∉ ("\n  " : Text) := by decide
      simp [styleContent, hmargin, (noTag_styles h).notMem]
    exact run_raw_element (by decide) (by decide) hless (by decide)
  have hline : run (.content .data) (render (line 2 [])) = (.content .data, written (line 2 [])) :=
    run_render (plain_line.mpr plain_nil)
  have hrun := run_append (run_append (run_append (run_append (run_render plain_pageOpening) htitle) hline) hstyle)
    (run_render (plain_pageBody h))
  rw [beforeScript]
  simp only [render_append, written_append]
  exact hrun

/-- What a reader is in at the end tag of the script. -/
theorem run_scriptContent (a : Artifact) :
    ∃ c, run (.content .script) (scriptContent a) = (.content c, chars (scriptContent a)) ∧
      (Traps a.configLiteral ∧ c = .doubled 0 ∨ ¬ Traps a.configLiteral ∧ (c = .script ∨ c = .escaped 0)) := by
  have hopening : run (.content .script) scriptOpening = (.content .script, chars scriptOpening) :=
    run_content (fun _ => rfl) (by decide)
  obtain ⟨t, ht⟩ := configLiteral_concat a
  have hfree : ¬ ("</" : Text) <:+: t ++ [.char '\x7d'] := by
    rw [← ht]
    exact not_infix_guardClosings _
  obtain ⟨c, hliteral, hc⟩ := run_script_braced hfree
  rw [← ht] at hliteral hc
  have hmem : c ∈ [Content.script, .escaped 0, .doubled 0] := by
    rcases hc with ⟨-, rfl⟩ | ⟨-, rfl | rfl⟩ <;> simp
  refine ⟨c, ?_, hc⟩
  rw [scriptContent_eq, run_append (run_append hopening hliteral) (keepsScript_scriptRest c hmem), chars_append,
    chars_append]

/-- How a page that holds its assets is read: as it was put together, or as text from the start of its script on. -/
theorem read_singleFile {form : Form} {options : ArtifactOptions} {a : Artifact}
    (h : Artifact.ofForm form options = .ok a) :
    (¬ Traps a.configLiteral → read a.singleFile = written (singlePage a)) ∧
      (Traps a.configLiteral → read a.singleFile = written (beforeScript a) ++ .start "script" [] ::
        chars (scriptContent a ++ "</script>" ++ render pageClosing)) := by
  have hopen : run (.content .data) (Token.render (.start "script" [])) =
      (.content .script, [.start "script" []]) := by decide
  have hsplit : a.singleFile = render (beforeScript a) ++ Token.render (.start "script" []) ++ scriptContent a ++
      (Token.render (.stop "script") ++ render pageClosing) := by
    rw [singleFile_eq, singlePage, render_append, render_append]
    simp [render, element, Token.render]
  obtain ⟨c, hcontent, hc⟩ := run_scriptContent a
  -- all but what is read behind the script is the same in both cases
  have hread : ∀ c' es, run (.content c) (Token.render (.stop "script") ++ render pageClosing) = (.content c', es) →
      read a.singleFile = written (beforeScript a) ++ .start "script" [] :: (chars (scriptContent a) ++ es) := by
    intro c' es hend
    have hrun := run_append (run_append (run_append (run_beforeScript h) hopen) hcontent) hend
    rw [← hsplit] at hrun
    simp [read, hrun, finish]
  constructor
  · intro hfree
    -- the end tag counts in a script, escaped or not
    have hstop : run (.content c) (Token.render (.stop "script")) = (.content .data, [.stop "script"]) := by
      rcases hc with ⟨htraps, -⟩ | ⟨-, rfl | rfl⟩
      · exact absurd htraps hfree
      · decide
      · decide
    rw [hread _ _ (run_append hstop (run_render plain_pageClosing)), written_singlePage]
    rfl
  · intro htraps
    -- it ends the double escape alone, and what follows is text of the escaped script
    have hend : run (.content c) (Token.render (.stop "script") ++ render pageClosing) =
        (.content (.escaped 0), chars (Token.render (.stop "script") ++ render pageClosing)) := by
      rcases hc with ⟨-, rfl⟩ | ⟨hfree, -⟩
      · decide
      · exact absurd htraps hfree
    have hclose : Token.render (.stop "script") = "</script>" := by decide
    rw [hread _ _ hend, hclose]
    simp only [chars_append, List.append_assoc]

end Questionnaire.Markup

namespace Questionnaire

open Markup

/-- The end tag of a script that is trapped is read as text. -/
theorem read_singleFile_ne {form : Form} {options : ArtifactOptions} {a : Artifact}
    (h : Artifact.ofForm form options = .ok a) (htraps : Traps a.configLiteral) :
    read a.singleFile ≠ written (singlePage a) := by
  intro hread
  rw [(read_singleFile h).2 htraps, written_singlePage] at hread
  have hrest := (List.cons.inj (List.append_cancel_left hread)).2
  have hstop : Event.stop "script" ∈ chars (scriptContent a ++ "</script>" ++ Artifact.Html.render pageClosing) := by
    rw [hrest]
    simp
  obtain ⟨p, -, hp⟩ := List.mem_map.mp hstop
  exact absurd hp (by simp)

/-- A page that holds its stylesheet and its script is read as it was put together, so that both elements end at their
own end tags, unless the literal of the form traps the reader of the script. Then the page is so read up to the script,
which never ends. -/
theorem inlined_assets_end_as_written_iff {form : Form} {options : ArtifactOptions} {a : Artifact}
    (h : Artifact.ofForm form options = .ok a) :
    (read a.singleFile = written (singlePage a) ↔ ¬ Traps a.configLiteral) ∧
      (Traps a.configLiteral → read a.singleFile = written (beforeScript a) ++ .start "script" [] ::
        chars (scriptContent a ++ "</script>" ++ Artifact.Html.render pageClosing)) := by
  obtain ⟨hfree, htrapped⟩ := read_singleFile h
  constructor
  · constructor
    · intro hread htraps
      exact read_singleFile_ne h htraps hread
    · exact hfree
  · exact htrapped

/-- Without `<!--` a script is never escaped. -/
theorem not_traps_of_no_mark {t : Text} (h : ¬ ("<!--" : Text) <:+: t) : ¬ Traps t := by
  rintro ⟨u, d, c, rfl, hawaits, -, -⟩
  obtain ⟨a, b, rfl, -⟩ := hawaits.opened
  apply h
  refine ⟨a, b ++ c :: d, ?_⟩
  simp

/-- A form with both end tags in its title. -/
def closingForm : Form where
  title := "</style></script><script>"
  description := ""
  questions := []
  settings := .standard

/-- End tags that authors write end nothing. -/
theorem inlined_assets_end_as_written_of_closing_form :
    ∃ a, Artifact.ofForm closingForm {} = .ok a ∧ read a.singleFile = written (singlePage a) := by
  obtain ⟨a, hform⟩ : ∃ a, Artifact.ofForm closingForm {} = .ok a := ⟨_, rfl⟩
  have hfree : ¬ ("<!--" : Text) <:+: a.configLiteral := by
    rw [(Artifact.ofForm_eq_ok.mp hform).2]
    decide +kernel
  exact ⟨a, hform, (inlined_assets_end_as_written_iff hform).1.mpr (not_traps_of_no_mark hfree)⟩

/-- A comment and a script tag in it are opened next to each other. -/
theorem traps_of_marks {t u d : Text} (h : t = u ++ "<!--<script>" ++ d) (hd : ¬ ("-->" : Text) <:+: d) : Traps t := by
  have hmarks : ("<!--<script>" : Text) =
      ("<!--" : Text) ++ CodePoint.char '<' :: ("script" : Text) ++ [.char '>'] := rfl
  have hopened : Opened (u ++ "<!--") := ⟨u, [], by simp, by decide⟩
  have hawaits : Awaits (u ++ "<!--" ++ CodePoint.char '<' :: ("script" : Text)) :=
    ⟨_, "script", rfl, hopened, by decide⟩
  refine ⟨_, d, '>', ?_, hawaits, by decide, hd⟩
  rw [h, hmarks]
  simp

/-- A form whose title opens a comment, and a script tag in it. -/
def trappingForm : Form where
  title := "<!--<script>"
  description := ""
  questions := []
  settings := .standard

/-- The page of such a form is not read as it was put together: its script goes on to the end of the document. -/
theorem script_of_trapping_form_never_ends :
    ∃ a, Artifact.ofForm trappingForm {} = .ok a ∧ read a.singleFile ≠ written (singlePage a) ∧
      read a.singleFile = written (beforeScript a) ++ .start "script" [] ::
        chars (scriptContent a ++ "</script>" ++ Artifact.Html.render pageClosing) := by
  obtain ⟨a, hform⟩ : ∃ a, Artifact.ofForm trappingForm {} = .ok a := ⟨_, rfl⟩
  have htraps : Traps a.configLiteral := by
    obtain ⟨-, ha⟩ := Artifact.ofForm_eq_ok.mp hform
    have hsplit : a.configLiteral = a.configLiteral.take 116 ++ "<!--<script>" ++ a.configLiteral.drop 128 := by
      rw [ha]
      decide +kernel
    have hrest : ¬ ("-->" : Text) <:+: a.configLiteral.drop 128 := by
      rw [ha]
      decide +kernel
    exact traps_of_marks hsplit hrest
  exact ⟨a, hform, read_singleFile_ne hform htraps, (read_singleFile hform).2 htraps⟩

end Questionnaire
