import Questionnaire.Artifact.Css
import Questionnaire.Proofs.ClassPrefixes
import Questionnaire.Proofs.StyleReading

/-!
# Stylesheets that are read as they were put together

* `Style.contents`: the selectors and properties of a stylesheet as it is put together.
* `Style.CleanBlock`: blocks whose selectors, properties and values end nothing by themselves.
* `Style.ReadsAs`: texts that leave the reader between statements, and what is reported there.
* `Style.outline_render`: a stylesheet of clean blocks is read as it was put together, if no value leaves a
  parenthesis open.
-/

namespace Questionnaire.Style

open Artifact.Css

/-! ## Stylesheets as they are put together -/

/-- The selector and the properties of a rule. -/
def ruleContents (r : Rule) : List Event :=
  [.enter (Text.strip r.selector)] ++ r.declarations.map (fun d => .property (Text.strip d.1)) ++ [.leave]

/-- The selectors and properties of a block; rules within a block stand between its own marks. -/
def blockContents : Block → List Event
  | .rule r => ruleContents r
  | .media condition rules =>
    [.enter (Text.strip ("@media " ++ condition : String))] ++ rules.flatMap ruleContents ++ [.leave]
  | .keyframes name frames =>
    [.enter (Text.strip ("@keyframes " ++ name : String))] ++ frames.flatMap ruleContents ++ [.leave]

/-- The selectors and properties of a stylesheet, in order. -/
def contents (blocks : List Block) : List Event := blocks.flatMap blockContents

/-! ## What is read as it was put together -/

/-- Between statements, does a text report some events and leave the reader between statements? -/
def ReadsAs (t : Text) (es : List Event) : Prop :=
  ∀ gap, Blank gap → ∃ gap', Blank gap' ∧ run ⟨.plain, [], gap⟩ t = (⟨.plain, [], gap'⟩, es)

/-- Texts that leave the reader between statements may follow each other. -/
theorem ReadsAs.append {a b : Text} {es es' : List Event} (ha : ReadsAs a es) (hb : ReadsAs b es') :
    ReadsAs (a ++ b) (es ++ es') := by
  intro gap hgap
  rcases ha gap hgap with ⟨between, hbetween, hfirst⟩
  rcases hb between hbetween with ⟨last, hlast, hsecond⟩
  exact ⟨last, hlast, run_append hfirst hsecond⟩

/-- Blanks report nothing. -/
theorem readsAs_blank {t : Text} (h : Blank t) : ReadsAs t [] := by
  intro gap hgap
  exact ⟨gap ++ t, hgap.append h, h.tidy.closed.run_statement gap⟩

/-- Blanks behind a text change nothing. -/
theorem ReadsAs.append_blank {a b : Text} {es : List Event} (ha : ReadsAs a es) (hb : Blank b) :
    ReadsAs (a ++ b) es := by
  have hboth := ha.append (readsAs_blank hb)
  rwa [List.append_nil] at hboth

/-- Nor do blanks in front of it. -/
theorem ReadsAs.blank_append {a b : Text} {es : List Event} (hb : ReadsAs b es) (ha : Blank a) :
    ReadsAs (a ++ b) es :=
  (readsAs_blank ha).append hb

/-- A text for each item of a list reports the events of each in their order. -/
theorem readsAs_flatMap {α : Type} {xs : List α} {f : α → Text} {g : α → List Event}
    (h : ∀ x ∈ xs, ReadsAs (f x) (g x)) : ReadsAs (xs.flatMap f) (xs.flatMap g) := by
  induction xs with
  | nil => exact readsAs_blank (t := []) (by decide)
  | cons x xs ih =>
    obtain ⟨hx, hxs⟩ := List.forall_mem_cons.mp h
    exact hx.append (ih hxs)

/-- The same where each item reports one event. -/
theorem readsAs_map {α : Type} {xs : List α} {f : α → Text} {g : α → Event}
    (h : ∀ x ∈ xs, ReadsAs (f x) [g x]) :
    ReadsAs (xs.flatMap f) (xs.map g) := by
  rw [List.map_eq_flatMap]
  exact readsAs_flatMap h

/-- The code points that end something, start quotes or end a name. -/
def nameMarks : Text := "():" ++ marks

/-- Is a text free of them? -/
def IsName (t : Text) : Prop := ∀ p ∈ t, p ∉ nameMarks

/-- A name holds none of the marks. -/
theorem IsName.notMem {t : Text} (h : IsName t) {p : CodePoint} (hp : p ∈ nameMarks) : p ∉ t :=
  fun hmem => h p hmem hp

/-- A name leaves nothing open, for it has neither quotes nor parentheses. -/
theorem IsName.tidy {t : Text} (h : IsName t) : Tidy t := by
  constructor
  · exact calm_of_notMem_marks fun p hp hmark => h p hp (List.mem_append_right _ hmark)
  · exact keepsParens_of_notMem (h.notMem (by decide)) (h.notMem (by decide))

theorem tidy_colon : Tidy ": " := ⟨by decide, keepsParens_of_notMem (by decide) (by decide)⟩

/-- The semicolon ends a statement. -/
theorem readsAs_declaration {name value : Text} (hname : IsName name) (hvalue : Closed value) :
    ReadsAs (name ++ ": " ++ value ++ ";") [.property (Text.strip name)] := by
  intro gap hgap
  have hclosed : Closed (name ++ ": " ++ value) := (hname.tidy.append tidy_colon).append_closed hvalue
  have hend : run ⟨.plain, [], gap ++ (name ++ ": " ++ value)⟩ ";" = (opening, [.property (Text.strip name)]) := by
    -- the name goes up to the first colon, which is the one behind it
    have hproperty := propertyOf_declaration hgap (hname.notMem (by decide)) (.char ' ' :: value)
    have hsplit : gap ++ (name ++ ": " ++ value) = gap ++ name ++ .char ':' :: .char ' ' :: value := by
      have hcolon : Text.ofString ": " = [.char ':', .char ' '] := rfl
      simp [hcolon]
    rw [hsplit, ← hproperty]
    exact run_singleton _ _
  exact ⟨[], by decide, run_append (hclosed.run_statement gap) hend⟩

/-- A brace starts a block. -/
theorem readsAs_enter {prelude : Text} (h : Tidy prelude) :
    ReadsAs (prelude ++ " \x7b") [.enter (Text.strip prelude)] := by
  intro gap hgap
  have hblank : Blank " " := by decide
  have hend : run ⟨.plain, [], gap ++ (prelude ++ " ")⟩ "\x7b" = (opening, [.enter (Text.strip prelude)]) := by
    rw [← strip_append_blank prelude hblank, ← strip_blank_append hgap]
    exact run_singleton _ _
  have hsplit : prelude ++ " \x7b" = prelude ++ " " ++ "\x7b" := by
    rw [List.append_assoc]
    rfl
  rw [hsplit]
  exact ⟨[], by decide, run_append ((h.append hblank.tidy).closed.run_statement gap) hend⟩

/-- A brace ends a block. -/
theorem readsAs_leave : ReadsAs "\x7d" [.leave] := by
  intro gap hgap
  have hstep : run ⟨.plain, [], gap⟩ "\x7d" = (opening, propertyOf gap ++ [.leave]) := run_singleton _ _
  rw [propertyOf_blank hgap] at hstep
  exact ⟨[], by decide, hstep⟩

/-! ## Stylesheets as texts -/

/-- Strings that are put together have the code points of each. -/
theorem ofString_join (strings : List String) :
    Text.ofString (String.join strings) = strings.flatMap Text.ofString := by
  induction strings with
  | nil => rfl
  | cons s strings ih => rw [String.join_cons, Text.ofString_append, ih, List.flatMap_cons]

/-- With one more separator in front, each string has one in front of it. -/
theorem ofString_intercalate (separator : String) (strings : List String) (h : strings ≠ []) :
    Text.ofString separator ++ Text.ofString (separator.intercalate strings) =
      strings.flatMap fun s => Text.ofString separator ++ Text.ofString s := by
  match strings with
  | [] => exact absurd rfl h
  | [s] => simp
  | s :: s' :: strings =>
    have hrest := ofString_intercalate separator (s' :: strings) (by simp)
    rw [String.intercalate_cons_cons, Text.ofString_append, Text.ofString_append, List.flatMap_cons, ← hrest]
    simp

/-- A declaration as it is written. -/
def declaration (d : String × String) : Text := Text.ofString d.1 ++ ": " ++ Text.ofString d.2 ++ ";"

/-- A declaration is written as its name, a colon, its value and a semicolon. -/
theorem ofString_declarationText (d : String × String) : Text.ofString (declarationText d) = declaration d := by
  simp only [declarationText, declaration, Text.ofString_append]

/-- A rule is written on lines: its selector, one declaration on each line, and the closing brace. -/
theorem ofString_ruleText (margin : String) (r : Rule) :
    Text.ofString (r.text margin) = (margin : Text) ++ (r.selector ++ (" \x7b" : Text)) ++ ("\n" : Text) ++
      r.declarations.flatMap (fun d => (margin : Text) ++ ("  " : Text) ++ declaration d ++ ("\n" : Text)) ++
      (margin : Text) ++ ("\x7d" : Text) ++ ("\n" : Text) := by
  have hopen : Text.ofString " \x7b\n" = Text.ofString " \x7b" ++ Text.ofString "\n" := rfl
  have hclose : Text.ofString "\x7d\n" = Text.ofString "\x7d" ++ Text.ofString "\n" := rfl
  simp only [Rule.text, Text.ofString_append, ofString_join, List.flatMap_map, ofString_declarationText, hopen, hclose,
    List.append_assoc]

/-- A frame of an animation is written on one line. -/
theorem ofString_frameText {r : Rule} (h : r.declarations ≠ []) :
    Text.ofString r.frameText = ("  " : Text) ++ (r.selector ++ (" \x7b" : Text)) ++
      r.declarations.flatMap (fun d => (" " : Text) ++ declaration d) ++ (" " : Text) ++ ("\x7d" : Text) ++
      ("\n" : Text) := by
  have hopen : Text.ofString " \x7b " = Text.ofString " \x7b" ++ Text.ofString " " := rfl
  have hclose : Text.ofString " \x7d\n" = Text.ofString " " ++ Text.ofString "\x7d" ++ Text.ofString "\n" := rfl
  have hdeclarations := ofString_intercalate " " (r.declarations.map declarationText) (by simpa using h)
  simp only [List.flatMap_map, ofString_declarationText] at hdeclarations
  simp only [Rule.frameText, Text.ofString_append, hopen, hclose, List.append_assoc, ← hdeclarations]

/-- The rules for some screens stand on lines of their own, further in. -/
theorem ofString_mediaText (condition : String) {rules : List Rule} (h : rules ≠ []) :
    Text.ofString (Block.media condition rules).text = (("@media " ++ condition : String) ++ (" \x7b" : Text)) ++
      rules.flatMap (fun r => ("\n" : Text) ++ (r.text "  " : Text)) ++ ("\x7d" : Text) ++ ("\n" : Text) := by
  have hopen : Text.ofString " \x7b\n" = Text.ofString " \x7b" ++ Text.ofString "\n" := rfl
  have hclose : Text.ofString "\x7d\n" = Text.ofString "\x7d" ++ Text.ofString "\n" := rfl
  -- the line breaks between the rules are counted as one in front of each
  have hrules := ofString_intercalate "\n" (rules.map (Rule.text "  ")) (by simpa using h)
  simp only [List.flatMap_map] at hrules
  simp only [Block.text, Text.ofString_append, hopen, hclose, List.append_assoc, ← hrules]

/-- So do the frames of an animation. -/
theorem ofString_keyframesText (name : String) (frames : List Rule) :
    Text.ofString (Block.keyframes name frames).text = (("@keyframes " ++ name : String) ++ (" \x7b" : Text)) ++
      ("\n" : Text) ++ frames.flatMap (fun r => (r.frameText : Text)) ++ ("\x7d" : Text) ++ ("\n" : Text) := by
  have hopen : Text.ofString " \x7b\n" = Text.ofString " \x7b" ++ Text.ofString "\n" := rfl
  have hclose : Text.ofString "\x7d\n" = Text.ofString "\x7d" ++ Text.ofString "\n" := rfl
  simp only [Block.text, Text.ofString_append, ofString_join, List.flatMap_map, hopen, hclose, List.append_assoc]

/-- A stylesheet starts with a comment, and each block stands behind a line break. -/
theorem ofString_render (title : String) {blocks : List Block} (h : blocks ≠ []) :
    Text.ofString (render title blocks) = (("/* " : Text) ++ (title : Text) ++ (" */" : Text)) ++
      blocks.flatMap fun b => ("\n" : Text) ++ (b.text : Text) := by
  have hclose : Text.ofString " */\n" = Text.ofString " */" ++ Text.ofString "\n" := rfl
  have hblocks := ofString_intercalate "\n" (blocks.map Block.text) (by simpa using h)
  simp only [List.flatMap_map] at hblocks
  simp only [render, Text.ofString_append, hclose, List.append_assoc, ← hblocks]

/-! ## Stylesheets that are read as they were put together -/

/-- Do the parts of a declaration end nothing, and is its value of some kind? -/
structure CleanDeclaration (V : Text → Prop) (d : String × String) : Prop where
  name : IsName d.1
  value : V d.2

/-- Is there something in a rule, and is all of it clean? -/
structure CleanRule (V : Text → Prop) (r : Rule) : Prop where
  selector : Tidy r.selector
  nonempty : r.declarations ≠ []
  declarations : ∀ d ∈ r.declarations, CleanDeclaration V d

/-- Are the rules of a block clean, and what stands in front of them? -/
def CleanBlock (V : Text → Prop) : Block → Prop
  | .rule r => CleanRule V r
  | .media condition rules => Tidy ("@media " ++ condition : String) ∧ rules ≠ [] ∧ ∀ r ∈ rules, CleanRule V r
  | .keyframes name frames => Tidy ("@keyframes " ++ name : String) ∧ ∀ r ∈ frames, CleanRule V r

section
variable {V W : Text → Prop} (hV : ∀ t, V t → W t)
include hV

/-- What is clean for some values is clean if more values are allowed. -/
theorem CleanDeclaration.mono {d : String × String} (h : CleanDeclaration V d) : CleanDeclaration W d :=
  ⟨h.name, hV _ h.value⟩

/-- The same of rules. -/
theorem CleanRule.mono {r : Rule} (h : CleanRule V r) : CleanRule W r :=
  ⟨h.selector, h.nonempty, fun d hd => (h.declarations d hd).mono hV⟩

/-- The same of blocks. -/
theorem CleanBlock.mono {b : Block} (h : CleanBlock V b) : CleanBlock W b := by
  cases b with
  | rule r => exact CleanRule.mono hV h
  | media condition rules => exact ⟨h.1, h.2.1, fun r hr => (h.2.2 r hr).mono hV⟩
  | keyframes name frames => exact ⟨h.1, fun r hr => (h.2 r hr).mono hV⟩

end

/-- A clean declaration reports its property. -/
theorem CleanDeclaration.readsAs {d : String × String} (h : CleanDeclaration Closed d) :
    ReadsAs (declaration d) [.property (Text.strip d.1)] :=
  readsAs_declaration h.name h.value

/-- A clean rule reports its selector, its properties, and its end. -/
theorem CleanRule.readsAs {r : Rule} (h : CleanRule Closed r) {margin : String} (hmargin : Blank margin) :
    ReadsAs (r.text margin) (ruleContents r) := by
  have hline : Blank "\n" := by decide
  have hindent : Blank "  " := by decide
  -- the opening line, the lines of the declarations, and the closing line
  have hopening := ((readsAs_enter h.selector).blank_append hmargin).append_blank hline
  have hdeclarations := readsAs_map fun d hd =>
    ((h.declarations d hd).readsAs.blank_append (hmargin.append hindent)).append_blank hline
  rw [ofString_ruleText]
  exact (((hopening.append hdeclarations).append_blank hmargin).append readsAs_leave).append_blank hline

/-- So does a frame, though it stands on one line. -/
theorem CleanRule.readsAs_frame {r : Rule} (h : CleanRule Closed r) : ReadsAs r.frameText (ruleContents r) := by
  have hspace : Blank " " := by decide
  have hline : Blank "\n" := by decide
  have hindent : Blank "  " := by decide
  have hopening := (readsAs_enter h.selector).blank_append hindent
  have hdeclarations := readsAs_map fun d hd => (h.declarations d hd).readsAs.blank_append hspace
  rw [ofString_frameText h.nonempty]
  exact (((hopening.append hdeclarations).append_blank hspace).append readsAs_leave).append_blank hline

/-- Clean blocks report their selectors and properties, however they are laid out. -/
theorem CleanBlock.readsAs {b : Block} (h : CleanBlock Closed b) : ReadsAs b.text (blockContents b) := by
  have hline : Blank "\n" := by decide
  have hindent : Blank "  " := by decide
  -- each block is an opening, what stands in it, and a closing brace, with blanks in between
  cases b with
  | rule r => exact CleanRule.readsAs h (by decide)
  | media condition rules =>
    rcases h with ⟨hprelude, hsome, hrules⟩
    have hcontent := readsAs_flatMap fun r hr => ((hrules r hr).readsAs hindent).blank_append hline
    rw [ofString_mediaText _ hsome]
    exact (((readsAs_enter hprelude).append hcontent).append readsAs_leave).append_blank hline
  | keyframes name frames =>
    rcases h with ⟨hprelude, hframes⟩
    have hcontent := readsAs_flatMap fun r hr => (hframes r hr).readsAs_frame
    rw [ofString_keyframesText]
    exact ((((readsAs_enter hprelude).append_blank hline).append hcontent).append readsAs_leave).append_blank hline

/-- A comment goes on until an asterisk. -/
theorem run_comment {t : Text} (h : .char '*' ∉ t) (awaited : List CodePoint) (s : Text) :
    run ⟨.comment, awaited, s⟩ t = (⟨.comment, awaited, s⟩, []) := by
  induction t with
  | nil => rfl
  | cons p t ih =>
    simp only [List.mem_cons, not_or] at h
    have hstep : step ⟨.comment, awaited, s⟩ p = (⟨.comment, awaited, s⟩, []) := by
      simp [step, Mode.next, Ne.symm h.1]
    rw [run, hstep, ih h.2]
    rfl

/-- The title is a comment. -/
theorem run_title {title : Text} (h : .char '*' ∉ title) :
    run opening (("/* " : Text) ++ title ++ (" */" : Text)) = (opening, []) := by
  have hstart : run opening "/* " = (⟨.comment, [], []⟩, []) := by decide
  have hend : run ⟨.comment, [], []⟩ " */" = (opening, []) := by decide
  exact run_append (run_append hstart (run_comment h _ _)) hend

/-- Blocks follow each other on lines of their own. -/
theorem readsAs_blocks {blocks : List Block} (h : ∀ b ∈ blocks, CleanBlock Closed b) :
    ReadsAs (blocks.flatMap fun b => ("\n" : Text) ++ (b.text : Text)) (contents blocks) := by
  have hline : Blank "\n" := by decide
  exact readsAs_flatMap fun b hb => (h b hb).readsAs.blank_append hline

/-- A stylesheet whose values leave no parenthesis open is read as it was put together. -/
theorem outline_render {title : String} {blocks : List Block} (htitle : .char '*' ∉ Text.ofString title)
    (hsome : blocks ≠ []) (h : ∀ b ∈ blocks, CleanBlock Closed b) :
    outline (render title blocks) = contents blocks := by
  rcases readsAs_blocks h [] (by decide) with ⟨gap, hgap, hblocks⟩
  have hrun := run_append (run_title htitle) hblocks
  unfold outline
  rw [ofString_render title hsome, hrun, propertyOf_blank hgap, List.append_nil]
  rfl

end Questionnaire.Style
