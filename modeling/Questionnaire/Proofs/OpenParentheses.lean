import Questionnaire.Proofs.StyleContents

/-!
# Stylesheets with an open parenthesis

A parenthesis that a value leaves open takes in all that follows: semicolons and braces are in it, blocks nest in it,
and a value in such a block can close no more than what was opened in the block.

* `Style.Swallows`: texts that leave open the brackets that are open in front of them; blocks are such texts.
* `Style.outline_render_of_open`: of a stylesheet, what stands in front of the first value that leaves a parenthesis
  open is reported, and the property of the value.
-/

namespace Questionnaire.Style

open Artifact.Css

/-! ## What is taken in -/

/-- Are all brackets that are open parentheses and braces? -/
def Nest (awaited : List CodePoint) : Prop := ∀ c ∈ awaited, c = .char ')' ∨ c = .char '\x7d'

/-- What is waited for by two readers after each other is waited for by one. -/
theorem Nest.append {a b : List CodePoint} (ha : Nest a) (hb : Nest b) : Nest (a ++ b) :=
  List.forall_mem_append.mpr ⟨ha, hb⟩

/-- Open parentheses wait for closing ones. -/
theorem nest_parens (n : Nat) : Nest (List.replicate n (.char ')')) := by
  intro c hc
  exact .inl (List.mem_replicate.mp hc).2

/-- Parentheses are open in front of a first brace. -/
theorem Nest.split {awaited : List CodePoint} (h : Nest awaited) :
    ∃ n base, awaited = List.replicate n (.char ')') ++ base ∧ NoParen base ∧ Nest base := by
  induction awaited with
  | nil => exact ⟨0, [], rfl, .inl rfl, h⟩
  | cons c awaited ih =>
    obtain ⟨hc, hrest⟩ := List.forall_mem_cons.mp h
    rcases hc with rfl | rfl
    · rcases ih hrest with ⟨n, base, rfl, hbase, hnest⟩
      exact ⟨n + 1, base, rfl, hbase, hnest⟩
    · exact ⟨0, _, rfl, .inr rfl, h⟩

/-- Does a text leave open the brackets that are open in front of it? -/
def Swallows (t : Text) : Prop :=
  ∀ awaited s, Nest awaited → awaited ≠ [] →
    ∃ more, Nest more ∧ run ⟨.plain, awaited, s⟩ t = (⟨.plain, more ++ awaited, s ++ t⟩, [])

/-- Does a text leave open the block it stands in? -/
def Stays (t : Text) : Prop :=
  ∀ more awaited s, Nest more → Nest awaited →
    ∃ more', Nest more' ∧ run ⟨.plain, more ++ .char '\x7d' :: awaited, s⟩ t =
      (⟨.plain, more' ++ .char '\x7d' :: awaited, s ++ t⟩, [])

/-- Texts that are swallowed may follow each other. -/
theorem Swallows.append {a b : Text} (ha : Swallows a) (hb : Swallows b) : Swallows (a ++ b) := by
  intro awaited s hnest hopen
  rcases ha awaited s hnest hopen with ⟨more, hmore, hfirst⟩
  rcases hb (more ++ awaited) (s ++ a) (hmore.append hnest) (by simp [hopen]) with ⟨more', hmore', hsecond⟩
  refine ⟨more' ++ more, hmore'.append hmore, ?_⟩
  rw [run_append hfirst hsecond]
  simp

/-- So may texts that are not left. -/
theorem Stays.append {a b : Text} (ha : Stays a) (hb : Stays b) : Stays (a ++ b) := by
  intro more awaited s hmore hnest
  rcases ha more awaited s hmore hnest with ⟨between, hbetween, hfirst⟩
  rcases hb between awaited (s ++ a) hbetween hnest with ⟨last, hlast, hsecond⟩
  refine ⟨last, hlast, ?_⟩
  rw [run_append hfirst hsecond]
  simp

/-- What is swallowed behind any open parenthesis is swallowed within a block as well. -/
theorem Swallows.stays {t : Text} (h : Swallows t) : Stays t := by
  intro more awaited s hmore hnest
  have hbrace : Nest (.char '\x7d' :: awaited) := List.forall_mem_cons.mpr ⟨.inr rfl, hnest⟩
  -- the brace of the block is waited for below what the text itself opens
  rcases h (more ++ .char '\x7d' :: awaited) s (hmore.append hbrace) (by simp) with ⟨more', hmore', hrun⟩
  refine ⟨more' ++ more, hmore'.append hmore, ?_⟩
  rw [hrun, List.append_assoc]

theorem swallows_nil : Swallows [] := by
  intro awaited s _ _
  exact ⟨[], by simp [Nest], by simp [run]⟩

/-- A text for each item of a list is swallowed if each of them is. -/
theorem swallows_flatMap {α : Type} {xs : List α} {f : α → Text} (h : ∀ x ∈ xs, Swallows (f x)) :
    Swallows (xs.flatMap f) := by
  induction xs with
  | nil => exact swallows_nil
  | cons x xs ih =>
    obtain ⟨hx, hxs⟩ := List.forall_mem_cons.mp h
    exact hx.append (ih hxs)

/-- The same of texts that are not left. -/
theorem stays_flatMap {α : Type} {xs : List α} {f : α → Text} (h : ∀ x ∈ xs, Stays (f x)) :
    Stays (xs.flatMap f) := by
  induction xs with
  | nil => exact swallows_nil.stays
  | cons x xs ih =>
    obtain ⟨hx, hxs⟩ := List.forall_mem_cons.mp h
    exact hx.append (ih hxs)

/-- A text that leaves nothing open, and closes only what it has opened, is swallowed as it is. -/
theorem Tidy.swallows {t : Text} (h : Tidy t) : Swallows t := by
  intro awaited s hnest _
  rcases hnest.split with ⟨n, base, rfl, hbase, -⟩
  have hrun := run_isCalm h.calm hbase n s
  rw [h.keepsParens n] at hrun
  exact ⟨[], by simp [Nest], hrun⟩

/-- What closes more than it opens closes no brace. -/
theorem Calm.stays {t : Text} (h : Calm t) : Stays t := by
  intro more awaited s hmore hnest
  rcases hmore.split with ⟨n, base, rfl, hbase, hbaseNest⟩
  have hnoParen : NoParen (base ++ .char '\x7d' :: awaited) := by
    rcases hbase with rfl | hbase
    · exact .inr rfl
    · right
      rw [List.head?_append, hbase]
      rfl
  have hrun := run_isCalm h hnoParen n s
  refine ⟨List.replicate (parens n t) (.char ')') ++ base, (nest_parens _).append hbaseNest, ?_⟩
  rw [List.append_assoc, List.append_assoc]
  exact hrun

/-- In brackets nothing is reported. -/
theorem run_nested {awaited : List CodePoint} (hopen : awaited ≠ []) {p : CodePoint}
    (hplain : Mode.plain.next p = .plain) (s : Text) :
    run ⟨.plain, awaited, s⟩ [p] = (⟨.plain, awaitedAfter awaited p, s ++ [p]⟩, []) := by
  rw [run_singleton, step, stepPlain]
  simp [hopen, hplain]

/-- No statement ends within parentheses, so a semicolon is a sign like others there. -/
theorem swallows_semicolon : Swallows ";" := by
  have htext : Text.ofString ";" = [.char ';'] := rfl
  intro awaited s hnest hopen
  -- a semicolon opens nothing, and nothing waits for it
  have hkept : awaitedAfter awaited (.char ';') = awaited := by
    have hhead : awaited.head? ≠ some (.char ';') := by
      intro hhead
      rcases hnest _ (List.mem_of_head? hhead) with h | h <;> exact absurd h (by decide)
    have hnone : closing? (.char ';') = none := rfl
    simp [awaitedAfter, hnone, hhead]
  have hrun := run_nested hopen (p := .char ';') rfl s
  rw [hkept] at hrun
  rw [htext]
  exact ⟨[], by simp [Nest], hrun⟩

/-- A brace that ends a block closes this one, or one in it, or nothing in a parenthesis. -/
theorem awaitedAfter_brace {more : List CodePoint} (hmore : Nest more) (awaited : List CodePoint) :
    ∃ more', Nest more' ∧ awaitedAfter (more ++ .char '\x7d' :: awaited) (.char '\x7d') = more' ++ awaited := by
  have hnone : closing? (.char '\x7d') = none := rfl
  have hbrace : Nest [.char '\x7d'] := by simp [Nest]
  unfold awaitedAfter
  rw [hnone]
  cases more with
  | nil => exact ⟨[], by simp [Nest], by simp⟩
  | cons c more =>
    have hrest : Nest more := fun d hd => hmore d (List.mem_cons_of_mem c hd)
    rcases hmore c List.mem_cons_self with rfl | rfl
    · exact ⟨.char ')' :: more ++ [.char '\x7d'], hmore.append hbrace, by simp⟩
    · exact ⟨more ++ [.char '\x7d'], hrest.append hbrace, by simp⟩

/-- A block in brackets. -/
theorem swallows_block {t : Text} (h : Stays t) : Swallows (.char '\x7b' :: t ++ [.char '\x7d']) := by
  intro awaited s hnest hopen
  have hstart := run_nested hopen (p := .char '\x7b') rfl s
  have hbraced : awaitedAfter awaited (.char '\x7b') = .char '\x7d' :: awaited := rfl
  rw [hbraced] at hstart
  rcases h [] awaited (s ++ [.char '\x7b']) (by simp [Nest]) hnest with ⟨more, hmore, hcontent⟩
  rcases awaitedAfter_brace hmore awaited with ⟨more', hmore', hafter⟩
  have hsome : more ++ .char '\x7d' :: awaited ≠ [] := by simp
  have hend := run_nested hsome (p := .char '\x7d') rfl (s ++ [.char '\x7b'] ++ t)
  rw [hafter] at hend
  have hrun := run_append (run_append hstart hcontent) hend
  refine ⟨more', hmore', ?_⟩
  simpa using hrun

/-! ## Stylesheets that are swallowed -/

/-- A declaration whose value opens no quotes and closes no braces is not left. -/
theorem CleanDeclaration.stays {d : String × String} (h : CleanDeclaration Calm d) : Stays (declaration d) :=
  ((h.name.tidy.append tidy_colon).calm.append h.value).stays.append swallows_semicolon.stays

/-- With a value that leaves nothing open it is swallowed. -/
theorem CleanDeclaration.swallows {d : String × String} (h : CleanDeclaration Tidy d) : Swallows (declaration d) :=
  ((h.name.tidy.append tidy_colon).append h.value).swallows.append swallows_semicolon

/-- A block is swallowed from its prelude to its closing brace. -/
theorem swallows_braced {prelude content : Text} (hprelude : Tidy prelude) (h : Stays content) :
    Swallows (prelude ++ (" \x7b" : Text) ++ content ++ ("\x7d" : Text)) := by
  have hspace : Blank " " := by decide
  have hopen : Text.ofString " \x7b" = Text.ofString " " ++ [.char '\x7b'] := rfl
  have hclose : Text.ofString "\x7d" = [.char '\x7d'] := rfl
  have hblock := hprelude.swallows.append (hspace.tidy.swallows.append (swallows_block h))
  rw [hopen, hclose]
  simpa using hblock

/-- So is a rule, on its lines. -/
theorem CleanRule.swallows {r : Rule} (h : CleanRule Calm r) {margin : String} (hmargin : Blank margin) :
    Swallows (r.text margin) := by
  have hline : Tidy "\n" := Blank.tidy (by decide)
  have hindent : Tidy "  " := Blank.tidy (by decide)
  have hdeclarations := stays_flatMap fun d hd =>
    ((hmargin.tidy.append hindent).calm.stays.append (h.declarations d hd).stays).append hline.calm.stays
  have hbraced := swallows_braced h.selector ((hline.calm.stays.append hdeclarations).append hmargin.calm.stays)
  have hrule := (hmargin.tidy.swallows.append hbraced).append hline.swallows
  rw [ofString_ruleText]
  simpa only [List.append_assoc] using hrule

/-- So is a frame of an animation. -/
theorem CleanRule.swallows_frame {r : Rule} (h : CleanRule Calm r) : Swallows r.frameText := by
  have hspace : Tidy " " := Blank.tidy (by decide)
  have hline : Tidy "\n" := Blank.tidy (by decide)
  have hindent : Tidy "  " := Blank.tidy (by decide)
  have hdeclarations := stays_flatMap fun d hd => hspace.calm.stays.append (h.declarations d hd).stays
  have hbraced := swallows_braced h.selector (hdeclarations.append hspace.calm.stays)
  have hframe := (hindent.swallows.append hbraced).append hline.swallows
  rw [ofString_frameText h.nonempty]
  simpa only [List.append_assoc] using hframe

/-- Behind an open parenthesis, whole blocks are swallowed. -/
theorem CleanBlock.swallows {b : Block} (h : CleanBlock Calm b) : Swallows b.text := by
  have hline : Tidy "\n" := Blank.tidy (by decide)
  cases b with
  | rule r => exact CleanRule.swallows h (by decide)
  | media condition rules =>
    rcases h with ⟨hprelude, hsome, hrules⟩
    have hmargin : Blank (Text.ofString "  ") := by decide
    have hcontent := swallows_flatMap fun r hr => hline.swallows.append ((hrules r hr).swallows hmargin)
    rw [ofString_mediaText _ hsome]
    exact (swallows_braced hprelude hcontent.stays).append hline.swallows
  | keyframes name frames =>
    rcases h with ⟨hprelude, hframes⟩
    have hcontent := hline.swallows.append (swallows_flatMap fun r hr => (hframes r hr).swallows_frame)
    have hblock := (swallows_braced hprelude hcontent.stays).append hline.swallows
    rw [ofString_keyframesText]
    simpa only [List.append_assoc] using hblock

/-- Behind an open parenthesis, a brace that ends a block ends nothing. -/
theorem run_swallowed {a b : Text} (ha : Swallows a) (hb : Swallows b) {awaited : List CodePoint} (hnest : Nest awaited)
    (s : Text) :
    ∃ awaited', run ⟨.plain, .char ')' :: awaited, s⟩ (a ++ ("\x7d" : Text) ++ b) =
      (⟨.plain, awaited', s ++ (a ++ ("\x7d" : Text) ++ b)⟩, []) := by
  have hparen : Nest (.char ')' :: awaited) := List.forall_mem_cons.mpr ⟨.inl rfl, hnest⟩
  rcases ha _ s hparen (by simp) with ⟨more, hmore, hfirst⟩
  -- the parenthesis is still open after the brace, whatever else is
  have hbrace : ∃ more', Nest more' ∧
      awaitedAfter (more ++ .char ')' :: awaited) (.char '\x7d') = more' ++ .char ')' :: awaited := by
    have hnone : closing? (.char '\x7d') = none := rfl
    unfold awaitedAfter
    rw [hnone]
    cases more with
    | nil => exact ⟨[], hmore, by simp⟩
    | cons c more =>
      have hrest : Nest more := fun d hd => hmore d (List.mem_cons_of_mem c hd)
      rcases hmore c List.mem_cons_self with rfl | rfl
      · exact ⟨_, hmore, by simp⟩
      · exact ⟨more, hrest, by simp⟩
  rcases hbrace with ⟨more', hmore', hafter⟩
  have hsome : more ++ .char ')' :: awaited ≠ [] := by simp
  have hend := run_nested hsome (p := .char '\x7d') rfl (s ++ a)
  rw [hafter] at hend
  rcases hb _ (s ++ a ++ [.char '\x7d']) (hmore'.append hparen) (by simp) with ⟨more'', -, hlast⟩
  have hrun := run_append (run_append hfirst hend) hlast
  have htext : Text.ofString "\x7d" = [.char '\x7d'] := rfl
  rw [htext]
  refine ⟨more'' ++ (more' ++ .char ')' :: awaited), ?_⟩
  simpa using hrun

/-- A declaration without its semicolon, if its value leaves a parenthesis open. -/
theorem CleanDeclaration.run_of_open {d : String × String} (h : CleanDeclaration Calm d) (hopen : LeavesOpen d.2)
    (gap : Text) :
    ∃ n, run ⟨.plain, [], gap⟩ ((d.1 : Text) ++ (": " : Text) ++ (d.2 : Text)) =
      (⟨.plain, .char ')' :: List.replicate n (.char ')'), gap ++ ((d.1 : Text) ++ (": " : Text) ++ (d.2 : Text))⟩,
        []) := by
  have hname := h.name.tidy.append tidy_colon
  have hnone : NoParen [] := .inl rfl
  have hrun := run_isCalm (hname.calm.append h.value) hnone 0 gap
  obtain ⟨n, hn⟩ : ∃ n, parens 0 ((d.1 : Text) ++ (": " : Text) ++ (d.2 : Text)) = n + 1 := by
    rw [parens_append, hname.keepsParens 0]
    exact Nat.exists_eq_succ_of_ne_zero hopen
  rw [hn, List.append_nil, List.append_nil, List.replicate_succ] at hrun
  exact ⟨n, hrun⟩

/-- What follows such a declaration in its rule, and the blocks behind the rule. -/
def restText (after : List (String × String)) (below : List Block) : Text :=
  (";" : Text) ++ (("\n" : Text) ++ after.flatMap fun e => ("  " : Text) ++ declaration e ++ ("\n" : Text)) ++
    ("\x7d" : Text) ++ (("\n" : Text) ++ below.flatMap fun b => ("\n" : Text) ++ (b.text : Text))

/-- What is left of the stylesheet behind the declaration is swallowed to its end. -/
theorem run_restText {after : List (String × String)} {below : List Block}
    (hafter : ∀ e ∈ after, CleanDeclaration Tidy e) (hbelow : ∀ b ∈ below, CleanBlock Calm b) (n : Nat)
    (s : Text) :
    ∃ awaited, run ⟨.plain, .char ')' :: List.replicate n (.char ')'), s⟩ (restText after below) =
      (⟨.plain, awaited, s ++ restText after below⟩, []) := by
  have hline : Tidy "\n" := Blank.tidy (by decide)
  have hindent : Tidy "  " := Blank.tidy (by decide)
  -- the declarations behind it, to the end of the rule, and then the blocks behind the rule
  have hdeclarations := hline.swallows.append (swallows_flatMap fun e he =>
    (hindent.swallows.append (hafter e he).swallows).append hline.swallows)
  have hblocks := hline.swallows.append (swallows_flatMap fun b hb => hline.swallows.append (hbelow b hb).swallows)
  exact run_swallowed (swallows_semicolon.append hdeclarations) hblocks (nest_parens n) s

/-- The first value that leaves a parenthesis open takes in all that follows. -/
theorem outline_render_of_open {title selector : String} {above below : List Block}
    {before after : List (String × String)} {d : String × String} (htitle : .char '*' ∉ Text.ofString title)
    (habove : ∀ b ∈ above, CleanBlock Closed b) (hselector : Tidy selector)
    (hbefore : ∀ e ∈ before, CleanDeclaration Closed e) (hd : CleanDeclaration Calm d) (hopen : LeavesOpen d.2)
    (hafter : ∀ e ∈ after, CleanDeclaration Tidy e) (hbelow : ∀ b ∈ below, CleanBlock Calm b) :
    outline (render title (above ++ .rule ⟨selector, before ++ d :: after⟩ :: below)) =
      contents above ++ [.enter (Text.strip selector)] ++ before.map (fun e => .property (Text.strip e.1)) ++
        [.property (Text.strip d.1)] := by
  have hline : Blank "\n" := by decide
  have hindent : Blank "  " := by decide
  -- in front of the declaration the stylesheet is read as it was put together, and behind it nothing is reported
  have henter := ((readsAs_enter hselector).blank_append hline).append_blank hline
  have hdeclarations := readsAs_map fun e he => ((hbefore e he).readsAs.blank_append hindent).append_blank hline
  have hfront := (((readsAs_blocks habove).append henter).append hdeclarations).append_blank hindent
  rcases hfront [] (by decide) with ⟨gap, hgap, hrunFront⟩
  rcases hd.run_of_open hopen gap with ⟨n, hrunValue⟩
  rcases run_restText hafter hbelow n (gap ++ ((d.1 : Text) ++ (": " : Text) ++ (d.2 : Text)))
    with ⟨awaited, hrunRest⟩
  have hrun := run_append (run_title htitle) (run_append (run_append hrunFront hrunValue) hrunRest)
  have hcolon : Text.ofString ": " = [.char ':', .char ' '] := rfl
  have hstatement : gap ++ ((d.1 : Text) ++ (": " : Text) ++ (d.2 : Text)) ++ restText after below =
      gap ++ (d.1 : Text) ++ .char ':' :: (.char ' ' :: ((d.2 : Text) ++ restText after below)) := by
    simp [hcolon]
  have htext : run opening (render title (above ++ .rule ⟨selector, before ++ d :: after⟩ :: below)) =
      (⟨.plain, awaited, gap ++ (d.1 : Text) ++ .char ':' :: (.char ' ' :: ((d.2 : Text) ++ restText after below))⟩,
        contents above ++ [.enter (Text.strip selector)] ++ before.map fun e => .property (Text.strip e.1)) := by
    have hempty : Text.ofString "" = [] := rfl
    rw [← hstatement, ofString_render title (by simp)]
    simpa [Block.text, ofString_ruleText, declaration, restText, hempty] using hrun
  unfold outline
  rw [htext, propertyOf_declaration hgap (hd.name.notMem (by decide))]

end Questionnaire.Style
