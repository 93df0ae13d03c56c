import Mathlib.Data.List.Infix
import Mathlib.Data.List.TakeWhile
import Questionnaire.Text.Blank

/-!
# Reading stylesheets

How a stylesheet is split, one code point at a time: a semicolon or a brace ends the statement in front of it, unless
a bracket is open in the statement. In brackets only the one that closes the innermost one counts, and another one
that closes is skipped. Comments are left out, and what stands in quotes is text.

The reader goes by nesting alone. It does not know which properties and values there are, nor the word `url`, behind
which a parenthesis does not nest.

* `Style.step`, `Style.run`, `Style.outline`: the reader, and the selectors and properties that it reports.
* `Style.Balanced`, `Style.LeavesOpen`: the parentheses of a text.
* `Style.run_isCalm`: a text that ends nothing becomes part of the statement, and only parentheses count in it.
-/

namespace Questionnaire.Style

/-! ## Events and states -/

/-- What a reader reports. -/
inductive Event where
  /-- A block starts; what stands in front of it. -/
  | enter (prelude : Text)
  /-- A declaration; what stands in front of its colon. -/
  | property (name : Text)
  /-- A block ends. -/
  | leave
deriving DecidableEq, Repr

/-- What a reader is in. -/
inductive Mode where
  | plain
  /-- After `/`. -/
  | slash
  | comment
  /-- After `*` in a comment. -/
  | star
  | quoted (mark : CodePoint)
  /-- After a backslash, in quotes or not. -/
  | escaped (mark : Option CodePoint)
deriving DecidableEq, Repr

/-- The state of a reader. -/
structure State where
  mode : Mode
  /-- What closes the brackets that are open in the statement, innermost first. -/
  awaited : List CodePoint
  /-- What was read of the statement. -/
  statement : Text
deriving DecidableEq, Repr

/-! ## The reader -/

namespace Mode

/-- What a code point that is no part of something leads into. -/
def start (p : CodePoint) : Mode :=
  if p = '/' then slash
  else if p = '"' ∨ p = '\'' then quoted p
  else if p = '\\' then escaped none
  else plain

/-- The mode behind a code point. -/
def next : Mode → CodePoint → Mode
  | plain, p => start p
  | slash, p => if p = '*' then comment else start p
  | comment, p => if p = '*' then star else comment
  | star, p => if p = '/' then plain else if p = '*' then star else comment
  | quoted mark, p =>
    -- the end of a line ends quotes as well
    if p = mark ∨ p = '\n' then plain else if p = '\\' then escaped (some mark) else quoted mark
  | escaped none, _ => plain
  | escaped (some mark), _ => quoted mark

end Mode

/-- What closes a bracket. -/
def closing? (p : CodePoint) : Option CodePoint :=
  if p = '(' then some ')' else if p = '[' then some ']' else if p = '\x7b' then some '\x7d' else none

/-- The brackets that are open after a code point. -/
def awaitedAfter (awaited : List CodePoint) (p : CodePoint) : List CodePoint :=
  match closing? p with
  | some c => c :: awaited
  | none => if awaited.head? = some p then awaited.tail else awaited

/-- The property of a statement, if there is something in it. -/
def propertyOf (statement : Text) : List Event :=
  if Text.strip statement = [] then [] else [.property (Text.strip (statement.takeWhile (· ≠ .char ':')))]

/-- The start of a statement. -/
def opening : State := ⟨.plain, [], []⟩

/-- A code point outside comments and quotes. -/
def stepPlain (s : State) (p : CodePoint) : State × List Event :=
  if s.awaited = [] ∧ p = ';' then (opening, propertyOf s.statement)
  else if s.awaited = [] ∧ p = '\x7b' then (opening, [.enter (Text.strip s.statement)])
  else if s.awaited = [] ∧ p = '\x7d' then (opening, propertyOf s.statement ++ [.leave])
  else (⟨s.mode.next p, awaitedAfter s.awaited p, s.statement ++ [p]⟩, [])

/-- One code point is read. -/
def step (s : State) (p : CodePoint) : State × List Event :=
  match s.mode with
  | .plain => stepPlain s p
  | .slash =>
    -- the slash in front of a comment is no part of the statement
    if p = '*' then (⟨.comment, s.awaited, s.statement.dropLast⟩, []) else stepPlain s p
  | .comment | .star => (⟨s.mode.next p, s.awaited, s.statement⟩, [])
  | .quoted _ | .escaped _ => (⟨s.mode.next p, s.awaited, s.statement ++ [p]⟩, [])

/-- A text is read, and what is met there is reported in order. -/
def run (s : State) : Text → State × List Event
  | [] => (s, [])
  | p :: t => ((run (step s p).1 t).1, (step s p).2 ++ (run (step s p).1 t).2)

/-- The selectors and properties of a stylesheet, in order. The end of the text ends the last statement. -/
def outline (t : Text) : List Event := (run opening t).2 ++ propertyOf (run opening t).1.statement

/-- What one text reports stands in front of what the next one does. -/
theorem run_append {s s' s'' : State} {a b : Text} {es es' : List Event} (ha : run s a = (s', es))
    (hb : run s' b = (s'', es')) : run s (a ++ b) = (s'', es ++ es') := by
  induction a generalizing s es with
  | nil =>
    obtain ⟨rfl, rfl⟩ := Prod.mk.inj ha
    exact hb
  | cons p a ih =>
    obtain ⟨hstate, rfl⟩ := Prod.mk.inj ha
    have hrest := ih (s := (step s p).1) (Prod.ext hstate rfl)
    rw [List.cons_append, run, hrest, List.append_assoc]

theorem run_singleton (s : State) (p : CodePoint) : run s [p] = step s p := by
  rw [run, run, List.append_nil]

/-! ## Parentheses -/

/-- The parentheses that are open after a code point, where some were open before. One that closes none is skipped. -/
def parensAfter (n : Nat) (p : CodePoint) : Nat := if p = '(' then n + 1 else if p = ')' then n - 1 else n

/-- The parentheses that are open after a text. -/
def parens (n : Nat) (t : Text) : Nat := t.foldl parensAfter n

/-- Does each parenthesis that closes close one, and is each that opens closed? -/
def Balanced (t : Text) : Prop :=
  (∀ u ∈ t.inits, u.count (.char ')') ≤ u.count (.char '(')) ∧ t.count (.char '(') = t.count (.char ')')

instance (t : Text) : Decidable (Balanced t) :=
  inferInstanceAs (Decidable ((∀ u ∈ t.inits, u.count (.char ')') ≤ u.count (.char '(')) ∧
    t.count (.char '(') = t.count (.char ')')))

/-- Is a parenthesis open at the end of a text? -/
def LeavesOpen (t : Text) : Prop := parens 0 t ≠ 0

instance (t : Text) : Decidable (LeavesOpen t) := inferInstanceAs (Decidable (parens 0 t ≠ 0))

/-- Does a text close what it opens, and nothing else? -/
def KeepsParens (t : Text) : Prop := ∀ n, parens n t = n

/-- Parentheses are counted on from one text to the next. -/
theorem parens_append (n : Nat) (a b : Text) : parens n (a ++ b) = parens (parens n a) b :=
  List.foldl_append

/-- Texts that leave open what was open may follow each other. -/
theorem KeepsParens.append {a b : Text} (ha : KeepsParens a) (hb : KeepsParens b) : KeepsParens (a ++ b) := by
  intro n
  rw [parens_append, ha, hb]

/-- As long as there are parentheses to close, each closing one takes away one that is open. -/
theorem parensAfter_add_count {n : Nat} {p : CodePoint} (h : [p].count (.char ')') ≤ n + [p].count (.char '(')) :
    parensAfter n p + [p].count (.char ')') = n + [p].count (.char '(') := by
  have hne : CodePoint.char '(' ≠ .char ')' := by decide
  unfold parensAfter
  by_cases hopen : p = '('
  · simp [hopen, hne]
  · by_cases hclose : p = ')'
    · subst hclose
      simp [hne.symm] at h ⊢
      omega
    · simp [hopen, hclose]

/-- If no more are closed than were open, what is open is counted. -/
theorem parens_add_count {n : Nat} {t : Text} (h : ∀ u, u <+: t → u.count (.char ')') ≤ n + u.count (.char '(')) :
    parens n t + t.count (.char ')') = n + t.count (.char '(') := by
  induction t generalizing n with
  | nil => rfl
  | cons p t ih =>
    have hsplit : ∀ (u : Text) (c : CodePoint), (p :: u).count c = [p].count c + u.count c := by
      intro u c
      rw [← List.count_append]
      rfl
    have hfirst := parensAfter_add_count (h [p] (List.cons_prefix_cons.mpr ⟨rfl, List.nil_prefix⟩))
    have hrest := ih (n := parensAfter n p) fun u hu => by
      have hcount := h (p :: u) (List.cons_prefix_cons.mpr ⟨rfl, hu⟩)
      rw [hsplit u ')', hsplit u '('] at hcount
      omega
    rw [hsplit t ')', hsplit t '(']
    change parens (parensAfter n p) t + _ = _
    omega

/-- Balanced texts leave open what was open. -/
theorem Balanced.keepsParens {t : Text} (h : Balanced t) : KeepsParens t := by
  intro n
  have hcount := parens_add_count (n := n) (t := t) fun u hu =>
    (h.1 u ((List.mem_inits _ _).mpr hu)).trans (Nat.le_add_left _ _)
  have hsame := h.2
  omega

/-- A balanced text leaves nothing open. -/
theorem Balanced.not_leavesOpen {t : Text} (h : Balanced t) : ¬ LeavesOpen t := by
  intro hopen
  exact hopen (h.keepsParens 0)

/-- A text without parentheses. -/
theorem balanced_of_notMem {t : Text} (hopen : .char '(' ∉ t) (hclose : .char ')' ∉ t) : Balanced t := by
  constructor
  · intro u hu
    have hsub := ((List.mem_inits _ _).mp hu).subset
    rw [List.count_eq_zero.mpr fun h => hclose (hsub h)]
    exact Nat.zero_le _
  · rw [List.count_eq_zero.mpr hopen, List.count_eq_zero.mpr hclose]

/-- So do texts without parentheses. -/
theorem keepsParens_of_notMem {t : Text} (hopen : .char '(' ∉ t) (hclose : .char ')' ∉ t) : KeepsParens t :=
  (balanced_of_notMem hopen hclose).keepsParens

/-! ## Blanks -/

/-- Is a text blank? -/
def Blank (t : Text) : Prop := ∀ p ∈ t, Text.isBlank p = true

instance (t : Text) : Decidable (Blank t) := inferInstanceAs (Decidable (∀ p ∈ t, Text.isBlank p = true))

/-- Blanks may follow each other. -/
theorem Blank.append {a b : Text} (ha : Blank a) (hb : Blank b) : Blank (a ++ b) :=
  List.forall_mem_append.mpr ⟨ha, hb⟩

/-- What is no blank is not found among them. -/
theorem Blank.notMem {t : Text} (h : Blank t) {p : CodePoint} (hp : Text.isBlank p = false) : p ∉ t := by
  intro hmem
  rw [h p hmem] at hp
  cases hp

/-- Blanks in front are stripped. -/
theorem strip_blank_append {a : Text} (ha : Blank a) (t : Text) : Text.strip (a ++ t) = Text.strip t := by
  unfold Text.strip Text.trim
  rw [List.dropWhile_append_of_pos ha]

/-- So are blanks behind. -/
theorem strip_append_blank (t : Text) {b : Text} (hb : Blank b) : Text.strip (t ++ b) = Text.strip t := by
  have hreverse : ∀ p ∈ b.reverse, Text.isBlank p = true := fun p hp => hb p (List.mem_reverse.mp hp)
  unfold Text.strip Text.trim
  rw [List.dropWhile_append]
  split
  · next hempty =>
    have hnone : b.dropWhile Text.isBlank = [] := List.dropWhile_eq_nil_iff.mpr hb
    rw [hnone, List.isEmpty_iff.mp hempty]
  · rw [List.reverse_append, List.dropWhile_append_of_pos hreverse]

/-- What is not blank is left. -/
theorem strip_ne_nil {t : Text} {p : CodePoint} (hp : p ∈ t) (hblank : Text.isBlank p = false) :
    Text.strip t ≠ [] := by
  intro hstrip
  unfold Text.strip Text.trim at hstrip
  rw [List.reverse_eq_nil_iff, List.dropWhile_eq_nil_iff] at hstrip
  -- all that is left when the blanks in front are gone is blank, and so nothing is left
  have hall : ∀ q ∈ t, Text.isBlank q = true := by
    rw [← List.dropWhile_eq_nil_iff]
    by_contra hrest
    have hhead := List.head_dropWhile_not Text.isBlank hrest
    rw [hstrip _ (List.mem_reverse.mpr (List.head_mem hrest))] at hhead
    cases hhead
  rw [hall p hp] at hblank
  cases hblank

/-- Of blanks nothing is left. -/
theorem strip_blank {t : Text} (h : Blank t) : Text.strip t = [] := by
  have hstrip := strip_append_blank [] h
  rwa [List.nil_append] at hstrip

/-- Between statements there is no property. -/
theorem propertyOf_blank {t : Text} (h : Blank t) : propertyOf t = [] := if_pos (strip_blank h)

/-- The property of a declaration. -/
theorem propertyOf_declaration {margin name : Text} (hmargin : Blank margin) (hname : .char ':' ∉ name)
    (rest : Text) :
    propertyOf (margin ++ name ++ .char ':' :: rest) = [.property (Text.strip name)] := by
  have hfront : ∀ p ∈ margin ++ name, decide (p ≠ .char ':') = true := by
    intro p hp
    rw [decide_eq_true_iff]
    rintro rfl
    rcases List.mem_append.mp hp with hp | hp
    · exact hmargin.notMem (by decide) hp
    · exact hname hp
  have hsome : Text.strip (margin ++ name ++ .char ':' :: rest) ≠ [] :=
    strip_ne_nil (p := .char ':') (by simp) (by decide)
  have hstop : (CodePoint.char ':' :: rest).takeWhile (fun p => decide (p ≠ .char ':')) = [] := rfl
  unfold propertyOf
  rw [if_neg hsome, List.takeWhile_append_of_pos hfront, hstop, List.append_nil, strip_blank_append hmargin]

/-! ## Calm texts -/

/-- Does a code point end nothing? Parentheses may stand outside quotes only. -/
def isCalmPoint : Mode → CodePoint → Bool
  | .plain, p => !(";\x7b\x7d[]/" : Text).contains p
  | .quoted _, p | .escaped _, p => !("()" : Text).contains p
  | .slash, _ | .comment, _ | .star, _ => false

/-- Does a text, read in a mode, open no quotes and end no statement, and come back to plain text? -/
def isCalm : Mode → Text → Bool
  | mode, [] => mode == .plain
  | mode, p :: t => isCalmPoint mode p && isCalm (mode.next p) t

/-- Does a text end nothing and close its quotes? -/
def Calm (t : Text) : Prop := isCalm .plain t = true

instance (t : Text) : Decidable (Calm t) := inferInstanceAs (Decidable (isCalm .plain t = true))

/-- A calm text may follow, for the first one comes back to plain text. -/
theorem isCalm_append {mode : Mode} {a b : Text} (ha : isCalm mode a = true) (hb : Calm b) :
    isCalm mode (a ++ b) = true := by
  induction a generalizing mode with
  | nil =>
    rw [isCalm, beq_iff_eq] at ha
    rw [List.nil_append, ha]
    exact hb
  | cons p a ih =>
    rw [isCalm, Bool.and_eq_true] at ha
    rw [List.cons_append, isCalm, Bool.and_eq_true]
    exact ⟨ha.1, ih ha.2⟩

/-- Calm texts may follow each other. -/
theorem Calm.append {a b : Text} (ha : Calm a) (hb : Calm b) : Calm (a ++ b) := isCalm_append ha hb

/-- The code points that end something or start quotes. -/
def marks : Text := ";\x7b\x7d[]/\"'\\"

/-- A text without marks is calm. -/
theorem calm_of_notMem_marks {t : Text} (h : ∀ p ∈ t, p ∉ marks) : Calm t := by
  induction t with
  | nil => rfl
  | cons p t ih =>
    obtain ⟨hp, ht⟩ := List.forall_mem_cons.mp h
    have hcalm : isCalmPoint .plain p = true := by
      have hfewer : ∀ q ∈ (";\x7b\x7d[]/" : Text), q ∈ marks := by decide
      rw [isCalmPoint, Bool.not_eq_true', ← Bool.not_eq_true, List.contains_iff_mem]
      exact fun hmem => hp (hfewer p hmem)
    have hnext : Mode.plain.next p = .plain := by
      have hnone : p ≠ .char '/' ∧ p ≠ .char '"' ∧ p ≠ .char '\'' ∧ p ≠ .char '\\' := by
        refine ⟨?_, ?_, ?_, ?_⟩ <;> rintro rfl <;> exact hp (by decide)
      simp [Mode.next, Mode.start, hnone]
    rw [Calm, isCalm, hcalm, hnext]
    exact ih ht

/-- Blanks are no marks. -/
theorem Blank.calm {t : Text} (h : Blank t) : Calm t := by
  apply calm_of_notMem_marks
  intro p hp hmark
  have hnone : ∀ q ∈ marks, Text.isBlank q = false := by decide
  exact h.notMem (hnone p hmark) hp

/-- Nor are they parentheses. -/
theorem Blank.keepsParens {t : Text} (h : Blank t) : KeepsParens t :=
  keepsParens_of_notMem (h.notMem (by decide)) (h.notMem (by decide))

/-! ## Calm texts are read -/

/-- Is no parenthesis the innermost bracket that is open? -/
def NoParen (awaited : List CodePoint) : Prop := awaited = [] ∨ awaited.head? = some '\x7d'

/-- In a calm text only parentheses change the brackets that are open. -/
theorem awaitedAfter_replicate {base : List CodePoint} (hbase : NoParen base) (n : Nat) {p : CodePoint}
    (hp : isCalmPoint .plain p = true) :
    awaitedAfter (List.replicate n (.char ')') ++ base) p = List.replicate (parensAfter n p) (.char ')') ++ base := by
  have hnone : p ≠ .char '[' ∧ p ≠ .char '\x7b' ∧ p ≠ .char '\x7d' := by
    refine ⟨?_, ?_, ?_⟩ <;> rintro rfl <;> exact absurd hp (by decide)
  rcases hnone with ⟨hsquare, hbrace, hend⟩
  unfold awaitedAfter parensAfter closing?
  by_cases hopen : p = '('
  · simp [hopen, List.replicate_succ]
  · simp only [hopen, hsquare, hbrace, if_false]
    cases n with
    | succ n =>
      by_cases hclose : p = ')'
      · simp [hclose, List.replicate_succ]
      · simp [hclose, List.replicate_succ, Ne.symm hclose]
    | zero =>
      -- nothing that is read here closes what is open
      have hhead : base.head? ≠ some p := by
        rcases hbase with rfl | hbase
        · simp
        · rw [hbase]
          simpa using Ne.symm hend
      simp [hhead]

/-- A calm text reports nothing, and leaves open the parentheses that are open behind it. -/
theorem run_isCalm {mode : Mode} {t : Text} (h : isCalm mode t = true) {base : List CodePoint} (hbase : NoParen base)
    (n : Nat) (s : Text) :
    run ⟨mode, List.replicate n (.char ')') ++ base, s⟩ t =
      (⟨.plain, List.replicate (parens n t) (.char ')') ++ base, s ++ t⟩, []) := by
  induction t generalizing mode n s with
  | nil =>
    rw [isCalm, beq_iff_eq] at h
    rw [h, List.append_nil]
    rfl
  | cons p t ih =>
    rw [isCalm, Bool.and_eq_true] at h
    rcases h with ⟨hp, ht⟩
    have hstep : step ⟨mode, List.replicate n (.char ')') ++ base, s⟩ p =
        (⟨mode.next p, List.replicate (parensAfter n p) (.char ')') ++ base, s ++ [p]⟩, []) := by
      -- a parenthesis in quotes would not be counted
      have hquoted : isCalmPoint (.quoted p) p = true → parensAfter n p = n := by
        intro hp
        have hnone : p ≠ .char '(' ∧ p ≠ .char ')' := by
          constructor <;> rintro rfl <;> exact absurd hp (by decide)
        simp [parensAfter, hnone]
      cases mode with
      | plain =>
        have hnone : p ≠ .char ';' ∧ p ≠ .char '\x7b' ∧ p ≠ .char '\x7d' := by
          refine ⟨?_, ?_, ?_⟩ <;> rintro rfl <;> exact absurd hp (by decide)
        rw [← awaitedAfter_replicate hbase n hp]
        simp [step, stepPlain, hnone]
      | quoted mark => rw [hquoted hp]; rfl
      | escaped mark => rw [hquoted hp]; rfl
      | slash => cases hp
      | comment => cases hp
      | star => cases hp
    have hrest := ih ht (parensAfter n p) (s ++ [p])
    rw [run, hstep, hrest, List.append_assoc]
    rfl

/-! ## Closed and tidy texts -/

/-- Does a text end nothing, and leave no parenthesis open? -/
structure Closed (t : Text) : Prop where
  calm : Calm t
  closed : ¬ LeavesOpen t

/-- Does a text end nothing, and close what it opens and nothing else? -/
structure Tidy (t : Text) : Prop where
  calm : Calm t
  keepsParens : KeepsParens t

/-- Tidy texts may follow each other. -/
theorem Tidy.append {a b : Text} (ha : Tidy a) (hb : Tidy b) : Tidy (a ++ b) :=
  ⟨ha.calm.append hb.calm, ha.keepsParens.append hb.keepsParens⟩

/-- What leaves open only what was open leaves nothing open of its own. -/
theorem Tidy.closed {t : Text} (h : Tidy t) : Closed t := ⟨h.calm, fun hopen => hopen (h.keepsParens 0)⟩

/-- A tidy text may stand in front of a closed one. -/
theorem Tidy.append_closed {a b : Text} (ha : Tidy a) (hb : Closed b) : Closed (a ++ b) := by
  refine ⟨ha.calm.append hb.calm, ?_⟩
  unfold LeavesOpen
  rw [parens_append, ha.keepsParens 0]
  exact hb.closed

/-- It may also stand behind. -/
theorem Closed.append_tidy {a b : Text} (ha : Closed a) (hb : Tidy b) : Closed (a ++ b) := by
  refine ⟨ha.calm.append hb.calm, ?_⟩
  unfold LeavesOpen
  rw [parens_append, hb.keepsParens]
  exact ha.closed

theorem Blank.tidy {t : Text} (h : Blank t) : Tidy t := ⟨h.calm, h.keepsParens⟩

/-- A closed text becomes part of the statement. -/
theorem Closed.run_statement {t : Text} (h : Closed t) (s : Text) :
    run ⟨.plain, [], s⟩ t = (⟨.plain, [], s ++ t⟩, []) := by
  have hnone : NoParen [] := .inl rfl
  have hrun := run_isCalm h.calm hnone 0 s
  rw [not_not.mp h.closed] at hrun
  exact hrun

end Questionnaire.Style
