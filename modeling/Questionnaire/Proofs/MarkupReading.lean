import Mathlib.Data.List.Basic
import Questionnaire.Artifact.Html

/-!
# Reading markup

How a browser takes a document apart: the states and transitions of the tokenization of HTML, one code point at a
time. Outside tags a reader is in some content. In data every tag counts; in raw text only the end tag of its element
does; in a script the same, unless `<!--` and then `<script` were read, after which the first end tag counts as text.

Left out is what changes no tag: character references stay as they are written, and line ends are taken as they are.

* `Markup.step`, `Markup.run`, `Markup.read`: the reader, and the events it reports.
* `Markup.written`: the events of a document as it was put together.
* `Markup.run_render`: a document of plain parts is read as it was put together.
-/

namespace Questionnaire.Markup

open Artifact.Html

/-! ## Events and states -/

/-- What a reader reports. -/
inductive Event where
  /-- What stands between `<!` and its end. -/
  | declaration (t : Text)
  /-- A start tag with its attributes as they are written; of attributes of one name, the first counts. -/
  | start (name : Text) (attributes : List (Text × Text))
  | stop (name : Text)
  /-- A code point of a text. -/
  | char (p : CodePoint)
deriving DecidableEq, Repr

/-- The events of a text. -/
def chars (t : Text) : List Event := t.map .char

/-- What a reader is in when it is in no tag. -/
inductive Content where
  | data
  /-- The raw text of an element. -/
  | raw (name : Text)
  | script
  /-- A script after `<!--`, and the dashes that were read last, two at most. -/
  | escaped (dashes : Nat)
  /-- An escaped script after `<script`. -/
  | doubled (dashes : Nat)
deriving DecidableEq, Repr

/-- What was read of a tag. -/
structure Tag where
  closing : Bool
  name : Text
  attributes : List (Text × Text) := []
deriving DecidableEq, Repr

/-- Where a reader stands in a tag. -/
inductive Place where
  | name
  | before
  | attributeName (name : Text)
  | after (name : Text)
  | beforeValue (name : Text)
  | value (quote : Option CodePoint) (name value : Text)
  | afterValue
  | slash
deriving DecidableEq, Repr

/-- The states of a reader. -/
inductive State where
  | content (c : Content)
  /-- After `<`. -/
  | less (c : Content)
  /-- After `<!` and some text. -/
  | declaration (t : Text)
  /-- In what is skipped up to a `>`. -/
  | bogus
  /-- After `</`. -/
  | endOpen (c : Content)
  /-- After `</` and letters in a content that only its own end tag ends. -/
  | endName (c : Content) (name : Text)
  /-- After `<!` in a script, and perhaps a dash. -/
  | escapeStart (dash : Bool)
  /-- After `<` and letters in an escaped script. -/
  | doubleStart (word : Text)
  /-- After `</` and letters in a doubly escaped script. -/
  | doubleEnd (word : Text)
  | tag (t : Tag) (place : Place)
deriving DecidableEq, Repr

/-- A step: the state it leads to, and what it reports. -/
abbrev Step := State × List Event

/-- The white space between the parts of a tag. -/
def isSpace (p : CodePoint) : Bool := p = '\t' || p = '\n' || p = '\x0c' || p = ' '

/-- Does a code point end a tag name? -/
def endsName (p : CodePoint) : Bool := isSpace p || p = '/' || p = '>'

/-- A step after which some text is reported first. -/
def Step.after (t : Text) (r : Step) : Step := (r.1, chars t ++ r.2)

/-! ## Contents -/

namespace Content

/-- The content after a start tag. -/
def ofElement (name : Text) : Content :=
  if name = "script" then script
  else if name ∈ (["title", "textarea", "style", "xmp", "iframe", "noembed", "noframes"] : List Text) then raw name
  else data

/-- The element whose end tag ends a content that is no data. -/
def element? : Content → Option Text
  | raw name => some name
  | script | escaped _ => some "script"
  | data | doubled _ => none

/-- The dashes in front of what follows, when a code point was read. -/
def dashesAfter (dashes : Nat) (p : CodePoint) : Nat := if p = '-' then min (dashes + 1) 2 else 0

/-- The content after a code point other than `<`. -/
def next (p : CodePoint) : Content → Content
  | escaped dashes => if p = '>' ∧ dashes = 2 then script else escaped (dashesAfter dashes p)
  | doubled dashes => if p = '>' ∧ dashes = 2 then script else doubled (dashesAfter dashes p)
  | c => c

/-- The content after a `<`, which ends a row of dashes. -/
def broken : Content → Content
  | escaped _ => escaped 0
  | doubled _ => doubled 0
  | c => c

end Content

/-! ## Tags -/

namespace Tag

/-- The tag with one more attribute. -/
def add (t : Tag) (name value : Text) : Tag := { t with attributes := t.attributes ++ [(name, value)] }

/-- The end of a tag. -/
def close (t : Tag) : Step :=
  if t.closing then (.content .data, [.stop t.name])
  else (.content (.ofElement t.name), [.start t.name t.attributes])

/-- A code point in front of an attribute. -/
def stepBefore (t : Tag) (p : CodePoint) : Step :=
  if isSpace p then (.tag t .before, [])
  else if p = '/' then (.tag t .slash, [])
  else if p = '>' then t.close
  else (.tag t (.attributeName [p.lowerAscii]), [])

/-- A code point after the name of an attribute. -/
def stepAfter (t : Tag) (name : Text) (p : CodePoint) : Step :=
  if isSpace p then (.tag t (.after name), [])
  else if p = '/' then (.tag (t.add name []) .slash, [])
  else if p = '=' then (.tag t (.beforeValue name), [])
  else if p = '>' then (t.add name []).close
  else (.tag (t.add name []) (.attributeName [p.lowerAscii]), [])

/-- A code point in a tag. -/
def step (t : Tag) (place : Place) (p : CodePoint) : Step :=
  match place with
  | .name =>
    if isSpace p then (.tag t .before, [])
    else if p = '/' then (.tag t .slash, [])
    else if p = '>' then t.close
    else (.tag { t with name := t.name ++ [p.lowerAscii] } .name, [])
  | .before => t.stepBefore p
  | .attributeName name =>
    if endsName p then t.stepAfter name p
    else if p = '=' then (.tag t (.beforeValue name), [])
    else (.tag t (.attributeName (name ++ [p.lowerAscii])), [])
  | .after name => t.stepAfter name p
  | .beforeValue name =>
    if isSpace p then (.tag t (.beforeValue name), [])
    else if p = '"' ∨ p = '\'' then (.tag t (.value (some p) name []), [])
    else if p = '>' then (t.add name []).close
    else (.tag t (.value none name [p]), [])
  | .value (some quote) name value =>
    if p = quote then (.tag (t.add name value) .afterValue, [])
    else (.tag t (.value (some quote) name (value ++ [p])), [])
  | .value none name value =>
    if isSpace p then (.tag (t.add name value) .before, [])
    else if p = '>' then (t.add name value).close
    else (.tag t (.value none name (value ++ [p])), [])
  | .afterValue => t.stepBefore p
  | .slash => if p = '>' then t.close else t.stepBefore p

end Tag

/-! ## Steps -/

/-- A code point of a content. -/
def stepContent (c : Content) (p : CodePoint) : Step :=
  if p = '<' then (.less c, []) else (.content (c.next p), [.char p])

/-- A code point after a `<` that may turn out to be text. -/
def stepLess (c : Content) (p : CodePoint) : Step :=
  let asText := (stepContent c.broken p).after "<"
  match c with
  | .data =>
    if p = '!' then (.declaration [], [])
    else if p = '/' then (.endOpen .data, [])
    else if p.isAlpha then Tag.step ⟨false, [], []⟩ .name p
    else if p = '?' then (.bogus, [])
    else asText
  | .raw name => if p = '/' then (.endOpen (.raw name), []) else asText
  | .script =>
    if p = '/' then (.endOpen .script, [])
    else if p = '!' then (.escapeStart false, chars "<!")
    else asText
  | .escaped _ =>
    if p = '/' then (.endOpen (.escaped 0), [])
    else if p.isAlpha then (.doubleStart [p.lowerAscii], chars ['<', p])
    else asText
  | .doubled _ => if p = '/' then (.doubleEnd [], chars "</") else asText

/-- Does a declaration end at a `>`? A comment does so after two dashes only. -/
def declarationEnds : Text → Bool
  | '-' :: '-' :: t => t.isEmpty || t == "-" || ("--" : Text).isSuffixOf t || ("--!" : Text).isSuffixOf t
  | _ => true

/-- A code point in a state. -/
def step (s : State) (p : CodePoint) : Step :=
  match s with
  | .content c => stepContent c p
  | .less c => stepLess c p
  | .declaration t =>
    if p = '>' ∧ declarationEnds t then (.content .data, [.declaration t]) else (.declaration (t ++ [p]), [])
  | .bogus => (if p = '>' then .content .data else .bogus, [])
  | .endOpen .data =>
    if p.isAlpha then Tag.step ⟨true, [], []⟩ .name p
    else (if p = '>' then .content .data else .bogus, [])
  | .endOpen c => if p.isAlpha then (.endName c [p], []) else (stepContent c p).after "</"
  | .endName c name =>
    if c.element? = some name.lowerAscii ∧ endsName p then Tag.step ⟨true, name.lowerAscii, []⟩ .name p
    else if p.isAlpha then (.endName c (name ++ [p]), [])
    else (stepContent c p).after ("</" ++ name)
  | .escapeStart dash =>
    if p = '-' then (if dash then .content (.escaped 2) else .escapeStart true, [.char p])
    else stepContent .script p
  | .doubleStart word =>
    if endsName p then (.content (if word = "script" then .doubled 0 else .escaped 0), [.char p])
    else if p.isAlpha then (.doubleStart (word ++ [p.lowerAscii]), [.char p])
    else stepContent (.escaped 0) p
  | .doubleEnd word =>
    if endsName p then (.content (if word = "script" then .escaped 0 else .doubled 0), [.char p])
    else if p.isAlpha then (.doubleEnd (word ++ [p.lowerAscii]), [.char p])
    else stepContent (.doubled 0) p
  | .tag t place => t.step place p

/-- The state after a text, and what was reported on the way. -/
def run (s : State) : Text → Step
  | [] => (s, [])
  | p :: t => ((run (step s p).1 t).1, (step s p).2 ++ (run (step s p).1 t).2)

/-- What is reported at the end of a document: text that might have become a tag. -/
def finish : State → List Event
  | .less _ => chars "<"
  | .endOpen _ => chars "</"
  | .endName _ name => chars ("</" ++ name)
  | _ => []

/-- The events of a document. -/
def read (t : Text) : List Event := (run (.content .data) t).2 ++ finish (run (.content .data) t).1

/-! ## Runs -/

/-- The characters of a text are reported one after the other. -/
theorem chars_append (a b : Text) : chars (a ++ b) = chars a ++ chars b := List.map_append

/-- Reading takes one step at a time, and reports what the steps report. -/
theorem run_cons (s : State) (p : CodePoint) (t : Text) :
    run s (p :: t) = ((run (step s p).1 t).1, (step s p).2 ++ (run (step s p).1 t).2) := rfl

/-- A run over two texts is one over the first and one over the second. -/
theorem run_append {s s' s'' : State} {a b : Text} {es es' : List Event} (ha : run s a = (s', es))
    (hb : run s' b = (s'', es')) : run s (a ++ b) = (s'', es ++ es') := by
  induction a generalizing s es with
  | nil =>
    obtain ⟨rfl, rfl⟩ := Prod.mk.inj ha
    exact hb
  | cons p a ih =>
    rw [run_cons] at ha
    obtain ⟨hstate, rfl⟩ := Prod.mk.inj ha
    rw [List.cons_append, run_cons, ih (Prod.ext hstate rfl)]
    simp

/-- A step and a run make a run. -/
theorem run_of_step {s s' s'' : State} {p : CodePoint} {t : Text} {es es' : List Event} (hp : step s p = (s', es))
    (ht : run s' t = (s'', es')) : run s (p :: t) = (s'', es ++ es') := by
  rw [run_cons, hp, ht]

/-- Text without `<` is text in every content that has no use for dashes. -/
theorem run_content {c : Content} (hc : ∀ p, c.next p = c) {t : Text} (ht : .char '<' ∉ t) :
    run (.content c) t = (.content c, chars t) := by
  induction t with
  | nil => rfl
  | cons p t ih =>
    simp only [List.mem_cons, not_or] at ht
    have hstep : step (.content c) p = (.content c, [.char p]) := by
      simp [step, stepContent, Ne.symm ht.1, hc]
    rw [run_of_step hstep (ih ht.2)]
    rfl

/-- In data a text without `<` is reported as it is. -/
theorem run_data {t : Text} (ht : .char '<' ∉ t) : run (.content .data) t = (.content .data, chars t) :=
  run_content (fun _ => rfl) ht

/-- So it is in an element that holds text alone. -/
theorem run_raw (name : Text) {t : Text} (ht : .char '<' ∉ t) :
    run (.content (.raw name)) t = (.content (.raw name), chars t) :=
  run_content (fun _ => rfl) ht

/-! ## Written parts -/

/-- May a code point stand in a name? Letters must be in lower case, in which names are read; `<` and quotes are read
too, but as errors. -/
def isNamePoint (p : CodePoint) : Bool := !endsName p && p ≠ '=' && p ≠ '<' && p ≠ '"' && p.lowerAscii = p

/-- A name: a letter, and what may stand in names. -/
def isName (name : String) : Bool :=
  match (name : Text) with
  | [] => false
  | p :: rest => p.isAlpha && (p :: rest).all isNamePoint

/-- The first code point of a name, and the others. -/
theorem isName_iff {name : String} : isName name = true ↔ ∃ p rest, (name : Text) = p :: rest ∧ p.isAlpha = true ∧
    isNamePoint p = true ∧ ∀ q ∈ rest, isNamePoint q = true := by
  unfold isName
  cases (name : Text) with
  | nil => simp
  | cons p rest => simp

/-- An attribute as it is read. -/
def attributeRead (a : Attribute) : Text × Text := (a.name, a.value.getD [])

/-- The events of a part of a document. -/
def tokenEvents : Token → List Event
  | .declaration s => [.declaration s]
  | .start name attributes | .empty name attributes => [.start name (attributes.map attributeRead)]
  | .stop name => [.stop name]
  | .text t => chars t

/-- The events of a document as it was put together. -/
def written (tokens : List Token) : List Event := tokens.flatMap tokenEvents

@[simp] theorem written_append (a b : List Token) : written (a ++ b) = written a ++ written b :=
  List.flatMap_append

@[simp] theorem written_cons (t : Token) (ts : List Token) : written (t :: ts) = tokenEvents t ++ written ts := rfl

/-- A point of a name ends nothing, separates nothing and is in lower case. -/
theorem ne_of_isNamePoint {p : CodePoint} (h : isNamePoint p = true) :
    endsName p = false ∧ isSpace p = false ∧ p ≠ '/' ∧ p ≠ '>' ∧ p ≠ '=' ∧ p.lowerAscii = p := by
  simp only [isNamePoint, Bool.and_eq_true, Bool.not_eq_true', decide_eq_true_eq] at h
  obtain ⟨⟨⟨⟨hends, hequals⟩, -⟩, -⟩, hlower⟩ := h
  have hparts := hends
  simp only [endsName, Bool.or_eq_false_iff, decide_eq_false_iff_not] at hparts
  exact ⟨hends, hparts.1.1, hparts.1.2, hparts.2, hequals, hlower⟩

/-- A state in which a tag may end or go on with an attribute. -/
structure Goes (s : State) (t : Tag) : Prop where
  close : step s '>' = t.close
  slash : run s [.char ' ', .char '/'] = (.tag t .slash, [])
  more : ∀ p, isNamePoint p = true → run s [.char ' ', p] = (.tag t (.attributeName [p]), [])

/-- Where an attribute may stand, a point of a name begins one. -/
theorem stepBefore_of_isNamePoint {p : CodePoint} (h : isNamePoint p = true) (t : Tag) :
    t.stepBefore p = (.tag t (.attributeName [p]), []) := by
  obtain ⟨-, hspace, hslash, hclose, -, hlower⟩ := ne_of_isNamePoint h
  simp [Tag.stepBefore, hspace, hslash, hclose, hlower]

/-- A tag may end or go on after its name. -/
theorem goes_name (t : Tag) : Goes (.tag t .name) t :=
  ⟨rfl, rfl, fun p hp => by
    have hstep : step (.tag t .before) p = (.tag t (.attributeName [p]), []) := stepBefore_of_isNamePoint hp t
    exact run_of_step rfl (run_of_step hstep rfl)⟩

/-- A tag may end or go on after the closing quote of a value. -/
theorem goes_afterValue (t : Tag) : Goes (.tag t .afterValue) t :=
  ⟨rfl, rfl, fun p hp => by
    have hstep : step (.tag t .before) p = (.tag t (.attributeName [p]), []) := stepBefore_of_isNamePoint hp t
    exact run_of_step rfl (run_of_step hstep rfl)⟩

/-- A tag may end or go on after an attribute without a value. -/
theorem goes_attribute (t : Tag) (name : Text) : Goes (.tag t (.attributeName name)) (t.add name []) :=
  ⟨rfl, rfl, fun p hp => by
    obtain ⟨-, hspace, hslash, hclose, hequals, hlower⟩ := ne_of_isNamePoint hp
    have hstep : step (.tag t (.after name)) p = (.tag (t.add name []) (.attributeName [p]), []) := by
      simp [step, Tag.step, Tag.stepAfter, hspace, hslash, hclose, hequals, hlower]
    exact run_of_step rfl (run_of_step hstep rfl)⟩

/-- The rest of a tag name. -/
theorem run_name (t : Tag) {rest : Text} (h : ∀ p ∈ rest, isNamePoint p = true) :
    run (.tag t .name) rest = (.tag { t with name := t.name ++ rest } .name, []) := by
  induction rest generalizing t with
  | nil => simp [run]
  | cons p rest ih =>
    obtain ⟨hp, hrest⟩ := List.forall_mem_cons.mp h
    obtain ⟨-, hspace, hslash, hclose, -, hlower⟩ := ne_of_isNamePoint hp
    have hstep : step (.tag t .name) p = (.tag { t with name := t.name ++ [p] } .name, []) := by
      simp [step, Tag.step, hspace, hslash, hclose, hlower]
    rw [run_of_step hstep (ih _ hrest)]
    simp

/-- The rest of the name of an attribute. -/
theorem run_attribute_name (t : Tag) (name : Text) {rest : Text} (h : ∀ p ∈ rest, isNamePoint p = true) :
    run (.tag t (.attributeName name)) rest = (.tag t (.attributeName (name ++ rest)), []) := by
  induction rest generalizing name with
  | nil => simp [run]
  | cons p rest ih =>
    obtain ⟨hp, hrest⟩ := List.forall_mem_cons.mp h
    obtain ⟨hends, -, -, -, hequals, hlower⟩ := ne_of_isNamePoint hp
    have hstep : step (.tag t (.attributeName name)) p = (.tag t (.attributeName (name ++ [p])), []) := by
      simp [step, Tag.step, hends, hequals, hlower]
    rw [run_of_step hstep (ih _ hrest)]
    simp

/-- A value in double quotes, up to the closing one. -/
theorem run_value (t : Tag) (name value : Text) {rest : Text} (h : .char '"' ∉ rest) :
    run (.tag t (.value (some '"') name value)) rest = (.tag t (.value (some '"') name (value ++ rest)), []) := by
  induction rest generalizing value with
  | nil => simp [run]
  | cons p rest ih =>
    simp only [List.mem_cons, not_or] at h
    have hstep : step (.tag t (.value (some '"') name value)) p =
        (.tag t (.value (some '"') name (value ++ [p])), []) := by
      simp [step, Tag.step, Ne.symm h.1]
    rw [run_of_step hstep (ih _ h.2)]
    simp

/-- Is an attribute read as it is written? -/
def IsReadable (a : Attribute) : Prop := isName a.name = true ∧ ∀ v ∈ a.value, .char '"' ∉ v

/-- An attribute is read. -/
theorem run_attribute {s : State} {t : Tag} (hs : Goes s t) {a : Attribute} (ha : IsReadable a) :
    ∃ s', run s a.render = (s', []) ∧ Goes s' (t.add (attributeRead a).1 (attributeRead a).2) := by
  obtain ⟨hname, hvalue⟩ := ha
  obtain ⟨p, rest, heq, -, hp, hrest⟩ := isName_iff.mp hname
  -- Up to the end of its name an attribute is read alike with a value and without.
  have hread : run s (" " ++ (a.name : Text)) = (.tag t (.attributeName a.name), []) := by
    have happend : (" " ++ (a.name : Text)) = [.char ' ', p] ++ rest := by
      rw [heq]
      rfl
    rw [happend, run_append (hs.more p hp) (run_attribute_name t [p] hrest), heq]
    rfl
  cases hv : a.value with
  | none =>
    refine ⟨.tag t (.attributeName a.name), ?_, ?_⟩
    · simpa [Attribute.render, hv] using hread
    · simpa [attributeRead, hv] using goes_attribute t a.name
  | some v =>
    have hquote : .char '"' ∉ v := hvalue v (by rw [hv]; rfl)
    have hopen : run (.tag t (.attributeName a.name)) "=\"" = (.tag t (.value (some '"') a.name []), []) := rfl
    have hclose : run (.tag t (.value (some '"') a.name v)) "\"" = (.tag (t.add a.name v) .afterValue, []) := rfl
    refine ⟨.tag (t.add a.name v) .afterValue, ?_, ?_⟩
    · have hrun := run_append (run_append (run_append hread hopen) (run_value t a.name [] hquote)) hclose
      simpa [Attribute.render, hv] using hrun
    · simpa [attributeRead, hv] using goes_afterValue (t.add a.name v)

/-- After a list of attributes a tag has them all, in the order they were written. -/
theorem run_attributes {s : State} {t : Tag} (hs : Goes s t) {as : List Attribute} (has : ∀ a ∈ as, IsReadable a) :
    ∃ s', run s (renderAttributes as) = (s', []) ∧
      Goes s' { t with attributes := t.attributes ++ as.map attributeRead } := by
  induction as generalizing s t with
  | nil => exact ⟨s, rfl, by simpa using hs⟩
  | cons a as ih =>
    -- the tag that was read so far carries the attributes in front
    obtain ⟨ha, has⟩ := List.forall_mem_cons.mp has
    obtain ⟨s₁, hfirst, hs₁⟩ := run_attribute hs ha
    obtain ⟨s₂, hrest, hs₂⟩ := ih hs₁ has
    refine ⟨s₂, run_append hfirst hrest, ?_⟩
    simpa [Tag.add] using hs₂

/-- The start of a tag. -/
theorem run_tag_name {name : String} (h : isName name = true) :
    run (.content .data) ("<" ++ (name : Text)) = (.tag ⟨false, name, []⟩ .name, []) ∧
      run (.content .data) ("</" ++ (name : Text)) = (.tag ⟨true, name, []⟩ .name, []) := by
  obtain ⟨p, rest, heq, halpha, hp, hrest⟩ := isName_iff.mp h
  obtain ⟨-, hspace, hslash, hclose, -, hlower⟩ := ne_of_isNamePoint hp
  have hmark : p ≠ '!' := by
    rintro rfl
    exact absurd halpha (by decide)
  have hname : ∀ closing, Tag.step ⟨closing, [], []⟩ .name p = (.tag ⟨closing, [p], []⟩ .name, []) := by
    simp [Tag.step, hspace, hslash, hclose, hlower]
  have hstart : step (.less .data) p = (.tag ⟨false, [p], []⟩ .name, []) := by
    simp [step, stepLess, hmark, hslash, halpha, hname]
  have hstop : step (.endOpen .data) p = (.tag ⟨true, [p], []⟩ .name, []) := by
    simp [step, halpha, hname]
  rw [heq]
  constructor
  · exact run_of_step rfl (run_of_step hstart (run_name _ hrest))
  · exact run_of_step rfl (run_of_step rfl (run_of_step hstop (run_name _ hrest)))

/-- A start tag is read, and the content of its element entered. -/
theorem run_start {name : String} (hname : isName name = true) {as : List Attribute}
    (has : ∀ a ∈ as, IsReadable a) :
    run (.content .data) (Token.render (.start name as)) =
      (.content (.ofElement name), tokenEvents (.start name as)) := by
  obtain ⟨s, hrun, hs⟩ := run_attributes (goes_name ⟨false, name, []⟩) has
  have hclose : run s ">" = (.content (.ofElement name), tokenEvents (.start name as)) := by
    have hstep : step s '>' = (.content (.ofElement name), tokenEvents (.start name as)) := by
      rw [hs.close]
      rfl
    exact run_of_step hstep rfl
  have h := run_append (run_append (run_tag_name hname).1 hrun) hclose
  exact h

/-- So is one that is closed at once. -/
theorem run_empty {name : String} (hname : isName name = true) {as : List Attribute}
    (has : ∀ a ∈ as, IsReadable a) :
    run (.content .data) (Token.render (.empty name as)) =
      (.content (.ofElement name), tokenEvents (.empty name as)) := by
  obtain ⟨s, hrun, hs⟩ := run_attributes (goes_name ⟨false, name, []⟩) has
  have hclose : run (.tag ⟨false, name, as.map attributeRead⟩ .slash) ">" =
      (.content (.ofElement name), tokenEvents (.empty name as)) := rfl
  have h := run_append (run_append (run_tag_name hname).1 hrun) (run_append hs.slash hclose)
  exact h

/-- An end tag is read. -/
theorem run_stop {name : String} (hname : isName name = true) :
    run (.content .data) (Token.render (.stop name)) = (.content .data, tokenEvents (.stop name)) := by
  have hclose : run (.tag ⟨true, name, []⟩ .name) ">" = (.content .data, tokenEvents (.stop name)) := rfl
  exact run_append (run_tag_name hname).2 hclose

/-- A declaration other than a comment is read up to its end. -/
theorem run_declaration {s : String} (hclose : .char '>' ∉ (s : Text))
    (hcomment : (s : Text).head? ≠ some (.char '-')) :
    run (.content .data) (Token.render (.declaration s)) = (.content .data, tokenEvents (.declaration s)) := by
  -- up to its end a declaration is collected
  have hread : ∀ t rest : Text, .char '>' ∉ rest →
      run (.declaration t) rest = (.declaration (t ++ rest), []) := by
    intro t rest hrest
    induction rest generalizing t with
    | nil => simp [run]
    | cons p rest ih =>
      simp only [List.mem_cons, not_or] at hrest
      have hstep : step (.declaration t) p = (.declaration (t ++ [p]), []) := by
        simp [step, Ne.symm hrest.1]
      rw [run_of_step hstep (ih _ hrest.2)]
      simp
  have hends : declarationEnds s = true := by
    unfold declarationEnds
    split
    · next heq => exact absurd (by rw [heq]; rfl) hcomment
    · rfl
  have hlast : run (.declaration s) ">" = (.content .data, [.declaration s]) := by
    have hstep : step (.declaration s) '>' = (.content .data, [.declaration s]) := by simp [step, hends]
    exact run_of_step hstep rfl
  have hopen : run (.content .data) "<!" = (.declaration [], []) := rfl
  exact run_append (run_append hopen (hread [] s hclose)) hlast

/-! ## Plain parts -/

/-- Is a text free of the characters that markup is made of? -/
def NoMarks (t : Text) : Prop := ∀ p ∈ t, p ≠ '<' ∧ p ≠ '>' ∧ p ≠ '"'

instance (t : Text) : Decidable (NoMarks t) := inferInstanceAs (Decidable (∀ p ∈ t, p ≠ '<' ∧ p ≠ '>' ∧ p ≠ '"'))

@[simp] theorem noMarks_append {a b : Text} : NoMarks (a ++ b) ↔ NoMarks a ∧ NoMarks b := List.forall_mem_append

/-- A name is free of marks. -/
theorem noMarks_of_isName {name : String} (h : isName name = true) : NoMarks name := by
  have hpoint : ∀ p, isNamePoint p = true → p ≠ '<' ∧ p ≠ '>' ∧ p ≠ '"' := by
    intro p hp
    have hclose := (ne_of_isNamePoint hp).2.2.2.1
    simp only [isNamePoint, Bool.and_eq_true, decide_eq_true_eq] at hp
    exact ⟨hp.1.1.2, hclose, hp.1.2⟩
  obtain ⟨p, rest, heq, -, hp, hrest⟩ := isName_iff.mp h
  rw [heq]
  exact List.forall_mem_cons.mpr ⟨hpoint p hp, fun q hq => hpoint q (hrest q hq)⟩

/-- Is an attribute a name, with a value without marks if with any? -/
def IsCleanAttribute (a : Attribute) : Prop := isName a.name = true ∧ ∀ v ∈ a.value, NoMarks v

/-- Is a part of a document made of names, and of values and texts without marks? -/
def IsClean : Token → Prop
  | .declaration s => NoMarks s ∧ (s : Text).head? ≠ some (.char '-')
  | .start name attributes | .empty name attributes => isName name = true ∧ ∀ a ∈ attributes, IsCleanAttribute a
  | .stop name => isName name = true
  | .text t => NoMarks t

/-- Is a part of a document no start tag of an element with text alone in it? -/
def KeepsData : Token → Prop
  | .start name _ | .empty name _ => Content.ofElement name = .data
  | _ => True

/-- Is a part of a document read in data, and leaves the reader there? -/
def IsPlain (t : Token) : Prop := IsClean t ∧ KeepsData t

/-- A value without marks does not close its own quotes. -/
theorem IsCleanAttribute.isReadable {a : Attribute} (h : IsCleanAttribute a) : IsReadable a := by
  refine ⟨h.1, fun v hv hquote => ?_⟩
  exact (h.2 v hv _ hquote).2.2 rfl

/-- A plain part of a document is read as what was written. -/
theorem run_token {t : Token} (h : IsPlain t) :
    run (.content .data) t.render = (.content .data, tokenEvents t) := by
  obtain ⟨hclean, hdata⟩ := h
  cases t with
  | declaration s => exact run_declaration (fun hmem => (hclean.1 _ hmem).2.1 rfl) hclean.2
  | start name as =>
    rw [run_start hclean.1 fun a ha => (hclean.2 a ha).isReadable, hdata]
  | empty name as =>
    rw [run_empty hclean.1 fun a ha => (hclean.2 a ha).isReadable, hdata]
  | stop name => exact run_stop hclean
  | text t => exact run_data fun hmem => (hclean _ hmem).1 rfl

/-- A document of plain parts is read as it was put together. -/
theorem run_render {ts : List Token} (h : ∀ t ∈ ts, IsPlain t) :
    run (.content .data) (render ts) = (.content .data, written ts) := by
  induction ts with
  | nil => rfl
  | cons t ts ih =>
    obtain ⟨ht, hts⟩ := List.forall_mem_cons.mp h
    exact run_append (run_token ht) (ih hts)

/-- An element with text alone in it ends at its end tag. -/
theorem run_raw_element {name : String} {t : Text} (hname : isName name = true)
    (helement : Content.ofElement name = .raw name) (ht : .char '<' ∉ t)
    (hend : run (.content (.raw name)) (Token.render (.stop name)) = (.content .data, [.stop name])) :
    run (.content .data) (render (element name [] [.text t])) =
      (.content .data, written (element name [] [.text t])) := by
  have hopen : run (.content .data) (Token.render (.start name [])) =
      (.content (.raw name), tokenEvents (.start name [])) := by
    rw [run_start hname (by simp), helement]
  have h := run_append (run_append hopen (run_raw name ht)) hend
  simpa [render, element, written, tokenEvents, Token.render] using h

end Questionnaire.Markup
