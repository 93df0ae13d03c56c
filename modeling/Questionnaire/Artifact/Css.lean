/-!
# Stylesheets

The few shapes of CSS that an artifact needs: rules, rules under a media condition, and key frames.

* `Css.render`: the text of a stylesheet, with an empty line between blocks.
-/

namespace Questionnaire.Artifact.Css

/-- A selector with declarations, each a property and its value. -/
structure Rule where
  selector : String
  declarations : List (String × String)

/-- A block of a stylesheet. -/
inductive Block where
  | rule (r : Rule)
  | media (condition : String) (rules : List Rule)
  | keyframes (name : String) (frames : List Rule)

/-- A rule as a block of its own. -/
def rule (selector : String) (declarations : List (String × String)) : Block := .rule ⟨selector, declarations⟩

/-- A declaration as it is written. -/
def declarationText (d : String × String) : String := d.1 ++ ": " ++ d.2 ++ ";"

/-- A rule, one declaration to a line, with a margin on the left. -/
def Rule.text (margin : String) (r : Rule) : String :=
  margin ++ r.selector ++ " \x7b\n"
    ++ String.join (r.declarations.map fun d => margin ++ "  " ++ declarationText d ++ "\n")
    ++ margin ++ "\x7d\n"

/-- A key frame, in one line. -/
def Rule.frameText (r : Rule) : String :=
  "  " ++ r.selector ++ " \x7b " ++ " ".intercalate (r.declarations.map declarationText) ++ " \x7d\n"

/-- A block as it is written. -/
def Block.text : Block → String
  | .rule r => r.text ""
  | .media condition rules =>
    "@media " ++ condition ++ " \x7b\n" ++ "\n".intercalate (rules.map (Rule.text "  ")) ++ "\x7d\n"
  | .keyframes name frames =>
    "@keyframes " ++ name ++ " \x7b\n" ++ String.join (frames.map Rule.frameText) ++ "\x7d\n"

/-- The text of a stylesheet under a title. -/
def render (title : String) (blocks : List Block) : String :=
  "/* " ++ title ++ " */\n" ++ "\n".intercalate (blocks.map Block.text)

end Questionnaire.Artifact.Css
