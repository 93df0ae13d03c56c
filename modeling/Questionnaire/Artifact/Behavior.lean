import Questionnaire.Artifact.Basic
import Questionnaire.Artifact.Script.Engine
import Questionnaire.Artifact.Script.Exports
import Questionnaire.Artifact.Script.Page

/-!
# The behavior script

The script starts with the form and the options as a literal and goes on with parts that are the same
for every form. The literal is ASCII alone and never holds `</`, so that no text of the form can end a
script element around it.

* `Artifact.configuration`: the start of the script.
* `Artifact.behavior`: the script.
-/

namespace Questionnaire.Artifact

/-- The text with a backslash between every `<` and a `/` after it. -/
def guardClosings : Text → Text
  | '<' :: '/' :: rest => '<' :: '\\' :: '/' :: guardClosings rest
  | c :: rest => c :: guardClosings rest
  | [] => []

/-- The form and the options, as the script knows them. -/
def config (a : Artifact) : Json :=
  .obj [("prefix", .str a.classPrefix), ("storageKey", a.options.storageKey),
    ("redirectDelayMs", a.options.redirectDelay), ("definition", a.form.toJson)]

/-- The literal of the form and the options. -/
def configLiteral (a : Artifact) : Text := guardClosings a.config.pretty

/-- The script up to and with the literal. -/
def configuration (a : Artifact) : Text :=
  "// Quote Form Script\n(function () \x7b\n  'use strict';\n\n  var CONFIG = " ++ a.configLiteral ++ ";\n"

/-- The parts that are the same for every form, line by line. -/
def runtime : List String := Script.engine ++ Script.page ++ Script.exports

/-- The whole script. -/
def behavior (a : Artifact) : Text :=
  a.configuration ++ String.join (runtime.map fun l => l ++ "\n") ++ "\x7d)();\n"

end Questionnaire.Artifact
