/-!
# The exports of the behavior script

Hands the engine to a host that loads the script as a module.

* `exports`: the lines.
-/

namespace Questionnaire.Artifact.Script

/-- The lines of this part of the behavior script. -/
def exports : List String :=
  [ "",
    "  if (typeof module !== 'undefined' && module.exports) \x7b",
    "    module.exports = \x7b",
    "      config: CONFIG,",
    "      evaluateCondition: evaluateCondition,",
    "      evaluateSuccessCondition: evaluateSuccessCondition,",
    "      isVisible: isVisible,",
    "      successPageMatches: successPageMatches,",
    "      resolveRedirect: resolveRedirect,",
    "      activeQuestionIds: activeQuestionIds,",
    "      isAnswered: isAnswered,",
    "      transformAnswers: transformAnswers,",
    "      lookupUrl: lookupUrl,",
    "      parseCandidates: parseCandidates,",
    "      stringify: stringify,",
    "      createSession: createSession",
    "    \x7d;",
    "  \x7d else if (typeof document !== 'undefined') \x7b",
    "    if (document.readyState === 'loading') \x7b",
    "      document.addEventListener('DOMContentLoaded', function () \x7b mount(CONFIG); \x7d);",
    "    \x7d else \x7b",
    "      mount(CONFIG);",
    "    \x7d",
    "  \x7d"]

end Questionnaire.Artifact.Script
