/-!
# The engine of an exported form

The rules by which an exported form shows questions, moves between them and finds where a submission
leads, as the browser runs them. It needs no page.

* `engine`: the lines.
-/

namespace Questionnaire.Artifact.Script

/-- The lines of this part of the behavior script. -/
def engine : List String :=
  [ "",
    "  var CHOICE_TYPES = ['single_choice', 'multiple_choice'];",
    "  var CONTACT_FIELDS = ['firstName', 'lastName', 'phone', 'email'];",
    "  var ADDRESS_LABELS = [",
    "    ['fullAddress', 'Full Address'],",
    "    ['buildingNumber', 'Building Number'],",
    "    ['street', 'Street'],",
    "    ['town', 'Town'],",
    "    ['postcode', 'Postcode']",
    "  ];",
    "  var CONTACT_LABELS = [",
    "    ['firstName', 'First Name'],",
    "    ['lastName', 'Last Name'],",
    "    ['phone', 'Phone'],",
    "    ['email', 'Email'],",
    "    ['termsAccepted', 'Terms Accepted']",
    "  ];",
    "",
    "  function findQuestion(questions, id) \x7b",
    "    for (var i = 0; i < questions.length; i++) \x7b",
    "      if (questions[i].id === id) return questions[i];",
    "    \x7d",
    "    return null;",
    "  \x7d",
    "",
    "  function questionIndex(questions, id) \x7b",
    "    for (var i = 0; i < questions.length; i++) \x7b",
    "      if (questions[i].id === id) return i;",
    "    \x7d",
    "    return -1;",
    "  \x7d",
    "",
    "  function hasAnswer(answers, id) \x7b",
    "    return Object.prototype.hasOwnProperty.call(answers, id) &&",
    "      answers[id] !== undefined && answers[id] !== null;",
    "  \x7d",
    "",
    "  function combineResults(results, logic) \x7b",
    "    if (logic === 'OR') \x7b",
    "      return results.some(function (result) \x7b return result; \x7d);",
    "    \x7d",
    "    return results.every(function (result) \x7b return result; \x7d);",
    "  \x7d",
    "",
    "  // Strict rule used for question visibility",
    "  function evaluateCondition(condition, answers, questions) \x7b",
    "    var source = findQuestion(questions, condition.questionId);",
    "    if (!source || !hasAnswer(answers, condition.questionId)) return false;",
    "",
    "    var answer = answers[condition.questionId];",
    "    var values = condition.values || [];",
    "",
    "    if (CHOICE_TYPES.indexOf(source.type) !== -1) \x7b",
    "      var selected = Array.isArray(answer) ? answer : [answer];",
    "      return values.some(function (value) \x7b return selected.indexOf(value) !== -1; \x7d);",
    "    \x7d",
    "    if (source.type === 'text_input') \x7b",
    "      return values.length > 0 && values[0] === answer;",
    "    \x7d",
    "    return false;",
    "  \x7d",
    "",
    "  function isVisible(entity, answers, questions) \x7b",
    "    var conditions = entity.conditions || [];",
    "    if (conditions.length === 0) return true;",
    "",
    "    // Questions only depend on earlier questions",
    "    var ownIndex = -1;",
    "    if (entity.type !== undefined) \x7b",
    "      ownIndex = questions.indexOf(entity);",
    "      if (ownIndex === -1) ownIndex = questionIndex(questions, entity.id);",
    "    \x7d",
    "    var results = conditions.map(function (condition) \x7b",
    "      if (ownIndex !== -1 && questionIndex(questions, condition.questionId) >= ownIndex) \x7b",
    "        return false;",
    "      \x7d",
    "      return evaluateCondition(condition, answers, questions);",
    "    \x7d);",
    "    return combineResults(results, entity.conditionLogic);",
    "  \x7d",
    "",
    "  function stringify(value) \x7b",
    "    if (value === null || value === undefined) return '';",
    "    if (typeof value === 'boolean') return value ? 'true' : 'false';",
    "    if (typeof value === 'number') return String(value);",
    "    if (typeof value === 'string') return value;",
    "    return JSON.stringify(value);",
    "  \x7d",
    "",
    "  // Relaxed rule used for success pages only: ignores the source type",
    "  function evaluateSuccessCondition(condition, answers, questions) \x7b",
    "    var source = findQuestion(questions, condition.questionId);",
    "    if (!source || !hasAnswer(answers, condition.questionId)) return false;",
    "",
    "    var answer = answers[condition.questionId];",
    "    var values = condition.values || [];",
    "    var candidates;",
    "",
    "    if (Array.isArray(answer)) \x7b",
    "      candidates = answer.map(function (item) \x7b return stringify(item); \x7d);",
    "    \x7d else if (typeof answer === 'object') \x7b",
    "      candidates = Object.keys(answer).map(function (key) \x7b return stringify(answer[key]); \x7d);",
    "    \x7d else \x7b",
    "      return values.indexOf(answer) !== -1;",
    "    \x7d",
    "    return candidates.some(function (candidate) \x7b return values.indexOf(candidate) !== -1; \x7d);",
    "  \x7d",
    "",
    "  function successPageMatches(page, answers, questions) \x7b",
    "    var conditions = page.conditions || [];",
    "    if (conditions.length === 0) return true;",
    "    var results = conditions.map(function (condition) \x7b",
    "      return evaluateSuccessCondition(condition, answers, questions);",
    "    \x7d);",
    "    return combineResults(results, page.conditionLogic);",
    "  \x7d",
    "",
    "  function resolveRedirect(successPages, answers, questions, defaultUrl) \x7b",
    "    for (var i = 0; i < successPages.length; i++) \x7b",
    "      if (successPageMatches(successPages[i], answers, questions)) \x7b",
    "        return successPages[i].url;",
    "      \x7d",
    "    \x7d",
    "    return defaultUrl;",
    "  \x7d",
    "",
    "  function activeQuestionIds(questions, answers) \x7b",
    "    return questions",
    "      .filter(function (question) \x7b return isVisible(question, answers, questions); \x7d)",
    "      .map(function (question) \x7b return question.id; \x7d);",
    "  \x7d",
    "",
    "  function isFilled(value) \x7b",
    "    return typeof value === 'string' && value.trim() !== '';",
    "  \x7d",
    "",
    "  function isAnswered(question, answer) \x7b",
    "    if (question.type === 'multiple_choice') \x7b",
    "      return Array.isArray(answer) && answer.length > 0;",
    "    \x7d",
    "    if (question.type === 'text_input') \x7b",
    "      return isFilled(answer);",
    "    \x7d",
    "    if (question.type === 'contact_form') \x7b",
    "      if (!answer || typeof answer !== 'object' || Array.isArray(answer)) return false;",
    "      return CONTACT_FIELDS.every(function (field) \x7b return isFilled(answer[field]); \x7d) &&",
    "        answer.termsAccepted === true;",
    "    \x7d",
    "    return !!answer;",
    "  \x7d",
    "",
    "  function optionText(question, optionId) \x7b",
    "    var options = question.options || [];",
    "    for (var i = 0; i < options.length; i++) \x7b",
    "      if (options[i].id === optionId) return options[i].text;",
    "    \x7d",
    "    return optionId;",
    "  \x7d",
    "",
    "  function labelled(answer, labels) \x7b",
    "    var result = \x7b\x7d;",
    "    if (!answer || typeof answer !== 'object' || Array.isArray(answer)) return result;",
    "    labels.forEach(function (pair) \x7b",
    "      var value = answer[pair[0]];",
    "      if (value !== undefined && value !== null) result[pair[1]] = value;",
    "    \x7d);",
    "    return result;",
    "  \x7d",
    "",
    "  // Question text -> human readable answer, as posted to the webhook",
    "  function transformAnswers(questions, answers) \x7b",
    "    var transformed = \x7b\x7d;",
    "    Object.keys(answers).forEach(function (questionId) \x7b",
    "      var question = findQuestion(questions, questionId);",
    "      var answer = answers[questionId];",
    "      if (!question || answer === undefined || answer === null) return;",
    "",
    "      var key = question.text;",
    "      if (question.type === 'single_choice') \x7b",
    "        transformed[key] = optionText(question, answer);",
    "      \x7d else if (question.type === 'multiple_choice') \x7b",
    "        var ids = Array.isArray(answer) ? answer : [answer];",
    "        transformed[key] = ids.map(function (id) \x7b return stringify(optionText(question, id)); \x7d).join(', ');",
    "      \x7d else if (question.type === 'address') \x7b",
    "        transformed[key] = labelled(answer, ADDRESS_LABELS);",
    "      \x7d else if (question.type === 'contact_form') \x7b",
    "        transformed[key] = labelled(answer, CONTACT_LABELS);",
    "      \x7d else \x7b",
    "        transformed[key] = answer;",
    "      \x7d",
    "    \x7d);",
    "    return transformed;",
    "  \x7d",
    "",
    "  function lookupUrl(question, settings, postcode) \x7b",
    "    var base = question.postcodeApi || settings.postcodeApiUrl;",
    "    if (!base) return null;",
    "    var url = base + (base.indexOf('?') === -1 ? '?' : '&') +",
    "      'postcode=' + encodeURIComponent(postcode);",
    "    if (settings.postcodeApiKey) \x7b",
    "      url += '&key=' + encodeURIComponent(settings.postcodeApiKey);",
    "    \x7d",
    "    return url;",
    "  \x7d",
    "",
    "  function parseCandidates(body) \x7b",
    "    var list = [];",
    "    if (Array.isArray(body)) \x7b",
    "      list = body;",
    "    \x7d else if (body && typeof body === 'object') \x7b",
    "      list = body.addresses;",
    "      if (list === undefined || list === null) list = body.Addresses;",
    "    \x7d",
    "    if (!Array.isArray(list)) return [];",
    "    return list",
    "      .filter(function (item) \x7b return item && typeof item === 'object' && !Array.isArray(item); \x7d)",
    "      .map(function (item) \x7b",
    "        return \x7b",
    "          fullAddress: stringify(item.Address),",
    "          buildingNumber: stringify(item.BuildingNumber),",
    "          street: stringify(item.StreetAddress),",
    "          town: stringify(item.Town),",
    "          postcode: stringify(item.Postcode)",
    "        \x7d;",
    "      \x7d);",
    "  \x7d",
    "",
    "  function createSession(definition, initialAnswers) \x7b",
    "    var questions = definition.questions || [];",
    "    var settings = definition.settings || \x7b\x7d;",
    "    var session = \x7b",
    "      answers: initialAnswers || \x7b\x7d,",
    "      activeIds: [],",
    "      currentIndex: null,",
    "      submitted: false",
    "    \x7d;",
    "",
    "    function indexOf(id) \x7b",
    "      var index = questionIndex(questions, id);",
    "      return index === -1 ? null : index;",
    "    \x7d",
    "",
    "    function recompute() \x7b",
    "      session.activeIds = activeQuestionIds(questions, session.answers);",
    "    \x7d",
    "",
    "    function firstActiveIndex() \x7b",
    "      return session.activeIds.length ? indexOf(session.activeIds[0]) : null;",
    "    \x7d",
    "",
    "    function onAnswersChanged() \x7b",
    "      recompute();",
    "      var currentId = session.currentIndex === null ? null : questions[session.currentIndex].id;",
    "      if (session.activeIds.indexOf(currentId) === -1) \x7b",
    "        session.currentIndex = firstActiveIndex();",
    "      \x7d",
    "    \x7d",
    "",
    "    session.currentQuestion = function () \x7b",
    "      if (session.submitted || session.currentIndex === null) return null;",
    "      return questions[session.currentIndex];",
    "    \x7d;",
    "",
    "    session.position = function () \x7b",
    "      var question = session.currentQuestion();",
    "      return question ? session.activeIds.indexOf(question.id) : -1;",
    "    \x7d;",
    "",
    "    session.progress = function () \x7b",
    "      if (session.submitted) return 1;",
    "      var position = session.position();",
    "      if (!session.activeIds.length || position === -1) return 0;",
    "      return (position + 1) / session.activeIds.length;",
    "    \x7d;",
    "",
    "    session.isLast = function () \x7b",
    "      var position = session.position();",
    "      return position !== -1 && position === session.activeIds.length - 1;",
    "    \x7d;",
    "",
    "    session.canGoBack = function () \x7b",
    "      return session.position() > 0;",
    "    \x7d;",
    "",
    "    session.canAdvance = function () \x7b",
    "      if (session.submitted) return false;",
    "      var question = session.currentQuestion();",
    "      if (!question || !question.required) return true;",
    "      return isAnswered(question, session.answers[question.id]);",
    "    \x7d;",
    "",
    "    session.setAnswer = function (questionId, value) \x7b",
    "      if (value === undefined || value === null) \x7b",
    "        delete session.answers[questionId];",
    "      \x7d else \x7b",
    "        session.answers[questionId] = value;",
    "      \x7d",
    "      onAnswersChanged();",
    "    \x7d;",
    "",
    "    session.toggleOption = function (questionId, optionId) \x7b",
    "      var current = session.answers[questionId];",
    "      var selected = Array.isArray(current) ? current.slice() : [];",
    "      var at = selected.indexOf(optionId);",
    "      if (at === -1) \x7b",
    "        selected.push(optionId);",
    "      \x7d else \x7b",
    "        selected.splice(at, 1);",
    "      \x7d",
    "      session.answers[questionId] = selected;",
    "      onAnswersChanged();",
    "      return selected;",
    "    \x7d;",
    "",
    "    session.next = function () \x7b",
    "      if (session.submitted) return false;",
    "      var question = session.currentQuestion();",
    "      if (!question) \x7b",
    "        session.submitted = true;",
    "        return true;",
    "      \x7d",
    "      if (!session.canAdvance()) return false;",
    "",
    "      var position = session.position();",
    "      if (position < session.activeIds.length - 1) \x7b",
    "        session.currentIndex = indexOf(session.activeIds[position + 1]);",
    "      \x7d else \x7b",
    "        session.submitted = true;",
    "      \x7d",
    "      return true;",
    "    \x7d;",
    "",
    "    session.back = function () \x7b",
    "      var position = session.position();",
    "      if (session.submitted || position <= 0) return false;",
    "      session.currentIndex = indexOf(session.activeIds[position - 1]);",
    "      return true;",
    "    \x7d;",
    "",
    "    session.reset = function () \x7b",
    "      Object.keys(session.answers).forEach(function (key) \x7b delete session.answers[key]; \x7d);",
    "      session.submitted = false;",
    "      recompute();",
    "      session.currentIndex = firstActiveIndex();",
    "    \x7d;",
    "",
    "    session.redirectUrl = function () \x7b",
    "      if (!session.submitted) return null;",
    "      return resolveRedirect(settings.successPages || [], session.answers, questions, settings.submitUrl || '');",
    "    \x7d;",
    "",
    "    recompute();",
    "    session.currentIndex = firstActiveIndex();",
    "    return session;",
    "  \x7d"]

end Questionnaire.Artifact.Script
