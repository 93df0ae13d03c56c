/-!
# The page of an exported form

Binds the engine to the elements of the markup: it reads what is entered, shows the current question
and looks up addresses.

* `page`: the lines.
-/

namespace Questionnaire.Artifact.Script

/-- The lines of this part of the behavior script. -/
def page : List String :=
  [ "",
    "  function mount(config) \x7b",
    "    var P = config.prefix;",
    "    var definition = config.definition;",
    "    var questions = definition.questions || [];",
    "    var settings = definition.settings || \x7b\x7d;",
    "    var session = createSession(definition, loadAnswers());",
    "",
    "    var backButton = byId('back-button');",
    "    var progressBar = byId('progress-bar');",
    "    var navigation = byId('form-navigation');",
    "    var thankYouScreen = byId('thank-you-screen');",
    "    var emptyScreen = byId('empty-screen');",
    "",
    "    function byId(suffix) \x7b",
    "      return document.getElementById(P + suffix);",
    "    \x7d",
    "",
    "    function cssString(value) \x7b",
    "      if (window.CSS && CSS.escape) return CSS.escape(String(value));",
    "      return String(value).replace(/[\"\\\\\\n]/g, function (ch) \x7b",
    "        return ch === '\\n' ? '\\\\a ' : '\\\\' + ch;",
    "      \x7d);",
    "    \x7d",
    "",
    "    function optionElements(question) \x7b",
    "      return document.querySelectorAll('.' + P + 'option[data-question-id=\"' + cssString(question.id) + '\"]');",
    "    \x7d",
    "",
    "    function loadAnswers() \x7b",
    "      try \x7b",
    "        var raw = window.sessionStorage.getItem(config.storageKey);",
    "        var parsed = raw ? JSON.parse(raw) : \x7b\x7d;",
    "        return parsed && typeof parsed === 'object' && !Array.isArray(parsed) ? parsed : \x7b\x7d;",
    "      \x7d catch (err) \x7b",
    "        console.warn('Could not restore saved answers:', err);",
    "        return \x7b\x7d;",
    "      \x7d",
    "    \x7d",
    "",
    "    function persist() \x7b",
    "      try \x7b",
    "        window.sessionStorage.setItem(config.storageKey, JSON.stringify(session.answers));",
    "      \x7d catch (err) \x7b",
    "        console.warn('Could not save answers:', err);",
    "      \x7d",
    "    \x7d",
    "",
    "    function clearPersisted() \x7b",
    "      try \x7b",
    "        window.sessionStorage.removeItem(config.storageKey);",
    "      \x7d catch (err) \x7b",
    "        console.warn('Could not clear saved answers:', err);",
    "      \x7d",
    "    \x7d",
    "",
    "    function changed() \x7b",
    "      persist();",
    "      render();",
    "    \x7d",
    "",
    "    function syncOptions(question) \x7b",
    "      var answer = session.answers[question.id];",
    "      var selected = Array.isArray(answer) ? answer : (answer === undefined ? [] : [answer]);",
    "      optionElements(question).forEach(function (el) \x7b",
    "        if (selected.indexOf(el.dataset.optionId) !== -1) \x7b",
    "          el.classList.add('selected');",
    "        \x7d else \x7b",
    "          el.classList.remove('selected');",
    "        \x7d",
    "      \x7d);",
    "    \x7d",
    "",
    "    function syncAddress(question) \x7b",
    "      var answer = session.answers[question.id];",
    "      var chosen = byId('address-selected-' + question.id);",
    "      if (chosen) \x7b",
    "        chosen.textContent = answer && answer.fullAddress ? answer.fullAddress : '';",
    "      \x7d",
    "    \x7d",
    "",
    "    function syncInputs() \x7b",
    "      questions.forEach(function (question) \x7b",
    "        var answer = session.answers[question.id];",
    "        if (question.type === 'single_choice' || question.type === 'multiple_choice') \x7b",
    "          syncOptions(question);",
    "        \x7d else if (question.type === 'text_input') \x7b",
    "          byId('input-' + question.id).value = typeof answer === 'string' ? answer : '';",
    "        \x7d else if (question.type === 'address') \x7b",
    "          byId('postcode-' + question.id).value = answer && answer.postcode ? answer.postcode : '';",
    "          byId('lookup-error-' + question.id).textContent = '';",
    "          var select = byId('address-select-' + question.id);",
    "          select.innerHTML = '';",
    "          select.style.display = 'none';",
    "          syncAddress(question);",
    "        \x7d else if (question.type === 'contact_form') \x7b",
    "          CONTACT_FIELDS.forEach(function (field) \x7b",
    "            byId('contact-' + field + '-' + question.id).value = answer && typeof answer[field] === 'string' ? answer[field] : '';",
    "          \x7d);",
    "          byId('contact-terms-' + question.id).checked = !!(answer && answer.termsAccepted === true);",
    "        \x7d",
    "      \x7d);",
    "    \x7d",
    "",
    "    function render() \x7b",
    "      var current = session.currentQuestion();",
    "",
    "      questions.forEach(function (question) \x7b",
    "        var block = byId('question-' + question.id);",
    "        if (block) \x7b",
    "          block.style.display = current && current.id === question.id ? 'flex' : 'none';",
    "        \x7d",
    "        var nextButton = byId('next-button-' + question.id);",
    "        if (nextButton) \x7b",
    "          var last = session.activeIds.indexOf(question.id) === session.activeIds.length - 1;",
    "          nextButton.innerHTML = (last ? 'Submit' : 'Next') + ' <span class=\"' + P + 'next-icon\">&rarr;</span>';",
    "        \x7d",
    "      \x7d);",
    "",
    "      thankYouScreen.style.display = session.submitted ? 'block' : 'none';",
    "      emptyScreen.style.display = !session.submitted && !current ? 'block' : 'none';",
    "      navigation.style.display = session.submitted ? 'none' : 'flex';",
    "      backButton.disabled = !session.canGoBack();",
    "      progressBar.style.width = (session.progress() * 100) + '%';",
    "",
    "      if (current) \x7b",
    "        var currentNext = byId('next-button-' + current.id);",
    "        if (currentNext) \x7b",
    "          currentNext.disabled = !session.canAdvance();",
    "          // Single choice auto-advances; keep the button for the final step",
    "          if (current.type === 'single_choice') \x7b",
    "            currentNext.style.display = session.isLast() ? 'flex' : 'none';",
    "          \x7d else \x7b",
    "            currentNext.style.display = 'flex';",
    "          \x7d",
    "        \x7d",
    "      \x7d",
    "    \x7d",
    "",
    "    function submitted() \x7b",
    "      if (settings.zapierWebhookUrl) \x7b",
    "        try \x7b",
    "          fetch(settings.zapierWebhookUrl, \x7b",
    "            method: 'POST',",
    "            headers: \x7b 'Content-Type': 'application/json' \x7d,",
    "            body: JSON.stringify(transformAnswers(questions, session.answers)),",
    "            mode: 'no-cors'",
    "          \x7d).catch(function (err) \x7b",
    "            console.error('Error submitting form:', err);",
    "          \x7d);",
    "        \x7d catch (err) \x7b",
    "          console.error('Error submitting form:', err);",
    "        \x7d",
    "      \x7d",
    "",
    "      var url = session.redirectUrl();",
    "      if (url) \x7b",
    "        setTimeout(function () \x7b",
    "          window.location.href = url;",
    "        \x7d, config.redirectDelayMs);",
    "      \x7d",
    "    \x7d",
    "",
    "    function goNext() \x7b",
    "      var wasSubmitted = session.submitted;",
    "      if (session.next()) \x7b",
    "        render();",
    "        if (!wasSubmitted && session.submitted) submitted();",
    "      \x7d",
    "    \x7d",
    "",
    "    function goBack() \x7b",
    "      if (session.back()) render();",
    "    \x7d",
    "",
    "    function resetForm() \x7b",
    "      session.reset();",
    "      clearPersisted();",
    "      syncInputs();",
    "      render();",
    "    \x7d",
    "",
    "    function bindChoice(question) \x7b",
    "      optionElements(question).forEach(function (el) \x7b",
    "        el.addEventListener('click', function () \x7b",
    "          var optionId = el.dataset.optionId;",
    "          if (question.type === 'multiple_choice') \x7b",
    "            session.toggleOption(question.id, optionId);",
    "            syncOptions(question);",
    "            changed();",
    "            return;",
    "          \x7d",
    "          session.setAnswer(question.id, optionId);",
    "          syncOptions(question);",
    "          changed();",
    "          if (!session.isLast()) \x7b",
    "            setTimeout(function () \x7b",
    "              var current = session.currentQuestion();",
    "              if (current && current.id === question.id) goNext();",
    "            \x7d, 300);",
    "          \x7d",
    "        \x7d);",
    "      \x7d);",
    "    \x7d",
    "",
    "    function bindText(question) \x7b",
    "      byId('input-' + question.id).addEventListener('input', function (e) \x7b",
    "        session.setAnswer(question.id, e.target.value);",
    "        changed();",
    "      \x7d);",
    "    \x7d",
    "",
    "    function bindAddress(question) \x7b",
    "      var button = byId('lookup-button-' + question.id);",
    "      var input = byId('postcode-' + question.id);",
    "      var select = byId('address-select-' + question.id);",
    "      var error = byId('lookup-error-' + question.id);",
    "      var candidates = [];",
    "",
    "      button.addEventListener('click', function () \x7b",
    "        if (button.disabled) return;",
    "        var postcode = input.value.trim();",
    "        error.textContent = '';",
    "        if (!postcode) \x7b",
    "          error.textContent = 'Please enter a postcode.';",
    "          return;",
    "        \x7d",
    "        var url = lookupUrl(question, settings, postcode);",
    "        if (!url) \x7b",
    "          error.textContent = 'Address lookup is not available.';",
    "          return;",
    "        \x7d",
    "",
    "        button.disabled = true;",
    "        fetch(url)",
    "          .then(function (response) \x7b",
    "            if (!response.ok) throw new Error('Lookup failed with status ' + response.status);",
    "            return response.json();",
    "          \x7d)",
    "          .then(function (body) \x7b",
    "            candidates = parseCandidates(body);",
    "            select.innerHTML = '';",
    "            if (!candidates.length) \x7b",
    "              select.style.display = 'none';",
    "              error.textContent = 'No addresses found for that postcode.';",
    "              return;",
    "            \x7d",
    "            var placeholder = document.createElement('option');",
    "            placeholder.value = '';",
    "            placeholder.textContent = 'Select your address';",
    "            select.appendChild(placeholder);",
    "            candidates.forEach(function (candidate, index) \x7b",
    "              var option = document.createElement('option');",
    "              option.value = String(index);",
    "              option.textContent = candidate.fullAddress;",
    "              select.appendChild(option);",
    "            \x7d);",
    "            select.style.display = 'block';",
    "          \x7d)",
    "          .catch(function (err) \x7b",
    "            console.error('Address lookup error:', err);",
    "            error.textContent = 'We could not look up that postcode. Please try again.';",
    "          \x7d)",
    "          .then(function () \x7b",
    "            button.disabled = false;",
    "          \x7d);",
    "      \x7d);",
    "",
    "      select.addEventListener('change', function () \x7b",
    "        var chosen = select.value === '' ? null : candidates[parseInt(select.value, 10)];",
    "        session.setAnswer(question.id, chosen || null);",
    "        syncAddress(question);",
    "        changed();",
    "      \x7d);",
    "    \x7d",
    "",
    "    function bindContact(question) \x7b",
    "      var terms = byId('contact-terms-' + question.id);",
    "",
    "      function update() \x7b",
    "        var value = \x7b\x7d;",
    "        CONTACT_FIELDS.forEach(function (field) \x7b",
    "          value[field] = byId('contact-' + field + '-' + question.id).value;",
    "        \x7d);",
    "        value.termsAccepted = terms.checked;",
    "        session.setAnswer(question.id, value);",
    "        changed();",
    "      \x7d",
    "",
    "      CONTACT_FIELDS.forEach(function (field) \x7b",
    "        byId('contact-' + field + '-' + question.id).addEventListener('input', update);",
    "      \x7d);",
    "      terms.addEventListener('change', update);",
    "    \x7d",
    "",
    "    function bindTooltips() \x7b",
    "      document.querySelectorAll('.' + P + 'info-icon').forEach(function (icon) \x7b",
    "        icon.addEventListener('click', function (e) \x7b",
    "          e.stopPropagation();",
    "          var tooltip = byId('tooltip-' + icon.parentElement.dataset.optionId);",
    "          if (!tooltip) return;",
    "          var open = tooltip.style.display === 'block';",
    "          document.querySelectorAll('.' + P + 'info-tooltip').forEach(function (t) \x7b",
    "            t.style.display = 'none';",
    "          \x7d);",
    "          tooltip.style.display = open ? 'none' : 'block';",
    "        \x7d);",
    "      \x7d);",
    "      document.addEventListener('click', function (e) \x7b",
    "        if (!e.target.closest('.' + P + 'info-button')) \x7b",
    "          document.querySelectorAll('.' + P + 'info-tooltip').forEach(function (t) \x7b",
    "            t.style.display = 'none';",
    "          \x7d);",
    "        \x7d",
    "      \x7d);",
    "    \x7d",
    "",
    "    questions.forEach(function (question) \x7b",
    "      if (question.type === 'single_choice' || question.type === 'multiple_choice') \x7b",
    "        bindChoice(question);",
    "      \x7d else if (question.type === 'text_input') \x7b",
    "        bindText(question);",
    "      \x7d else if (question.type === 'address') \x7b",
    "        bindAddress(question);",
    "      \x7d else if (question.type === 'contact_form') \x7b",
    "        bindContact(question);",
    "      \x7d",
    "      var nextButton = byId('next-button-' + question.id);",
    "      if (nextButton) nextButton.addEventListener('click', goNext);",
    "    \x7d);",
    "",
    "    byId('empty-submit-button').addEventListener('click', goNext);",
    "    backButton.addEventListener('click', goBack);",
    "    byId('start-over-button').addEventListener('click', resetForm);",
    "    bindTooltips();",
    "",
    "    syncInputs();",
    "    render();",
    "  \x7d"]

end Questionnaire.Artifact.Script
