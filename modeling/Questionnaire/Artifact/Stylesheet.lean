import Questionnaire.Artifact.Css

/-!
# The stylesheet

The look of an exported form. Class names carry the prefix of the artifact, and the colour of the
buttons, also as its red, green and blue parts, is the only author text that gets in.

* `stylesheet`: the rules.
-/

namespace Questionnaire.Artifact

open Css

/-- The rules for a class prefix, a colour of the buttons and its parts. -/
def stylesheet (p button buttonRgb : String) : List Block :=
  [ rule "*" [("box-sizing", "border-box")],
    rule "body" [("margin", "0")],
    rule s!".{p}container" [("width", "100%"), ("margin", "0 auto"), ("flex", "1"), ("display", "flex"),
      ("flex-direction", "column"),
      ("font-family", "-apple-system, BlinkMacSystemFont, \"Segoe UI\", Roboto, \"Helvetica Neue\", Arial, sans-serif"),
      ("line-height", "1.5"), ("color", "#333"), ("min-height", "100vh")],
    rule s!".{p}card" [("background-color", "#f3f4f6"), ("overflow", "hidden"), ("flex", "1"),
      ("display", "flex"), ("flex-direction", "column")],
    rule s!".{p}progress-bar" [("width", "100%"), ("height", "4px"), ("background-color", "#e9ecef")],
    rule s!".{p}progress-bar-fill" [("height", "100%"), ("background-color", button), ("width", "0"),
      ("transition", "width 0.5s ease-out")],
    rule s!".{p}form-content" [("flex", "1"), ("display", "flex"), ("flex-direction", "column"),
      ("padding", "1.5rem")],
    rule s!"#{p}questions-container" [("flex", "1"), ("display", "flex"), ("flex-direction", "column"),
      ("justify-content", "center"), ("align-items", "center")],
    rule s!".{p}question" [("width", "100%"), ("max-width", "1000px"), ("display", "flex"),
      ("flex-direction", "column"), ("align-items", "center"),
      ("animation", s!"{p}fadeIn 0.3s ease-in-out")],
    .keyframes s!"{p}fadeIn" [⟨"from", [("opacity", "0")]⟩, ⟨"to", [("opacity", "1")]⟩],
    rule s!".{p}question-header" [("margin-bottom", "1rem"), ("text-align", "center")],
    rule s!".{p}question-text" [("font-size", "2rem"), ("font-weight", "500"), ("margin-bottom", "0.5rem")],
    rule s!".{p}question-description" [("color", "#6c757d"), ("margin-top", "0")],
    rule s!".{p}required" [("color", "#e53e3e"), ("margin-left", "3px")],
    rule s!".{p}text-input-container,\n.{p}address-container,\n.{p}contact-container" [("width", "100%"),
      ("max-width", "400px"), ("margin", "0 auto")],
    rule s!".{p}contact-container" [("display", "flex"), ("flex-direction", "column"), ("gap", "0.5rem")],
    rule s!".{p}text-input" [("width", "100%"), ("padding", "0.75rem"), ("border", "1px solid #ced4da"),
      ("border-radius", "0.25rem"), ("font-size", "1rem"),
      ("transition", "border-color 0.15s ease-in-out, box-shadow 0.15s ease-in-out")],
    rule s!".{p}text-input:focus" [("outline", "none"), ("border-color", button),
      ("box-shadow", s!"0 0 0 2px rgba({buttonRgb}, 0.25)")],
    rule s!".{p}postcode-row" [("display", "flex"), ("gap", "0.5rem")],
    rule s!".{p}lookup-button" [("padding", "0.5rem 1rem"), ("border", "none"),
      ("border-radius", "0.375rem"), ("background-color", button), ("color", "white"),
      ("cursor", "pointer"), ("white-space", "nowrap")],
    rule s!".{p}lookup-button:disabled" [("opacity", "0.6"), ("cursor", "progress")],
    rule s!".{p}lookup-error" [("color", "#e53e3e"), ("font-size", "0.875rem"), ("min-height", "1.25rem"),
      ("margin", "0.25rem 0")],
    rule s!".{p}address-select" [("width", "100%"), ("padding", "0.75rem"), ("border", "1px solid #ced4da"),
      ("border-radius", "0.25rem"), ("font-size", "1rem")],
    rule s!".{p}address-selected" [("font-weight", "500")],
    rule s!".{p}contact-label" [("font-size", "0.875rem"), ("color", "#4b5563")],
    rule s!".{p}terms-label" [("display", "flex"), ("align-items", "center"), ("gap", "0.5rem"),
      ("font-size", "0.875rem"), ("margin-top", "0.5rem")],
    rule s!".{p}options-container" [("width", "100%"), ("padding", "0 0.5rem")],
    rule s!".{p}options-grid" [("display", "grid"), ("grid-template-columns", "repeat(1, 1fr)"),
      ("gap", "0.75rem"), ("justify-content", "center")],
    .media "(min-width: 640px)" [
      ⟨s!".{p}options-grid", [("grid-template-columns", "repeat(2, 1fr)")]⟩],
    .media "(min-width: 768px)" [
      ⟨s!".{p}options-grid", [("grid-template-columns", "repeat(3, 1fr)")]⟩],
    .media "(min-width: 1024px)" [
      ⟨s!".{p}options-grid", [("grid-template-columns", "repeat(4, 1fr)")]⟩],
    rule s!".{p}option" [("position", "relative"), ("padding", "1rem"), ("background-color", "white"),
      ("border-radius", "0.375rem"), ("cursor", "pointer"), ("display", "flex"), ("flex-direction", "row"),
      ("align-items", "center"), ("justify-content", "flex-start"), ("transition", "all 0.2s ease"),
      ("height", "100%"), ("text-align", "left"), ("gap", "1rem")],
    rule s!".{p}option:hover" [("transform", "scale(1.05)")],
    rule s!".{p}option.selected" [("border", s!"2px solid {button}")],
    rule s!".{p}option:not(.selected)" [("border", "1px solid transparent")],
    rule s!".{p}option-content" [("display", "flex"), ("flex-direction", "row"), ("align-items", "center"),
      ("justify-content", "flex-start"), ("width", "100%"), ("height", "100%"), ("gap", "1rem")],
    rule s!".{p}option-icon" [("width", "3.5rem"), ("flex-shrink", "0"), ("display", "flex"),
      ("justify-content", "center")],
    rule s!".{p}option-image" [("height", "3.5rem"), ("width", "auto"), ("object-fit", "contain")],
    rule s!".{p}option-emoji" [("font-size", "2rem")],
    rule s!".{p}option-text" [("text-align", "left"), ("font-weight", "500")],
    .media "(min-width: 640px)" [
      ⟨s!".{p}option", [("flex-direction", "column"), ("justify-content", "center"),
        ("text-align", "center"), ("gap", "0")]⟩,
      ⟨s!".{p}option-content", [("flex-direction", "column"), ("justify-content", "center"),
        ("align-items", "center"), ("gap", "0")]⟩,
      ⟨s!".{p}option-icon", [("width", "100%"), ("margin-bottom", "0.75rem")]⟩,
      ⟨s!".{p}option-image", [("height", "7rem")]⟩,
      ⟨s!".{p}option-text", [("text-align", "center"), ("font-size", "1.25rem")]⟩],
    rule s!".{p}info-button" [("position", "absolute"), ("top", "0.5rem"), ("left", "0.5rem"),
      ("z-index", "10")],
    rule s!".{p}info-icon" [("display", "inline-flex"), ("align-items", "center"),
      ("justify-content", "center"), ("width", "1.25rem"), ("height", "1.25rem"), ("border-radius", "50%"),
      ("background-color", "#e2e8f0"), ("color", "#64748b"), ("font-size", "0.75rem"),
      ("font-style", "italic"), ("cursor", "pointer")],
    rule s!".{p}info-tooltip" [("display", "none"), ("position", "absolute"), ("left", "0"),
      ("width", "max-content"), ("top", "100%"), ("margin-top", "0.5rem"), ("padding", "0.5rem"),
      ("max-width", "200px"), ("background-color", "#f2f3f3"), ("border-radius", "0.25rem"),
      ("box-shadow", "0 2px 5px rgba(0, 0, 0, 0.1)"), ("z-index", "20"), ("font-size", "0.75rem"),
      ("color", "#4b5563")],
    rule s!".{p}info-button:hover .{p}info-tooltip" [("display", "block")],
    rule s!".{p}checkbox" [("position", "absolute"), ("top", "0.8rem"), ("right", "0.8rem"),
      ("width", "1.25rem"), ("height", "1.25rem"), ("border", "2px solid #cbd5e0"),
      ("border-radius", "0.25rem"), ("display", "flex"), ("align-items", "center"),
      ("justify-content", "center")],
    rule s!".{p}checkbox-inner" [("display", "none"), ("width", "0.625rem"), ("height", "0.625rem")],
    rule s!".{p}multiple-option.selected .{p}checkbox-inner" [("display", "block")],
    rule s!".{p}multiple-option.selected .{p}checkbox::after" [("content", "\"\\2713\""),
      ("position", "absolute"), ("color", button), ("font-size", "0.75rem")],
    .media "(max-width: 639px)" [
      ⟨s!".{p}option", [("flex-direction", "row"), ("padding", "0.75rem")]⟩,
      ⟨s!".{p}option-icon", [("margin-bottom", "0"), ("width", "4rem")]⟩,
      ⟨s!".{p}question-text", [("font-size", "1.5rem")]⟩,
      ⟨s!".{p}form-content", [("padding", "1rem")]⟩],
    rule s!".{p}next-button-container" [("display", "flex"), ("justify-content", "center"),
      ("margin-top", "2rem"), ("width", "100%")],
    rule s!".{p}form-navigation" [("display", "flex"), ("justify-content", "flex-start"),
      ("padding-top", "1.5rem"), ("border-top", "1px solid #e2e8f0"), ("margin-top", "1.5rem")],
    rule s!".{p}back-button, .{p}next-button" [("padding", "0.5rem 1rem"), ("border-radius", "0.375rem"),
      ("font-size", "0.875rem"), ("cursor", "pointer"), ("display", "flex"), ("align-items", "center"),
      ("gap", "0.25rem")],
    rule s!".{p}back-button" [("background-color", "transparent"), ("color", "#6b7280"), ("border", "none")],
    rule s!".{p}back-button:disabled" [("opacity", "0.5"), ("cursor", "not-allowed"),
      ("background-color", "transparent")],
    rule s!".{p}back-button:not(:disabled):hover" [("background-color", button), ("color", "white")],
    rule s!".{p}next-button" [("background-color", s!"{button} !important"), ("color", "white"),
      ("border", "none")],
    rule s!".{p}next-button:disabled" [("opacity", "0.7"), ("cursor", "not-allowed")],
    rule s!".{p}thank-you-content" [("text-align", "center"), ("padding", "2rem 0")],
    rule s!".{p}thank-you-icon" [("display", "inline-flex"), ("justify-content", "center"),
      ("align-items", "center"), ("width", "4rem"), ("height", "4rem"), ("border-radius", "50%"),
      ("background-color", s!"rgba({buttonRgb}, 0.2)"), ("color", button), ("font-size", "2rem"),
      ("margin-bottom", "1.5rem")],
    rule s!".{p}thank-you-content h2" [("font-size", "1.5rem"), ("font-weight", "600"),
      ("margin-bottom", "0.5rem")],
    rule s!".{p}thank-you-content p" [("color", "#6c757d"), ("max-width", "24rem"),
      ("margin", "0 auto 1.5rem")],
    rule s!".{p}start-over-button" [("display", "inline-flex"), ("align-items", "center"),
      ("gap", "0.25rem"), ("padding", "0.5rem 1rem"), ("background-color", button), ("color", "white"),
      ("border", "none"), ("border-radius", "0.375rem"), ("cursor", "pointer"), ("font-size", "0.875rem")],
    rule s!".{p}refresh-icon" [("font-size", "1rem")]]

end Questionnaire.Artifact
