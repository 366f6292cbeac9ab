import TemplateLint.Rule.Line

/-!
# Markup rules

Line rules about output and markup: output that is not escaped, scripts that write markup, images,
links and inputs that some readers cannot use, and, in strict mode, fixed addresses, long copy and
long expressions.
-/
namespace TemplateLint
namespace MarkupRules

open Pattern LineRule

/-- Output of a directive template that is not escaped. -/
def unescapedBlade : LineRule where
  code := "unescaped_output"
  category := .security
  severity := .error
  dialects := [.blade]
  groups := alone
    [(chain [lit "\x7b!!", blanks, lit "$"],
        "Unescaped output detected. Ensure content is safe or use \x7b\x7b \x7d\x7d for " ++
          "auto-escaping.")]

/-- Output of a tag template that is not escaped. -/
def unescapedAntlers : LineRule where
  code := "unescaped_output"
  category := .security
  severity := .error
  dialects := [.antlers]
  groups := alone
    [(lit "\x7b\x7b\x7b",
        "Triple-brace output is not escaped. Ensure content is safe or use \x7b\x7b \x7d\x7d."),
      (chain [lit openBraces, many 0 (· != '\x7d'), lit "|", blanks, lit "raw", edge],
        "The raw modifier disables escaping. Ensure content is safe or sanitize it first.")]

/-- A script that writes markup. -/
def xssRisk : LineRule where
  code := "xss_risk"
  category := .security
  severity := .error
  dialects := markup
  groups := alone
    [(oneOf [chain [lit "innerHTML", blanks, lit "="], chain [lit "outerHTML", blanks, lit "="]],
        "Direct HTML injection detected. Validate and sanitize content.")]

/-- The rules about security. -/
def security : List LineRule := [unescapedBlade, unescapedAntlers, xssRisk]

/-- An image without a text for readers who cannot see it. -/
def missingAltText : LineRule where
  code := "missing_alt_text"
  category := .accessibility
  severity := .warning
  dialects := Dialect.all
  groups := alone
    [(chain
        [lit "<img", notAhead (chain [many 0 (· != '>'), edge, lit "alt="]), many 0 (· != '>'),
          lit ">"],
        "Image missing alt attribute. Add alt text for accessibility.")]

/-- A link whose text does not say where it leads. -/
def nonDescriptiveLink : LineRule where
  code := "non_descriptive_link"
  category := .accessibility
  severity := .warning
  dialects := Dialect.all
  groups := alone
    [(chain
        [caselessLit "<a", many 0 (· != '>'), lit ">", blanks,
          oneOf
            [caselessLit "click here", caselessLit "read more", caselessLit "more",
              caselessLit "here"],
          blanks, caselessLit "</a>"],
        "Link text should be descriptive. Avoid generic phrases like \"click here\".")]

/-- The attributes with which an input needs no label. -/
def labelled : Pattern :=
  oneOf
    [lit "id=",
      chain
        [lit "type=", one (among "\"'"), oneOf [lit "hidden", lit "submit", lit "button"],
          one (among "\"'")],
      lit "aria-label="]

/-- An input that has no label. -/
def missingFormLabel : LineRule where
  code := "missing_form_label"
  category := .accessibility
  severity := .warning
  dialects := Dialect.all
  exempt := some (caselessLit "<label")
  groups := alone
    [(seq (lit "<input") (notAhead (chain [many 0 (· != '>'), edge, labelled])),
        "Form input should have an associated label for accessibility.")]

/-- The rules about accessibility. -/
def accessibility : List LineRule := [missingAltText, nonDescriptiveLink, missingFormLabel]

/-- A fixed address. -/
def hardcodedUrl : LineRule where
  code := "hardcoded_url"
  category := .maintainability
  severity := .warning
  dialects := Dialect.all
  groups := alone
    [(chain
        [lit "http", maybe (lit "s"), lit "://", many 1 fun c => !isBlank c && except "\"'" c],
        "Hardcoded URL found. Consider using config values or relative URLs.")]

/-- Longer copy written into the template. -/
def hardcodedText : LineRule where
  code := "hardcoded_text"
  category := .maintainability
  severity := .warning
  dialects := Dialect.all
  groups := alone
    [(chain
        [lit ">", one Char.isUpper, many 10 fun c => c.isLower || isBlank c, lit "<"],
        "Consider moving longer text to language files for localization.")]

/-- A long expression. -/
def complexExpression : LineRule where
  code := "complex_expression"
  category := .maintainability
  severity := .warning
  dialects := markup
  groups := alone
    [(chain [lit openBraces, many 50 (· != '\x7d'), lit closeBraces],
        "Complex expression in template. Consider moving logic to a controller or computed value.")]

/-- The rules of strict mode. -/
def strict : List LineRule := [hardcodedUrl, hardcodedText, complexExpression]

end MarkupRules

end TemplateLint
