import TemplateLint.Rule.Set

/-!
# Linting

A linter offers every line of a document to every line rule, and then the document to every document
rule.  Errors are violations; everything else is a warning.  What is reported does not depend on
whether a rule can be checked; `fault?` tells if one cannot.
-/
namespace TemplateLint

/-- A choice of rules: a policy, heuristics and whether strict rules run. -/
structure Linter where
  policy : Policy
  heuristics : Heuristics
  strict : Bool

/-- The findings about a document, violations and warnings apart. -/
structure LintFindings where
  dialect : Dialect
  linesAnalyzed : Nat
  violations : List Finding
  warnings : List Finding
deriving DecidableEq

namespace LintFindings

/-- A document without violations passes. -/
def ok (r : LintFindings) : Bool := r.violations.isEmpty

/-- All findings, violations first. -/
def all (r : LintFindings) : List Finding := r.violations ++ r.warnings

end LintFindings

namespace Linter

/-- The rules for a dialect. -/
def rules (l : Linter) (dialect : Dialect) : RuleSet := RuleSet.select l.policy dialect l.strict

/-- What the line rules report about some lines, the first of which has the given number. -/
def lineFindings (rules : List LineRule) : Nat → List Text → List Finding
  | _, [] => []
  | number, line :: lines =>
    rules.flatMap (·.findingsIn number line) ++ lineFindings rules (number + 1) lines

/-- What the document rules may read. -/
def context (l : Linter) (text : Text) (dialect : Dialect) (fields : Entries Value) : RuleContext where
  text := text
  dialect := dialect
  policy := l.policy
  heuristics := l.heuristics
  strict := l.strict
  fields := fields

/-- All findings about a document: line by line, then rule by rule. -/
def check (l : Linter) (text : Text) (dialect : Dialect) (fields : Entries Value) : List Finding :=
  let rules := l.rules dialect
  lineFindings rules.lineRules 1 text.lines ++
    rules.documentRules.flatMap (·.check (l.context text dialect fields))

/-- The fault that keeps the rules from being checked on a document. -/
def fault? (l : Linter) (text : Text) (dialect : Dialect) (fields : Entries Value) :
    Option Fault :=
  (l.rules dialect).documentRules.findSome? (·.fault? (l.context text dialect fields))

/-- All findings about a document, unless a rule cannot be checked. -/
def findings (l : Linter) (text : Text) (dialect : Dialect) (fields : Entries Value) :
    Except Fault (List Finding) :=
  match l.fault? text dialect fields with
  | some fault => .error fault
  | none => .ok (l.check text dialect fields)

/-- The findings about a document, violations and warnings apart. -/
def lint (l : Linter) (text : Text) (dialect : Dialect) (fields : Entries Value) :
    Except Fault LintFindings := do
  let findings ← l.findings text dialect fields
  pure
    { dialect := dialect
      linesAnalyzed := text.lineCount
      violations := findings.filter (·.isError)
      warnings := findings.filter (!·.isError) }

end Linter

end TemplateLint
