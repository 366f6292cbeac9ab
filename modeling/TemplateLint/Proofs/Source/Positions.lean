import TemplateLint.Lint
import TemplateLint.Proofs.Analysis.Ordinary
import TemplateLint.Proofs.Text.LineIndex

/-!
# Positions in a template

The index of a text tells a position for every offset, one after another, and each leads back to its
offset.  Its number of lines is the one that is counted wherever the length of a template matters: by the
findings about a document, by the metrics and by the advice on a long template
(`LineIndex.ofText_positions`).
-/
namespace TemplateLint

/-- The findings about a document tell the number of its lines. -/
theorem Linter.linesAnalyzed_of_lint {l : Linter} {text : Text} {dialect : Dialect}
    {fields : Entries Value} {r : LintFindings} (h : l.lint text dialect fields = .ok r) :
    r.linesAnalyzed = text.lineCount := by
  obtain ⟨findings, -, hr⟩ := Answers.bind_eq_ok h
  exact congrArg LintFindings.linesAnalyzed (Except.ok.inj hr).symm

/-- Metrics tell the number of lines. -/
theorem Metrics.lines_of_ofText {dialect : Dialect} {text : Text} {h : Heuristics} {m : Metrics}
    (hm : ofText dialect text h = .ok m) : m.counts.lines = text.lineCount := by
  rw [counts_of_metrics hm, Counts.ofText]
  split <;> rfl

/-- The advice on a long template tells the number of its lines. -/
theorem Optimizations.details_of_longTemplate {ctx : AnalysisContext} {findings : List Finding}
    (h : longTemplate ctx = .ok findings) :
    ∀ f ∈ findings, f.details = ([("line_count", .count ctx.text.lineCount)] : Entries Value) := by
  obtain ⟨long, -, h⟩ := Answers.bind_eq_ok h
  intro f hf
  cases long with
  | true =>
    obtain rfl := Except.ok.inj h
    rw [List.mem_singleton.mp hf]
    rfl
  | false =>
    obtain rfl := Except.ok.inj h
    exact absurd hf List.not_mem_nil

namespace LineIndex

open Text

/-- **Every offset has a position of its own, and all parts count the same lines.**  The line of an offset
is one more than there are line ends in front of it, and its column counts from the one place where that
line starts.  A later offset has a later position, which leads back to it, also behind the end of the text.
There are as many lines as the text is split into, and as many as findings, metrics and advice tell. -/
theorem ofText_positions (text : Text) :
    let index := ofText text
    (∀ offset : Nat,
      index.lineOf offset = (text.take offset).count '\n' + 1 ∧
      1 ≤ index.lineOf offset ∧ index.lineOf offset ≤ index.lineCount ∧
      (∃ start, (∀ place, StartsLineOf text offset place ↔ place = start) ∧
        index.columnOf offset = offset - start + 1) ∧
      offsetOf text (index.lineOf offset) (index.columnOf offset) = offset ∧
      index.lineOf offset = (Position.ofOffset text offset).line ∧
      index.columnOf offset = (Position.ofOffset text offset).column) ∧
    (∀ offset later : Nat, offset < later →
      index.lineOf offset < index.lineOf later ∨
        index.lineOf offset = index.lineOf later ∧ index.columnOf offset < index.columnOf later) ∧
    index.lineCount = text.lines.length ∧ index.lineCount = text.lineCount ∧
    (∀ l dialect fields r, Linter.lint l text dialect fields = .ok r →
      r.linesAnalyzed = index.lineCount) ∧
    (∀ dialect h m, Metrics.ofText dialect text h = .ok m → m.counts.lines = index.lineCount) ∧
    ∀ path dialect h findings,
      Optimizations.longTemplate (AnalysisContext.ofText path text dialect h) = .ok findings →
        ∀ f ∈ findings, f.details = ([("line_count", .count index.lineCount)] : Entries Value) := by
  have hcount := lineCount_ofText text
  intro index
  refine ⟨fun offset => ?_, fun offset later => lineOf_lt_or_columnOf_lt text,
    hcount.trans (length_lines text).symm, hcount, ?_, ?_, ?_⟩
  · obtain ⟨hline, hcolumn⟩ := position_ofText text offset
    obtain ⟨hpos, hle⟩ := Position.line_ofOffset text offset
    rw [← hline] at hpos hle
    rw [← hcount] at hle
    exact ⟨hline.trans (Position.line_eq text offset), hpos, hle, exists_startsLineOf text offset,
      offsetOf_told text offset, hline, hcolumn⟩
  · intro l dialect fields r hr
    exact (Linter.linesAnalyzed_of_lint hr).trans hcount.symm
  · intro dialect h m hm
    exact (Metrics.lines_of_ofText hm).trans hcount.symm
  · intro path dialect h findings hfindings f hf
    rw [hcount]
    exact Optimizations.details_of_longTemplate hfindings f hf

/-- A document of three lines, the last of which is empty, under heuristics that call it long: a line end is
the last column of its line, and behind the end of the text only the column goes on. -/
theorem ofText_positions_threeLines :
    let text : Text := "ab\ncd\n"
    let index := ofText text
    let heuristics := { Heuristics.default with longTemplateLines := 2 }
    [2, 3, 6, 9].map (fun offset => (index.lineOf offset, index.columnOf offset)) =
      [(1, 3), (2, 1), (3, 1), (3, 4)] ∧
    (index.lineOf (2 : Nat) < index.lineOf (3 : Nat) ∨
      index.lineOf (2 : Nat) = index.lineOf (3 : Nat) ∧
        index.columnOf (2 : Nat) < index.columnOf (3 : Nat)) ∧
    ∃ r m findings, Linter.lint ⟨Policy.default, heuristics, false⟩ text .blade [] = .ok r ∧
      Metrics.ofText .blade text heuristics = .ok m ∧
      Optimizations.longTemplate (AnalysisContext.ofText "page.html" text .blade heuristics) =
        .ok findings ∧
      findings.length = 1 ∧ index.lineCount = 3 ∧ r.linesAnalyzed = index.lineCount ∧
      m.counts.lines = index.lineCount ∧
      ∀ f ∈ findings, f.details = ([("line_count", .count index.lineCount)] : Entries Value) := by
  intro text index heuristics
  obtain ⟨-, horder, -, -, hlint, hmetrics, hlong⟩ := ofText_positions text
  have hrun : (do
      let _ ← Linter.lint ⟨Policy.default, heuristics, false⟩ text .blade []
      let _ ← Metrics.ofText .blade text heuristics
      let findings ←
        Optimizations.longTemplate (AnalysisContext.ofText "page.html" text .blade heuristics)
      pure findings.length) = .ok 1 := by
    decide +kernel
  obtain ⟨r, hr, hrun⟩ := Answers.bind_eq_ok hrun
  obtain ⟨m, hm, hrun⟩ := Answers.bind_eq_ok hrun
  obtain ⟨findings, hfindings, hrun⟩ := Answers.bind_eq_ok hrun
  exact ⟨by decide +kernel, horder 2 3 (by decide), r, m, findings, hr, hm, hfindings,
    Except.ok.inj hrun, by decide +kernel, hlint _ _ _ r hr, hmetrics _ _ m hm,
    hlong _ _ _ findings hfindings⟩

end LineIndex
end TemplateLint
