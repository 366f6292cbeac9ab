import Mathlib.Data.Nat.Digits.Defs
import Mathlib.Logic.Function.Basic
import TemplateLint.Format.Output
import TemplateLint.Proofs.Source.Path

/-!
# Notices are read back

A build server reads a notice from each line and decodes its message from left to right.  The percent
sign is escaped first, so the three replacements come down to one that goes character by character
(`Notice.escape_eq_flatMap`), and decoding gives the message back (`Notice.unescape_escape`).  An escaped
message stays on its line, so the lines of the output are the notices of the findings, unless there is
none or a path breaks its line (`Notice.present_readBack`).
-/
namespace TemplateLint

namespace Text

/-- Pieces are found again exactly if there are some and none has the separator in it. -/
theorem splitOn_intercalate_iff {separator : Char} {pieces : List Text} :
    ([separator].intercalate pieces).splitOn separator = pieces ↔
      pieces ≠ [] ∧ ∀ piece ∈ pieces, separator ∉ piece := by
  constructor
  · intro h
    refine ⟨fun hnil => List.splitOn_ne_nil separator _ (h.trans hnil), fun piece hpiece => ?_⟩
    rw [← h] at hpiece
    exact not_mem_of_mem_splitOn hpiece
  · rintro ⟨hne, hpieces⟩
    exact List.splitOn_intercalate separator hpieces hne

/-- A number is written on one line. -/
theorem newline_not_mem_ofInt (n : Int) : '\n' ∉ ofInt n := by
  have hnat : ∀ n : Nat, '\n' ∉ ofNat n := by
    intro n h
    have hdigit := Nat.isDigit_of_mem_toDigits (by decide) (by decide) h
    exact absurd hdigit (by decide)
  cases n with
  | ofNat n => exact hnat n
  | negSucc n =>
    rw [ofInt, List.mem_cons, not_or]
    exact ⟨by decide, hnat (n + 1)⟩

end Text

namespace Notice

/-! ## Messages -/

/-- What is written for a character of a message. -/
def written (c : Char) : Text :=
  if c = '%' then "%25" else if c = '\r' then "%0D" else if c = '\n' then "%0A" else [c]

/-- The message that is decoded from an escaped one, from left to right. -/
def unescape : Text → Text
  | '%' :: '2' :: '5' :: rest => '%' :: unescape rest
  | '%' :: '0' :: 'D' :: rest => '\r' :: unescape rest
  | '%' :: '0' :: 'A' :: rest => '\n' :: unescape rest
  | c :: rest => c :: unescape rest
  | [] => []

/-- A character is one of the three that are escaped, or stands for itself. -/
theorem written_cases (c : Char) :
    c = '%' ∨ c = '\r' ∨ c = '\n' ∨ c ≠ '%' ∧ c ≠ '\r' ∧ c ≠ '\n' ∧ written c = [c] := by
  by_cases hpercent : c = '%'
  · exact Or.inl hpercent
  by_cases hreturn : c = '\r'
  · exact Or.inr (Or.inl hreturn)
  by_cases hnewline : c = '\n'
  · exact Or.inr (Or.inr (Or.inl hnewline))
  have hself : written c = [c] := by rw [written, if_neg hpercent, if_neg hreturn, if_neg hnewline]
  exact Or.inr (Or.inr (Or.inr ⟨hpercent, hreturn, hnewline, hself⟩))

/-- The three replacements one after another are one that goes character by character. -/
theorem escape_eq_flatMap (message : Text) : escape message = message.flatMap written := by
  unfold escape escapeChar
  rw [List.flatMap_assoc, List.flatMap_assoc]
  refine List.flatMap_congr fun c _ => ?_
  rcases written_cases c with rfl | rfl | rfl | ⟨hpercent, hreturn, hnewline, hself⟩
  · rfl
  · rfl
  · rfl
  · simp [hself, hpercent, hreturn, hnewline]

theorem unescape_cons {c : Char} (h : c ≠ '%') (rest : Text) :
    unescape (c :: rest) = c :: unescape rest := by
  rw [unescape]
  all_goals
    intro _ hc _
    exact h hc

/-- What is written for a character is decoded to it, whatever follows. -/
theorem unescape_written_append (c : Char) (rest : Text) :
    unescape (written c ++ rest) = c :: unescape rest := by
  rcases written_cases c with rfl | rfl | rfl | ⟨hpercent, -, -, hself⟩
  · rfl
  · rfl
  · rfl
  · rw [hself]
    exact unescape_cons hpercent rest

/-- Decoding gives a message back. -/
theorem unescape_escape (message : Text) : unescape (escape message) = message := by
  rw [escape_eq_flatMap]
  induction message with
  | nil => rfl
  | cons c rest ih => rw [List.flatMap_cons, unescape_written_append, ih]

/-- No line ends in what is written for a character. -/
theorem not_mem_written (c : Char) : '\r' ∉ written c ∧ '\n' ∉ written c := by
  rcases written_cases c with rfl | rfl | rfl | ⟨-, hreturn, hnewline, hself⟩
  · decide
  · decide
  · decide
  · rw [hself, List.mem_singleton, List.mem_singleton]
    exact ⟨Ne.symm hreturn, Ne.symm hnewline⟩

/-- An escaped message stays on its line. -/
theorem not_mem_escape (message : Text) : '\r' ∉ escape message ∧ '\n' ∉ escape message := by
  rw [escape_eq_flatMap, List.mem_flatMap, List.mem_flatMap]
  constructor
  · rintro ⟨c, -, hc⟩
    exact (not_mem_written c).1 hc
  · rintro ⟨c, -, hc⟩
    exact (not_mem_written c).2 hc

/-! ## Lines -/

/-- What a notice says about a finding. -/
def said (f : Finding) : Text := "[" ++ f.rule ++ "] " ++ f.message

/-- What stands in front of the message: the level and the place of a finding. -/
def placed (path : Text) (f : Finding) : Text :=
  "::" ++ level f.severity ++ " file=" ++ path ++ ",line=" ++ Text.ofInt f.line ++
    columnPart f.column ++ "::"

theorem newline_not_mem_columnPart (column : Option Int) : '\n' ∉ columnPart column := by
  unfold columnPart
  split
  · next n _ =>
    rw [List.mem_append, not_or]
    exact ⟨by decide, Text.newline_not_mem_ofInt n⟩
  · exact List.not_mem_nil

/-- A notice stays on its line exactly if its path does. -/
theorem newline_mem_notice_iff (path : Text) (f : Finding) :
    '\n' ∈ placed path f ++ escape (said f) ↔ '\n' ∈ path := by
  have hlevel : '\n' ∉ level f.severity := by cases f.severity <;> decide
  have hline := Text.newline_not_mem_ofInt f.line
  have hcolumn := newline_not_mem_columnPart f.column
  have hmessage := (not_mem_escape (said f)).2
  have hwords : '\n' ∉ ("::" : Text) ∧ '\n' ∉ (" file=" : Text) ∧ '\n' ∉ (",line=" : Text) := by
    decide
  unfold placed
  simp only [List.mem_append, hlevel, hline, hcolumn, hmessage, hwords, or_false, false_or]

/-- The notices of a result with findings, line by line. -/
theorem present_text {source : Option Text} {r : AnyResult} (h : ∀ p, r ≠ .plan p) :
    (OutputFormat.notices.present source r).text = ['\n'].intercalate
      ((r.located source).map fun entry => placed entry.1 entry.2 ++ escape (said entry.2)) := by
  cases r with
  | lint result => rfl
  | analysis result => rfl
  | plan p => exact absurd rfl (h p)

/-- **The notices of a result are read back.**  The lines of the output are one notice for each finding,
in their order, exactly if there is a finding and no path breaks its line.  Whatever a message says, it
stays on its line and is decoded to what was said, so no two messages are escaped alike. -/
theorem present_readBack (source : Option Text) (r : AnyResult) :
    (Text.lines (OutputFormat.notices.present source r).text =
        (r.located source).map (fun entry => placed entry.1 entry.2 ++ escape (said entry.2)) ↔
      r.located source ≠ [] ∧ ∀ entry ∈ r.located source, '\n' ∉ entry.1) ∧
    (∀ message, '\r' ∉ escape message ∧ '\n' ∉ escape message ∧
      unescape (escape message) = message) ∧
    (∀ message, escape message = message.flatMap written) ∧ Function.Injective escape := by
  refine ⟨?_, fun message => ?_, escape_eq_flatMap, ?_⟩
  · by_cases hplan : ∃ p, r = .plan p
    · -- a plan has no findings, and a text has at least one line
      obtain ⟨p, rfl⟩ := hplan
      exact iff_of_false (List.splitOn_ne_nil '\n' _) fun h => h.1 rfl
    · rw [present_text fun p hp => hplan ⟨p, hp⟩, Text.lines, Text.splitOn_intercalate_iff,
        List.forall_mem_map, ne_eq, List.map_eq_nil_iff]
      simp only [newline_mem_notice_iff]
  · obtain ⟨hreturn, hnewline⟩ := not_mem_escape message
    exact ⟨hreturn, hnewline, unescape_escape message⟩
  · exact Function.LeftInverse.injective unescape_escape

/-- A message that looks escaped already is escaped once more. -/
example : escape "100%0A\n" = "100%250A%0A" ∧ unescape "100%250A%0A" = "100%0A\n" := by decide

end Notice
end TemplateLint
