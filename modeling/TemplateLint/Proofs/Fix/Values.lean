import TemplateLint.Proofs.Fix.Agreement

/-!
# Attribute values around a fix

The fix for an image takes the first end of a tag behind the name for the end of the tag.  A reader of
markup passes over one that stands in a double-quoted value (`Fix.valuesFrom`).  The quotes in front of
the attribute that is written tell whether it is written into such a value
(`Fix.exists_valuesFrom_append`), and this is so exactly if some value of the tag holds an end of a tag
(`Linter.imageFix_values_iff`).
-/
namespace TemplateLint
namespace Fix

open Pattern Image

/-- The double-quoted values up to the end of a tag, which is no character of a value; `state` is what was
read of a value that has started. -/
def valuesFrom : Option Text → Text → List Text
  | none, [] => []
  | some value, [] => [value]
  | none, c :: rest =>
    if c = '>' then [] else if c = '"' then valuesFrom (some []) rest else valuesFrom none rest
  | some value, c :: rest =>
    if c = '"' then value :: valuesFrom none rest else valuesFrom (some (value ++ [c])) rest

/-- The double-quoted values of the tag with which a text starts. -/
def attributeValues (text : Text) : List Text := valuesFrom none text

variable {state : Option Text} {front back cut close value : Text}

/-- **Reading on behind a text without an end of a tag**: some values were closed in it, and a value is
open behind it exactly if the number of its quotes says so. -/
theorem exists_valuesFrom_append (hfront : '>' ∉ front) (hstate : ∀ value ∈ state, '>' ∉ value) :
    ∃ closed behind, (∀ rest, valuesFrom state (front ++ rest) = closed ++ valuesFrom behind rest) ∧
      (∀ value ∈ closed, '>' ∉ value) ∧
      (behind = none ↔ (front.count '"' + if state = none then 0 else 1) % 2 = 0) := by
  induction front generalizing state with
  | nil =>
    refine ⟨[], state, fun _ => rfl, List.forall_mem_nil _, ?_⟩
    cases state <;> simp
  | cons c front ih =>
    rw [List.mem_cons, not_or] at hfront
    obtain ⟨hclose, hfront⟩ := hfront
    by_cases hquote : c = '"'
    · subst hquote
      cases state with
      | none =>
        -- a value starts
        obtain ⟨closed, behind, hreads, hclosed, hbehind⟩ :=
          @ih (some []) hfront fun value hvalue => by
            obtain rfl := Option.some.inj hvalue
            exact List.not_mem_nil
        refine ⟨closed, behind, fun rest => ?_, hclosed, ?_⟩
        · rw [← hreads, List.cons_append, valuesFrom, if_neg (Ne.symm hclose), if_pos rfl]
        · rw [hbehind, List.count_cons_self]
          simp
      | some value =>
        -- the value ends
        obtain ⟨closed, behind, hreads, hclosed, hbehind⟩ := @ih none hfront fun _ h => by cases h
        refine ⟨value :: closed, behind, fun rest => ?_, ?_, ?_⟩
        · rw [List.cons_append, valuesFrom, if_pos rfl, hreads, List.cons_append]
        · exact List.forall_mem_cons.mpr ⟨hstate value rfl, hclosed⟩
        · rw [hbehind, List.count_cons_self]
          simp only [reduceCtorEq, if_true, if_false]
          omega
    · have hcount : (c :: front).count '"' = front.count '"' := List.count_cons_of_ne hquote
      cases state with
      | none =>
        obtain ⟨closed, behind, hreads, hclosed, hbehind⟩ := @ih none hfront fun _ h => by cases h
        refine ⟨closed, behind, fun rest => ?_, hclosed, by rw [hbehind, hcount]⟩
        rw [← hreads, List.cons_append, valuesFrom, if_neg (Ne.symm hclose), if_neg hquote]
      | some value =>
        obtain ⟨closed, behind, hreads, hclosed, hbehind⟩ :=
          @ih (some (value ++ [c])) hfront fun read hread => by
            obtain rfl := Option.some.inj hread
            rw [List.mem_append, not_or, List.mem_singleton]
            exact ⟨hstate value rfl, hclose⟩
        refine ⟨closed, behind, fun rest => ?_, hclosed, by rw [hbehind, hcount]; rfl⟩
        rw [← hreads, List.cons_append, valuesFrom, if_neg hquote]

/-- Where no value is open, the tag ends at the next end of a tag. -/
theorem valuesFrom_none_close (hcut : '"' ∉ cut) : valuesFrom none (cut ++ '>' :: back) = [] := by
  induction cut with
  | nil => rw [List.nil_append, valuesFrom, if_pos rfl]
  | cons c cut ih =>
    rw [List.mem_cons, not_or] at hcut
    rw [List.cons_append, valuesFrom, ih hcut.2, if_neg (Ne.symm hcut.1)]
    split <;> rfl

/-- An open value goes on up to the next quote. -/
theorem exists_valuesFrom_some (hcut : '"' ∉ cut) (back : Text) : ∃ more later,
    valuesFrom (some value) (cut ++ back) = (value ++ cut ++ more) :: later := by
  induction cut generalizing value with
  | nil =>
    rw [List.append_nil, List.nil_append]
    induction back generalizing value with
    | nil => exact ⟨[], [], by rw [valuesFrom, List.append_nil]⟩
    | cons c back ih =>
      rw [valuesFrom]
      split
      · exact ⟨[], valuesFrom none back, by rw [List.append_nil]⟩
      · obtain ⟨more, later, hmore⟩ := @ih (value ++ [c])
        exact ⟨c :: more, later, by rw [hmore, List.append_assoc]; rfl⟩
  | cons c cut ih =>
    rw [List.mem_cons, not_or] at hcut
    obtain ⟨more, later, hmore⟩ := @ih (value ++ [c]) hcut.2
    refine ⟨more, later, ?_⟩
    rw [List.cons_append, valuesFrom, if_neg (Ne.symm hcut.1), hmore, List.append_assoc value]
    rfl

/-- An open value ends at the next quote. -/
theorem valuesFrom_some_quote (hfront : '"' ∉ front) (rest : Text) :
    valuesFrom (some value) (front ++ '"' :: rest) = (value ++ front) :: valuesFrom none rest := by
  induction front generalizing value with
  | nil => rw [List.nil_append, valuesFrom, if_pos rfl, List.append_nil]
  | cons c front ih =>
    rw [List.mem_cons, not_or] at hfront
    rw [List.cons_append, valuesFrom, if_neg (Ne.symm hfront.1), ih hfront.2, List.append_assoc]
    rfl

/-- The attribute that is written has an empty value, where no value is open. -/
theorem valuesFrom_none_added (hclose : close ∈ [[], String.toList " /"]) (back : Text) :
    valuesFrom none (added close ++ '>' :: back) = [[]] := by
  have hquote : ∀ close ∈ [[], String.toList " /"], '"' ∉ close := by decide
  show [] :: valuesFrom none (close ++ '>' :: back) = [[]]
  rw [valuesFrom_none_close (hquote close hclose)]

/-- **Whether the attribute is written into a value**: it is not if the number of quotes in front is even,
that is, if no value of the tag holds an end of a tag, and then the values of the tag are kept. -/
theorem even_quotes_iff {kept : Text} (hkept : '>' ∉ kept)
    (hcut : ∀ c ∈ cut, isBlank c = true ∨ c = '/') (hclose : close ∈ [[], String.toList " /"])
    (back : Text) :
    (kept.count '"' % 2 = 0 ↔
      ∀ value ∈ attributeValues (kept ++ cut ++ ['>'] ++ back), '>' ∉ value) ∧
    (kept.count '"' % 2 = 0 ↔ attributeValues (kept ++ added close ++ ['>'] ++ back) =
      attributeValues (kept ++ cut ++ ['>'] ++ back) ++ [[]]) := by
  have hquote : '"' ∉ cut ++ ['>'] := by
    intro hmem
    rcases List.mem_append.mp hmem with hmem | hmem
    · exact absurd (hcut _ hmem) (by decide)
    · exact absurd hmem (by decide)
  obtain ⟨closed, behind, hreads, hclosed, hbehind⟩ :=
    @exists_valuesFrom_append none kept hkept fun _ h => by cases h
  have hbefore : attributeValues (kept ++ cut ++ ['>'] ++ back) =
      closed ++ valuesFrom behind (cut ++ ['>'] ++ back) := by
    rw [attributeValues, ← hreads]
    simp only [List.append_assoc]
  have hafter : attributeValues (kept ++ added close ++ ['>'] ++ back) =
      closed ++ valuesFrom behind (added close ++ '>' :: back) := by
    rw [attributeValues, ← hreads]
    simp only [List.append_assoc, List.singleton_append]
  have heven : kept.count '"' % 2 = 0 ↔ behind = none := by
    rw [hbehind]
    simp
  rw [hbefore, hafter, heven]
  cases behind with
  | none =>
    have hends : valuesFrom none (cut ++ ['>'] ++ back) = [] := by
      rw [List.append_assoc]
      exact valuesFrom_none_close fun hmem => hquote (List.mem_append_left _ hmem)
    rw [hends, valuesFrom_none_added hclose, List.append_nil]
    exact ⟨iff_of_true rfl hclosed, iff_of_true rfl rfl⟩
  | some value =>
    obtain ⟨more, later, hopen⟩ := @exists_valuesFrom_some _ value hquote back
    have hname : '"' ∉ String.toList " alt=" := by decide
    have hwritten : valuesFrom (some value) (added close ++ '>' :: back) =
        (value ++ String.toList " alt=") :: valuesFrom none ('"' :: close ++ '>' :: back) :=
      valuesFrom_some_quote hname _
    rw [hopen, hwritten]
    refine ⟨iff_of_false (by simp) fun hnone => ?_, iff_of_false (by simp) fun heq => ?_⟩
    · exact hnone _ (List.mem_append_right _ List.mem_cons_self) (by simp)
    · rw [List.append_assoc] at heq
      obtain ⟨hvalue, -⟩ := List.cons.inj (List.append_cancel_left heq)
      rw [List.append_assoc] at hvalue
      have hmem : '>' ∈ String.toList " alt=" := by
        rw [List.append_cancel_left hvalue]
        simp
      exact absurd hmem (by decide)

end Fix

/-- **When a fix for an image leaves the values of the tag alone.**  The attribute is written behind what is
kept of the text in front of the first end of a tag.  The number of quotes there is even exactly if no
double-quoted value of the tag holds an end of a tag, and exactly if the fix keeps the values of the tag
and adds an empty one. -/
theorem Linter.imageFix_values_iff {l : Linter} {text : Text} {dialect : Dialect}
    {fields : Entries Value} {found : List Finding}
    (hfound : l.findings text dialect fields = .ok found) {f : Finding} (hf : f ∈ found)
    (hrule : f.rule = "missing_alt_text") {description original written : Text}
    (hfix : Fix.replacement f.rule f.line description original written ∈
      Fix.ofFindings text found) :
    ∃ front kept cut close back,
      Fix.lineAt? text.lines f.line = some (front ++ original ++ back) ∧
      original = kept ++ cut ++ ['>'] ∧ (∀ c ∈ cut, isBlank c = true ∨ c = '/') ∧
      close ∈ [[], String.toList " /"] ∧
      written = kept ++ String.toList " alt=\"\"" ++ close ++ ['>'] ∧
      (kept.count '"' % 2 = 0 ↔ ∀ value ∈ Fix.attributeValues (original ++ back), '>' ∉ value) ∧
      (kept.count '"' % 2 = 0 ↔ Fix.attributeValues (written ++ back) =
        Fix.attributeValues (original ++ back) ++ [[]]) := by
  obtain ⟨line, start, -, hline, -, -, -⟩ := image_of_finding hfound hf hrule
  -- the only fix for the rule in the line is the one of the replacer
  have hmem : Fix.replacement f.rule f.line description original written ∈
      (Fix.ofFindings text found).filter fun fix => fix.key = (f.rule, f.line) :=
    List.mem_filter.mpr ⟨hfix, decide_eq_true rfl⟩
  rw [Fix.filter_ofFindings hf, hline, Option.bind_some, Fix.ofFinding?_missingAlt hrule,
    Option.mem_toList] at hmem
  obtain ⟨m, hm, hreplacement⟩ := Option.map_eq_some_iff.mp hmem
  obtain ⟨-, -, -, rfl, rfl⟩ := Fix.replacement.inj hreplacement
  obtain ⟨_, inside, hfirst, rfl⟩ := (Image.find?_pattern_iff Image.key_caseless).mp hm
  obtain ⟨front, back, -, hsplit⟩ := hfirst.exists_split
  obtain ⟨kept, cut, close, rfl, hcut, hclose, hwritten⟩ := Image.exists_addEmptyAlt_eq inside
  have hkept : '>' ∉ kept := fun hmem =>
    hfirst.undescribed.unclosed (List.mem_append_left cut hmem)
  have heven := Fix.even_quotes_iff hkept hcut hclose back
  refine ⟨front, kept, cut, close, back, ?_, rfl, hcut, hclose, ?_, heven.1, ?_⟩
  · rw [hline, hsplit]
  · show Fix.addEmptyAlt _ = _
    rw [hwritten]
    unfold Image.added
    simp only [List.append_assoc]
  · show _ ↔ Fix.attributeValues (Fix.addEmptyAlt _ ++ back) = _
    rw [hwritten]
    exact heven.2

/-- An image whose address holds no end of a tag. -/
theorem Linter.imageFix_values_plain :
    let l : Linter := ⟨Policy.default, Heuristics.default, false⟩
    let text : Text := "<img src=\"a.jpg\" />"
    let f : Finding := MarkupRules.missingAltText.findingOf 1
      ⟨0, 19, "<img src=\"a.jpg\" />",
        "Image missing alt attribute. Add alt text for accessibility."⟩
    let written : Text := "<img src=\"a.jpg\" alt=\"\" />"
    l.findings text .blade [] = .ok (l.check text .blade []) ∧ f ∈ l.check text .blade [] ∧
      Fix.replacement f.rule f.line "Add alt attribute for accessibility" text written ∈
        Fix.ofFindings text (l.check text .blade []) ∧
      ∃ front kept cut close back,
        Fix.lineAt? text.lines f.line = some (front ++ text ++ back) ∧
        text = kept ++ cut ++ ['>'] ∧ (∀ c ∈ cut, isBlank c = true ∨ c = '/') ∧
        close ∈ [[], String.toList " /"] ∧
        written = kept ++ String.toList " alt=\"\"" ++ close ++ ['>'] ∧
        (kept.count '"' % 2 = 0 ↔ ∀ value ∈ Fix.attributeValues (text ++ back), '>' ∉ value) ∧
        (kept.count '"' % 2 = 0 ↔ Fix.attributeValues (written ++ back) =
          Fix.attributeValues (text ++ back) ++ [[]]) := by
  intro l text f written
  have hfound : l.findings text .blade [] = .ok (l.check text .blade []) := by
    have hfault : l.fault? text .blade [] = none := by decide +kernel
    rw [findings, hfault]
  have hcheck : l.check text .blade [] = [f] := by decide +kernel
  have hf : f ∈ l.check text .blade [] := by rw [hcheck]; exact List.mem_singleton_self f
  have hfix : Fix.replacement f.rule f.line "Add alt attribute for accessibility" text written ∈
      Fix.ofFindings text (l.check text .blade []) := by
    rw [hcheck]
    decide +kernel
  exact ⟨hfound, hf, hfix, imageFix_values_iff hfound hf rfl hfix⟩

/-- The arrow of an expression is taken for the end of the tag, so the attribute is written behind one
quote, into the address. -/
theorem Linter.imageFix_in_value :
    let l : Linter := ⟨Policy.default, Heuristics.default, false⟩
    let text : Text := "<img src=\"\x7b\x7b $post->url \x7d\x7d\">"
    let written : Text := "<img src=\"\x7b\x7b $post- alt=\"\">"
    ∃ f ∈ l.check text .blade [], f.rule = String.toList "missing_alt_text" ∧
      Fix.replacement f.rule f.line "Add alt attribute for accessibility"
        "<img src=\"\x7b\x7b $post->" written ∈ Fix.ofFindings text (l.check text .blade []) ∧
      (String.toList "<img src=\"\x7b\x7b $post-").count '"' = 1 ∧
      Fix.attributeValues text = [String.toList "\x7b\x7b $post->url \x7d\x7d"] ∧
      Fix.attributeValues (written ++ String.toList "url \x7d\x7d\">") =
        [String.toList "\x7b\x7b $post- alt=", String.toList ">url \x7d\x7d"] := by
  intro l text written
  have hcheck : l.check text .blade [] = [MarkupRules.missingAltText.findingOf 1
      ⟨0, 22, "<img src=\"\x7b\x7b $post->",
        "Image missing alt attribute. Add alt text for accessibility."⟩] := by
    decide +kernel
  rw [hcheck]
  refine ⟨_, List.mem_singleton_self _, rfl, ?_, ?_, ?_, ?_⟩
  · decide +kernel
  · decide +kernel
  · decide +kernel
  · decide +kernel

end TemplateLint
