import TemplateLint.Proofs.Suggestion.Merged

/-!
# What a suggestion is about

The subject of a finding is its rule, its template and, for some rules, its snippet.  Evidence can
hold separators and a path does not, so the last separator of what is digested ends the key, and the
subject can be read back (`Suggestion.sameSubject_of_digestInput_eq`).  No rule of the table is the
beginning of another one up to an underscore, so an identifier tells its rule whatever the digest
gives (`Suggestion.rule_eq_of_append_eq`).  Where the shortened digest tells apart what is digested,
findings are therefore merged if and only if they have the same subject, and the suggestions of a
template are those for its own findings (`Suggestion.ofFindings_bySubject`).
-/
namespace TemplateLint
namespace Suggestion

/-- Two findings have the same rule, the same template and, where each snippet has its own
suggestion, the same snippet. -/
structure SameSubject (f g : Finding) : Prop where
  rule : f.rule = g.rule
  /-- A finding without a template and one in a template without a name are alike. -/
  template : f.template.getD [] = g.template.getD []
  snippet : (Advice.ofRule? f.rule).any (·.perSnippet) = true → snippetKey f = snippetKey g

theorem sameSubject_iff {f g : Finding} :
    SameSubject f g ↔ f.rule = g.rule ∧ f.template.getD [] = g.template.getD [] ∧
      ((Advice.ofRule? f.rule).any (·.perSnippet) = true → snippetKey f = snippetKey g) := by
  constructor
  · intro h
    exact ⟨h.rule, h.template, h.snippet⟩
  · rintro ⟨hrule, htemplate, hsnippet⟩
    exact ⟨hrule, htemplate, hsnippet⟩

instance (f g : Finding) : Decidable (SameSubject f g) := decidable_of_iff' _ sameSubject_iff

theorem getD_nil_eq_iff {template : Option Text} {path : Text} (hpath : path ≠ []) :
    template.getD [] = path ↔ template = some path := by
  cases template with
  | none => exact ⟨fun h => absurd h.symm hpath, fun h => by cases h⟩
  | some found => exact ⟨congrArg some, Option.some.inj⟩

/-- Findings with the same subject are in the same template if that has a name. -/
theorem SameSubject.template_eq_some_iff {f g : Finding} (h : SameSubject f g) {path : Text}
    (hpath : path ≠ []) : f.template = some path ↔ g.template = some path := by
  rw [← getD_nil_eq_iff hpath, ← getD_nil_eq_iff hpath, h.template]

/-! ## Cuts -/

/-- A cut in the same place, or one in front of the other. -/
theorem cuts_of_eq_append {front front' behind behind' rest : Text} {c : Char}
    (hfront : front' = front ++ rest) (hbehind : c :: behind = rest ++ c :: behind') :
    (front = front' ∧ behind = behind') ∨ (front ++ [c] <+: front' ∧ c ∈ behind) := by
  cases rest with
  | nil =>
    rw [List.append_nil] at hfront
    exact Or.inl ⟨hfront.symm, (List.cons.inj hbehind).2⟩
  | cons first rest =>
    obtain ⟨rfl, htail⟩ := List.cons.inj hbehind
    refine Or.inr ⟨⟨rest, ?_⟩, ?_⟩
    · rw [hfront, List.append_assoc]
      rfl
    · rw [htail]
      exact List.mem_append_right _ List.mem_cons_self

/-- Of two cuts of one text at the same character one stands in front unless they are the same. -/
theorem cuts_of_append_eq {front front' behind behind' : Text} {c : Char}
    (h : front ++ c :: behind = front' ++ c :: behind') :
    (front = front' ∧ behind = behind') ∨ (front ++ [c] <+: front' ∧ c ∈ behind) ∨
      (front' ++ [c] <+: front ∧ c ∈ behind') := by
  rcases List.append_eq_append_iff.mp h with ⟨rest, hfront, hbehind⟩ | ⟨rest, hfront, hbehind⟩
  · rcases cuts_of_eq_append hfront hbehind with heq | hbefore
    · exact Or.inl heq
    · exact Or.inr (Or.inl hbefore)
  · rcases cuts_of_eq_append hfront hbehind with ⟨hfront, hbehind⟩ | hbefore
    · exact Or.inl ⟨hfront.symm, hbehind.symm⟩
    · exact Or.inr (Or.inr hbefore)

/-! ## What is digested -/

/-- The text that is digested for a finding. -/
def digestInput (f : Finding) (advice : Advice) : Text :=
  keyOf advice f ++ separator :: f.template.getD []

/-- The texts that are digested for some findings. -/
def digestInputs (findings : List Finding) : List Text :=
  findings.filterMap fun f => (Advice.ofRule? f.rule).map (digestInput f)

theorem digestInput_mem {findings : List Finding} {f : Finding} (hf : f ∈ findings)
    {advice : Advice} (hadvice : Advice.ofRule? f.rule = some advice) :
    digestInput f advice ∈ digestInputs findings := by
  refine List.mem_filterMap.mpr ⟨f, hf, ?_⟩
  rw [hadvice]
  rfl

/-- Where the separator ends both keys, no separator in a path leaves one place to cut at. -/
theorem append_separator_inj {key key' path path' : Text} (hpath : separator ∉ path)
    (hpath' : separator ∉ path') (h : key ++ separator :: path = key' ++ separator :: path') :
    key = key' ∧ path = path' := by
  rcases cuts_of_append_eq h with heq | ⟨-, hmem⟩ | ⟨-, hmem⟩
  · exact heq
  · exact absurd hmem hpath
  · exact absurd hmem hpath'

/-- Findings of one rule have the same key if and only if their snippets do not tell them apart. -/
theorem keyOf_eq_iff {f g : Finding} (hrule : f.rule = g.rule) (advice : Advice) :
    keyOf advice f = keyOf advice g ↔ (advice.perSnippet = true → snippetKey f = snippetKey g) := by
  rw [keyOf, keyOf, hrule]
  by_cases hsnippet : advice.perSnippet = true
  · rw [if_pos hsnippet, if_pos hsnippet, List.append_cancel_left_eq, List.cons_eq_cons]
    exact ⟨fun h _ => h.2, fun h => ⟨rfl, h hsnippet⟩⟩
  · rw [if_neg hsnippet, if_neg hsnippet]
    exact ⟨fun _ h => absurd h hsnippet, fun _ => rfl⟩

/-- The subject can be read back from what is digested. -/
theorem sameSubject_of_digestInput_eq {f g : Finding} {advice : Advice}
    (hadvice : Advice.ofRule? f.rule = some advice) (hrule : f.rule = g.rule)
    (hf : separator ∉ f.template.getD []) (hg : separator ∉ g.template.getD [])
    (h : digestInput f advice = digestInput g advice) : SameSubject f g := by
  obtain ⟨hkey, htemplate⟩ := append_separator_inj hf hg h
  refine ⟨hrule, htemplate, fun hsnippet => ?_⟩
  rw [hadvice, Option.any_some] at hsnippet
  exact (keyOf_eq_iff hrule advice).mp hkey hsnippet

/-! ## Identifiers -/

/-- No rule of the table is the beginning of another one up to an underscore. -/
theorem table_apart : ∀ rule ∈ Advice.table.map (·.1), ∀ rule' ∈ Advice.table.map (·.1),
    ¬ (rule ++ ['_']) <+: rule' := by
  decide +kernel

theorem mem_table_of_ofRule? {rule : Text} {advice : Advice}
    (h : Advice.ofRule? rule = some advice) : rule ∈ Advice.table.map (·.1) := by
  obtain ⟨before, behind, htable, -⟩ := List.lookup_eq_some_iff.mp h
  rw [htable, List.map_append, List.map_cons]
  exact List.mem_append_right _ List.mem_cons_self

/-- The beginning of an identifier tells its rule, however long the rest is. -/
theorem rule_eq_of_append_eq {rule rule' rest rest' : Text} {advice advice' : Advice}
    (hrule : Advice.ofRule? rule = some advice) (hrule' : Advice.ofRule? rule' = some advice')
    (h : rule ++ '_' :: rest = rule' ++ '_' :: rest') : rule = rule' := by
  have hmem := mem_table_of_ofRule? hrule
  have hmem' := mem_table_of_ofRule? hrule'
  rcases cuts_of_append_eq h with ⟨heq, -⟩ | ⟨hbefore, -⟩ | ⟨hbefore, -⟩
  · exact heq
  · exact absurd hbefore (table_apart rule hmem rule' hmem')
  · exact absurd hbefore (table_apart rule' hmem' rule hmem)

section
variable {digest : Text → Text} {examples : Bool} {findings : List Finding}

theorem idOf?_eq_some {f : Finding} {advice : Advice}
    (hadvice : Advice.ofRule? f.rule = some advice) :
    idOf? digest examples f = some (f.rule ++ '_' :: (digest (digestInput f advice)).take 12) := by
  rw [idOf?, ofFinding?_of_some hadvice]
  rfl

theorem idOf?_eq_none {f : Finding} (hadvice : Advice.ofRule? f.rule = none) :
    idOf? digest examples f = none := by
  rw [idOf?, ofFinding?_of_none hadvice]
  rfl

/-- Findings with the same subject have the same identifier, whatever the digest is. -/
theorem idOf?_eq_of_sameSubject {f g : Finding} (h : SameSubject f g) :
    idOf? digest examples f = idOf? digest examples g := by
  cases hadvice : Advice.ofRule? f.rule with
  | none => rw [idOf?_eq_none hadvice, idOf?_eq_none (h.rule ▸ hadvice)]
  | some advice =>
    have hkey : keyOf advice f = keyOf advice g := by
      refine (keyOf_eq_iff h.rule advice).mpr fun hsnippet => h.snippet ?_
      rw [hadvice]
      exact hsnippet
    rw [idOf?_eq_some hadvice, idOf?_eq_some (h.rule ▸ hadvice), digestInput, digestInput, hkey,
      h.template, h.rule]

/-- The shortened digest tells apart the texts that are digested for some findings. -/
def TellsApart (digest : Text → Text) (findings : List Finding) : Prop :=
  ∀ text ∈ digestInputs findings, ∀ text' ∈ digestInputs findings,
    (digest text).take 12 = (digest text').take 12 → text = text'

/-- No template has a separator in its path. -/
def PathsApart (findings : List Finding) : Prop :=
  ∀ f ∈ findings, separator ∉ f.template.getD []

instance (digest : Text → Text) (findings : List Finding) :
    Decidable (TellsApart digest findings) :=
  inferInstanceAs (Decidable (∀ text ∈ digestInputs findings, ∀ text' ∈ digestInputs findings,
    (digest text).take 12 = (digest text').take 12 → text = text'))

instance (findings : List Finding) : Decidable (PathsApart findings) :=
  inferInstanceAs (Decidable (∀ f ∈ findings, separator ∉ f.template.getD []))

/-- Where the digest tells texts apart, an identifier tells the subject. -/
theorem idOf?_eq_iff (hdigest : TellsApart digest findings) (hpaths : PathsApart findings)
    (examples : Bool) {f g : Finding} (hf : f ∈ findings) (hg : g ∈ findings)
    (hsome : (Advice.ofRule? f.rule).isSome = true) :
    idOf? digest examples f = idOf? digest examples g ↔ SameSubject f g := by
  refine ⟨fun h => ?_, idOf?_eq_of_sameSubject⟩
  obtain ⟨advice, hadvice⟩ := Option.isSome_iff_exists.mp hsome
  rw [idOf?_eq_some hadvice] at h
  cases hadvice' : Advice.ofRule? g.rule with
  | none =>
    rw [idOf?_eq_none hadvice'] at h
    cases h
  | some advice' =>
    rw [idOf?_eq_some hadvice'] at h
    have hid := Option.some.inj h
    have hrule := rule_eq_of_append_eq hadvice hadvice' hid
    obtain rfl : advice = advice' := by
      rw [hrule, hadvice'] at hadvice
      exact (Option.some.inj hadvice).symm
    rw [hrule, List.append_cancel_left_eq] at hid
    refine sameSubject_of_digestInput_eq hadvice hrule (hpaths f hf) (hpaths g hg) ?_
    exact hdigest _ (digestInput_mem hf hadvice) _ (digestInput_mem hg hadvice')
      (List.cons.inj hid).2

/-! ## The suggestions of a template -/

/-- The suggestions of a template. -/
def onTemplate (path : Text) (suggestions : List Suggestion) : List Suggestion :=
  suggestions.filter fun s => s.template = some path

theorem onTemplate_cons (path : Text) (s : Suggestion) (rest : List Suggestion) :
    onTemplate path (s :: rest) =
      if s.template = some path then s :: onTemplate path rest else onTemplate path rest := by
  rw [onTemplate, List.filter_cons]
  simp only [decide_eq_true_eq]
  rfl

theorem onTemplate_concat (path : Text) (suggestions : List Suggestion) (s : Suggestion) :
    onTemplate path (suggestions ++ [s]) =
      if s.template = some path then onTemplate path suggestions ++ [s]
      else onTemplate path suggestions := by
  have happend : onTemplate path (suggestions ++ [s]) =
      onTemplate path suggestions ++ onTemplate path [s] :=
    List.filter_append _ _
  rw [happend, onTemplate_cons]
  split
  · rfl
  · exact List.append_nil _

/-- A step leaves the suggestions of another template alone and is one for its own. -/
theorem onTemplate_merge {path : Text} {s : Suggestion} {seen : List Suggestion}
    (hsame : ∀ t ∈ seen, t.id = s.id → (t.template = some path ↔ s.template = some path)) :
    onTemplate path (merge s seen) =
      if s.template = some path then merge s (onTemplate path seen) else onTemplate path seen := by
  induction seen with
  | nil =>
    rw [merge]
    exact onTemplate_concat path [] s
  | cons t rest ih =>
    obtain ⟨ht, hrest⟩ := List.forall_mem_cons.mp hsame
    rw [merge]
    by_cases hid : t.id = s.id
    · have hiff := ht hid
      rw [if_pos hid, onTemplate_cons, onTemplate_cons]
      by_cases hpath : t.template = some path
      · rw [if_pos hpath, if_pos hpath, if_pos (hiff.mp hpath), merge, if_pos hid]
      · rw [if_neg hpath, if_neg hpath, if_neg (mt hiff.mpr hpath)]
    · rw [if_neg hid, onTemplate_cons, onTemplate_cons, ih hrest]
      by_cases hpath : t.template = some path
      · rw [if_pos hpath, if_pos hpath, merge, if_neg hid]
        split
        · rfl
        · rfl
      · rw [if_neg hpath, if_neg hpath]

theorem onTemplate_mergeAll {path : Text} {suggestions : List Suggestion}
    (hone : ∀ s ∈ suggestions, s.occurrences = 1)
    (hsame : ∀ s ∈ suggestions, ∀ t ∈ suggestions, s.id = t.id →
      (s.template = some path ↔ t.template = some path)) :
    onTemplate path (mergeAll suggestions) = mergeAll (onTemplate path suggestions) := by
  induction suggestions using List.reverseRecOn with
  | nil => rfl
  | append_singleton suggestions last ih =>
    obtain ⟨hone, hlast⟩ := List.forall_mem_append.mp hone
    have hseen : ∀ t ∈ mergeAll suggestions, t.id = last.id →
        (t.template = some path ↔ last.template = some path) := by
      intro t ht hid
      obtain ⟨s, hs, count, rfl⟩ := counting_of_mem_mergeAll hone ht
      exact hsame s (List.mem_append_left _ hs) last
        (List.mem_append_right _ List.mem_cons_self) hid
    have ih := ih hone fun s hs t ht =>
      hsame s (List.mem_append_left _ hs) t (List.mem_append_left _ ht)
    rw [mergeAll_concat, onTemplate_merge hseen, onTemplate_concat, ih]
    by_cases h : last.template = some path
    · rw [if_pos h, if_pos h, mergeAll_concat]
    · rw [if_neg h, if_neg h]

/-- The suggestions of a template before merging are those for its findings. -/
theorem onTemplate_filterMap (path : Text) (findings : List Finding) :
    onTemplate path (findings.filterMap (ofFinding? digest examples)) =
      (findings.filter fun f => f.template = some path).filterMap (ofFinding? digest examples) := by
  rw [onTemplate, List.filter_filterMap, List.filterMap_filter]
  refine List.filterMap_congr fun f _ => ?_
  cases hadvice : Advice.ofRule? f.rule with
  | none => simp [ofFinding?_of_none hadvice]
  | some advice => simp [ofFinding?_of_some hadvice, ofAdvice, Option.filter]

/-! ## Merging by subject -/

/-- Two findings count for one suggestion. -/
def Merged (digest : Text → Text) (examples : Bool) (findings : List Finding) (f g : Finding) :
    Prop :=
  ∃ s ∈ ofFindings digest examples findings,
    idOf? digest examples f = some s.id ∧ idOf? digest examples g = some s.id

/-- A finding that there is advice on counts for a suggestion. -/
theorem exists_mem_ofFindings {f : Finding} (hf : f ∈ findings)
    (hsome : (Advice.ofRule? f.rule).isSome = true) :
    ∃ s ∈ ofFindings digest examples findings, idOf? digest examples f = some s.id := by
  obtain ⟨advice, hadvice⟩ := Option.isSome_iff_exists.mp hsome
  obtain ⟨id, hid⟩ : ∃ id, idOf? digest examples f = some id := ⟨_, idOf?_eq_some hadvice⟩
  have hmem : id ∈ ids (ofFindings digest examples findings) := by
    rw [ofFindings_eq_mergeAll, ids_mergeAll, ids_filterMap, mem_firstSeen]
    exact List.mem_filterMap.mpr ⟨f, hf, hid⟩
  obtain ⟨s, hs, rfl⟩ := List.mem_map.mp hmem
  exact ⟨s, hs, hid⟩

/-- Findings are merged by subject, and each template on its own. -/
structure BySubject (digest : Text → Text) (examples : Bool) (findings : List Finding) : Prop where
  /-- Findings are merged if and only if they have the same subject. -/
  merged : ∀ f ∈ findings, ∀ g ∈ findings, (Advice.ofRule? f.rule).isSome = true →
    (Merged digest examples findings f g ↔ SameSubject f g)
  /-- A suggestion occurs as often as there are findings with its subject. -/
  counted : ∀ f ∈ findings, (Advice.ofRule? f.rule).isSome = true →
    ∃ s ∈ ofFindings digest examples findings, idOf? digest examples f = some s.id ∧
      s.occurrences = findings.countP fun g => SameSubject f g
  /-- The suggestions of a template are those for its own findings. -/
  ofTemplate : ∀ path ≠ [],
    onTemplate path (ofFindings digest examples findings) =
      ofFindings digest examples (findings.filter fun f => f.template = some path)

theorem merged_iff (hdigest : TellsApart digest findings) (hpaths : PathsApart findings)
    {f g : Finding} (hf : f ∈ findings) (hg : g ∈ findings)
    (hsome : (Advice.ofRule? f.rule).isSome = true) :
    Merged digest examples findings f g ↔ SameSubject f g := by
  rw [← idOf?_eq_iff hdigest hpaths examples hf hg hsome]
  constructor
  · rintro ⟨s, -, hfs, hgs⟩
    rw [hfs, hgs]
  · intro h
    obtain ⟨s, hs, hfs⟩ := exists_mem_ofFindings hf hsome
    exact ⟨s, hs, hfs, h ▸ hfs⟩

theorem occurrences_eq_countP (hdigest : TellsApart digest findings) (hpaths : PathsApart findings)
    {f : Finding} (hf : f ∈ findings) (hsome : (Advice.ofRule? f.rule).isSome = true) :
    ∃ s ∈ ofFindings digest examples findings, idOf? digest examples f = some s.id ∧
      s.occurrences = findings.countP fun g => SameSubject f g := by
  obtain ⟨s, hs, hid⟩ := exists_mem_ofFindings hf hsome
  obtain ⟨first, t, -, -, heq⟩ := mem_ofFindings hs
  refine ⟨s, hs, hid, ?_⟩
  have hcount : s.occurrences =
      findings.countP fun g => idOf? digest examples g = some s.id :=
    congrArg Suggestion.occurrences heq
  rw [hcount]
  congr 1
  refine List.countP_congr fun g hg => ?_
  rw [decide_eq_true_eq, decide_eq_true_eq,
    ← idOf?_eq_iff hdigest hpaths examples hf hg hsome, hid]
  exact eq_comm

theorem onTemplate_ofFindings (hdigest : TellsApart digest findings) (hpaths : PathsApart findings)
    {path : Text} (hpath : path ≠ []) :
    onTemplate path (ofFindings digest examples findings) =
      ofFindings digest examples (findings.filter fun f => f.template = some path) := by
  rw [ofFindings_eq_mergeAll, ofFindings_eq_mergeAll, ← onTemplate_filterMap]
  refine onTemplate_mergeAll occurrences_of_mem_filterMap fun s hs t ht hid => ?_
  obtain ⟨f, hf, advice, hadvice, rfl⟩ := of_mem_filterMap hs
  obtain ⟨g, hg, advice', hadvice', rfl⟩ := of_mem_filterMap ht
  have heq : idOf? digest examples f = idOf? digest examples g := by
    rw [idOf?_eq_some hadvice, idOf?_eq_some hadvice']
    exact congrArg some hid
  have hsome : (Advice.ofRule? f.rule).isSome = true := by
    rw [hadvice]
    rfl
  exact ((idOf?_eq_iff hdigest hpaths examples hf hg hsome).mp heq).template_eq_some_iff hpath

/-- **Merging by subject.**  Where the digest tells apart the texts of a run and no path has a
separator, findings are merged if and only if they have the same subject, and the suggestions of a
template do not depend on the other templates. -/
theorem ofFindings_bySubject (hdigest : TellsApart digest findings) (hpaths : PathsApart findings)
    (examples : Bool) : BySubject digest examples findings where
  merged := fun _ hf _ hg hsome => merged_iff hdigest hpaths hf hg hsome
  counted := fun _ hf hsome => occurrences_eq_countP hdigest hpaths hf hsome
  ofTemplate := fun _ hpath => onTemplate_ofFindings hdigest hpaths hpath

/-- Findings of one rule that differ by the template or by the snippet, and two that do not. -/
theorem ofFindings_bySubject_digest :
    BySubject Text.digest true
      [{ rule := "xss_risk", category := .security, severity := .error, line := 1, message := "",
         template := some "a" },
        { rule := "xss_risk", category := .security, severity := .error, line := 1, message := "",
          template := some "b" },
        { rule := "xss_risk", category := .security, severity := .error, line := 9, message := "",
          template := some "a" },
        { rule := "xss_risk", category := .security, severity := .error, line := 1, message := "",
          template := some "a" }] := by
  refine ofFindings_bySubject ?_ ?_ true
  · decide +kernel
  · decide +kernel

end

end Suggestion
end TemplateLint
