import Mathlib.Data.List.Perm.Basic
import TemplateLint.Proofs.Entries
import TemplateLint.Suggestion.Plan
import TemplateLint.Text.Digest

/-!
# Merging loses nothing

After a step a suggestion is as it was, or has one occurrence more, or is new
(`Suggestion.mem_merge`).  So the merged suggestions have the identifiers that occur, in the order
in which they came first (`Suggestion.ids_mergeAll`), and each is the first suggestion of its
identifier with the number of all (`Suggestion.mergeAll_spec`).  A weight of the rules that is taken
as often as each suggestion occurs is conserved where an identifier tells the rule
(`Suggestion.weighted_mergeAll`).  The end of an identifier has a fixed length, so it tells the rule
even where digests collide; so the time that a plan saves is that of all findings
(`Suggestion.ofFindings_conserves`).
-/
namespace TemplateLint
namespace Suggestion

/-- The identifiers of some suggestions. -/
def ids (suggestions : List Suggestion) : List Text := suggestions.map (·.id)

/-- A suggestion with a number of occurrences. -/
def counting (count : Nat) (s : Suggestion) : Suggestion := { s with occurrences := count }

theorem counting_one {s : Suggestion} (h : s.occurrences = 1) : counting 1 s = s := by
  rw [counting, Int.natCast_one, ← h]

theorem counting_succ (count : Nat) (s : Suggestion) :
    { counting count s with occurrences := (counting count s).occurrences + 1 } =
      counting (count + 1) s :=
  rfl

/-- Suggestions merged one after another. -/
def mergeAll (suggestions : List Suggestion) : List Suggestion :=
  suggestions.foldl (fun seen s => merge s seen) []

theorem mergeAll_concat (suggestions : List Suggestion) (s : Suggestion) :
    mergeAll (suggestions ++ [s]) = merge s (mergeAll suggestions) := by
  rw [mergeAll, List.foldl_append]
  rfl

/-! ## One step -/

theorem ids_merge (s : Suggestion) (seen : List Suggestion) :
    ids (merge s seen) = if s.id ∈ ids seen then ids seen else ids seen ++ [s.id] := by
  induction seen with
  | nil => rfl
  | cons t rest ih =>
    rw [merge]
    by_cases ht : t.id = s.id
    · simp [ids, ht]
    · have hmem : s.id ∈ ids (t :: rest) ↔ s.id ∈ ids rest := by
        simp [ids, Ne.symm ht]
      rw [if_neg ht, ids, List.map_cons, ← ids, ih]
      simp only [hmem]
      split
      · rfl
      · rfl

/-- After a step a suggestion is as it was, or has one occurrence more, or is new. -/
theorem mem_merge {s t : Suggestion} {seen : List Suggestion} (hnodup : (ids seen).Nodup)
    (ht : t ∈ merge s seen) :
    (t ∈ seen ∧ t.id ≠ s.id) ∨
      (∃ u ∈ seen, u.id = s.id ∧ t = { u with occurrences := u.occurrences + 1 }) ∨
      (s.id ∉ ids seen ∧ t = s) := by
  induction seen with
  | nil => exact Or.inr (Or.inr ⟨List.not_mem_nil, List.mem_singleton.mp ht⟩)
  | cons u rest ih =>
    obtain ⟨hu, hrest⟩ := List.nodup_cons.mp hnodup
    rw [merge] at ht
    by_cases hid : u.id = s.id
    · rw [if_pos hid] at ht
      rcases List.mem_cons.mp ht with rfl | ht
      · exact Or.inr (Or.inl ⟨u, List.mem_cons_self, hid, rfl⟩)
      · refine Or.inl ⟨List.mem_cons_of_mem u ht, fun heq => hu ?_⟩
        exact List.mem_map.mpr ⟨t, ht, heq.trans hid.symm⟩
    · rw [if_neg hid] at ht
      rcases List.mem_cons.mp ht with rfl | ht
      · exact Or.inl ⟨List.mem_cons_self, hid⟩
      · rcases ih hrest ht with ⟨ht, hne⟩ | ⟨v, hv, hvid, rfl⟩ | ⟨hnew, rfl⟩
        · exact Or.inl ⟨List.mem_cons_of_mem u ht, hne⟩
        · exact Or.inr (Or.inl ⟨v, List.mem_cons_of_mem u hv, hvid, rfl⟩)
        · refine Or.inr (Or.inr ⟨?_, rfl⟩)
          exact mt List.mem_cons.mp (not_or.mpr ⟨Ne.symm hid, hnew⟩)

/-! ## All steps -/

/-- The identifiers are those that occur, in the order in which they came first. -/
theorem ids_mergeAll (suggestions : List Suggestion) :
    ids (mergeAll suggestions) = firstSeen (ids suggestions) := by
  induction suggestions using List.reverseRecOn with
  | nil => rfl
  | append_singleton suggestions s ih =>
    rw [mergeAll_concat, ids_merge, ih, ids, ids, List.map_append, List.map_singleton,
      firstSeen_concat]

/-- A last suggestion is counted for its identifier only. -/
theorem count_ids_concat (id : Text) (suggestions : List Suggestion) (last : Suggestion) :
    (ids (suggestions ++ [last])).count id =
      (ids suggestions).count id + if last.id = id then 1 else 0 := by
  rw [ids, ids, List.map_append, List.count_append, List.map_singleton, List.count_singleton]
  simp only [beq_iff_eq]

/-- A merged suggestion is the first one of its identifier, with the number of all. -/
theorem mergeAll_spec {suggestions : List Suggestion}
    (hone : ∀ s ∈ suggestions, s.occurrences = 1) {t : Suggestion} (ht : t ∈ mergeAll suggestions) :
    ∃ s, suggestions.find? (fun s => s.id = t.id) = some s ∧
      t = counting ((ids suggestions).count t.id) s := by
  induction suggestions using List.reverseRecOn generalizing t with
  | nil => cases ht
  | append_singleton suggestions last ih =>
    obtain ⟨hone, hlast⟩ := List.forall_mem_append.mp hone
    have hnodup : (ids (mergeAll suggestions)).Nodup := by
      rw [ids_mergeAll]
      exact nodup_firstSeen _
    rw [mergeAll_concat] at ht
    rw [count_ids_concat, List.find?_append]
    rcases mem_merge hnodup ht with ⟨ht, hne⟩ | ⟨u, hu, hid, rfl⟩ | ⟨hnew, rfl⟩
    · obtain ⟨s, hfind, heq⟩ := ih hone ht
      rw [hfind, if_neg (Ne.symm hne)]
      exact ⟨s, rfl, heq⟩
    · obtain ⟨s, hfind, heq⟩ := ih hone hu
      refine ⟨s, by rw [hfind]; rfl, ?_⟩
      rw [if_pos hid.symm]
      generalize (ids suggestions).count u.id = seen at heq
      subst heq
      exact counting_succ seen s
    · rw [ids_mergeAll, mem_firstSeen] at hnew
      have hnone : suggestions.find? (fun s => s.id = t.id) = none :=
        List.find?_eq_none.mpr fun s hs hid =>
          hnew (List.mem_map.mpr ⟨s, hs, of_decide_eq_true hid⟩)
      refine ⟨t, by rw [hnone]; simp, ?_⟩
      rw [List.count_eq_zero_of_not_mem hnew, if_pos rfl, counting_one (hlast t List.mem_cons_self)]

/-- A merged suggestion is one of those that were merged, with another number. -/
theorem counting_of_mem_mergeAll {suggestions : List Suggestion}
    (hone : ∀ s ∈ suggestions, s.occurrences = 1) {t : Suggestion} (ht : t ∈ mergeAll suggestions) :
    ∃ s ∈ suggestions, ∃ count, t = counting count s := by
  obtain ⟨s, hfind, heq⟩ := mergeAll_spec hone ht
  exact ⟨s, List.mem_of_find?_eq_some hfind, _, heq⟩

/-- How often each identifier was merged. -/
def tallies (suggestions : List Suggestion) : List (Text × Int) :=
  suggestions.map fun s => (s.id, s.occurrences)

theorem tallies_mergeAll {suggestions : List Suggestion}
    (hone : ∀ s ∈ suggestions, s.occurrences = 1) :
    tallies (mergeAll suggestions) =
      (firstSeen (ids suggestions)).map fun id => (id, ((ids suggestions).count id : Int)) := by
  rw [← ids_mergeAll]
  refine Eq.trans (List.map_congr_left fun t ht => ?_) List.map_map.symm
  obtain ⟨s, -, heq⟩ := mergeAll_spec hone ht
  exact Prod.ext rfl (congrArg Suggestion.occurrences heq)

/-- The order in which suggestions are merged changes the order only. -/
theorem tallies_mergeAll_perm {suggestions others : List Suggestion}
    (hone : ∀ s ∈ suggestions, s.occurrences = 1) (h : suggestions.Perm others) :
    (tallies (mergeAll suggestions)).Perm (tallies (mergeAll others)) := by
  have hids : (ids suggestions).Perm (ids others) := h.map _
  have hseen : (firstSeen (ids suggestions)).Perm (firstSeen (ids others)) := by
    rw [List.perm_ext_iff_of_nodup (nodup_firstSeen _) (nodup_firstSeen _)]
    intro id
    rw [mem_firstSeen, mem_firstSeen, hids.mem_iff]
  rw [tallies_mergeAll hone, tallies_mergeAll fun s hs => hone s (h.mem_iff.mpr hs)]
  simp only [hids.count_eq]
  exact hseen.map _

/-! ## What is weighted with the occurrences -/

/-- The sum of a weight of the rules, each taken as often as its suggestion occurs. -/
def weighted (weight : Text → Int) (suggestions : List Suggestion) : Int :=
  (suggestions.map fun s => weight s.rule * s.occurrences).sum

theorem weighted_cons (weight : Text → Int) (s : Suggestion) (rest : List Suggestion) :
    weighted weight (s :: rest) = weight s.rule * s.occurrences + weighted weight rest := by
  rw [weighted, List.map_cons, List.sum_cons, weighted]

theorem weighted_merge (weight : Text → Int) {s : Suggestion} {seen : List Suggestion}
    (hone : s.occurrences = 1) (hsame : ∀ t ∈ seen, t.id = s.id → t.rule = s.rule) :
    weighted weight (merge s seen) = weighted weight seen + weight s.rule := by
  induction seen with
  | nil =>
    rw [merge, weighted_cons, hone, Int.mul_one, Int.add_comm]
  | cons t rest ih =>
    obtain ⟨ht, hrest⟩ := List.forall_mem_cons.mp hsame
    rw [merge]
    by_cases hid : t.id = s.id
    · rw [if_pos hid, weighted_cons, weighted_cons, ← ht hid, Int.mul_add, Int.mul_one]
      exact Int.add_right_comm _ _ _
    · rw [if_neg hid, weighted_cons, weighted_cons, ih hrest, Int.add_assoc]

/-- Merging conserves a weight of the rules if an identifier tells the rule. -/
theorem weighted_mergeAll (weight : Text → Int) {suggestions : List Suggestion}
    (hone : ∀ s ∈ suggestions, s.occurrences = 1)
    (hsame : ∀ s ∈ suggestions, ∀ t ∈ suggestions, s.id = t.id → s.rule = t.rule) :
    weighted weight (mergeAll suggestions) = (suggestions.map fun s => weight s.rule).sum := by
  induction suggestions using List.reverseRecOn with
  | nil => rfl
  | append_singleton suggestions last ih =>
    obtain ⟨hone, hlast⟩ := List.forall_mem_append.mp hone
    have hseen : ∀ t ∈ mergeAll suggestions, t.id = last.id → t.rule = last.rule := by
      intro t ht hid
      obtain ⟨s, hs, count, rfl⟩ := counting_of_mem_mergeAll hone ht
      exact hsame s (List.mem_append_left _ hs) last
        (List.mem_append_right _ List.mem_cons_self) hid
    rw [mergeAll_concat, weighted_merge weight (hlast last List.mem_cons_self) hseen,
      ih hone fun s hs t ht => hsame s (List.mem_append_left _ hs) t (List.mem_append_left _ ht),
      List.map_append, List.sum_append, List.map_singleton, List.sum_singleton]

/-! ## Identifiers -/

section
variable {digest : Text → Text} {examples : Bool}

/-- The end of an identifier has a fixed length, so equal identifiers are of one rule. -/
theorem rule_eq_of_identifier_eq (hdigest : ∀ text, (digest text).length = 32)
    {rule rule' key key' : Text} {template template' : Option Text}
    (h : identifier digest rule key template = identifier digest rule' key' template') :
    rule = rule' := by
  refine (List.append_inj' h ?_).1
  rw [List.length_cons, List.length_cons, List.length_take, List.length_take, hdigest, hdigest]

theorem ofFinding?_of_none {f : Finding} (h : Advice.ofRule? f.rule = none) :
    ofFinding? digest examples f = none := by
  rw [ofFinding?, h]
  rfl

theorem ofFinding?_of_some {f : Finding} {advice : Advice}
    (h : Advice.ofRule? f.rule = some advice) :
    ofFinding? digest examples f = some (ofAdvice digest examples f advice) := by
  rw [ofFinding?, h]
  rfl

/-- The identifier of the suggestion for a finding. -/
def idOf? (digest : Text → Text) (examples : Bool) (f : Finding) : Option Text :=
  (ofFinding? digest examples f).map (·.id)

theorem ofFindings_eq_mergeAll (findings : List Finding) :
    ofFindings digest examples findings =
      mergeAll (findings.filterMap (ofFinding? digest examples)) :=
  rfl

theorem ids_filterMap (findings : List Finding) :
    ids (findings.filterMap (ofFinding? digest examples)) =
      findings.filterMap (idOf? digest examples) :=
  List.map_filterMap

/-- Each suggestion before merging follows an advice on a finding. -/
theorem of_mem_filterMap {findings : List Finding} {s : Suggestion}
    (hs : s ∈ findings.filterMap (ofFinding? digest examples)) :
    ∃ f ∈ findings, ∃ advice, Advice.ofRule? f.rule = some advice ∧
      ofAdvice digest examples f advice = s := by
  obtain ⟨f, hf, hsome⟩ := List.mem_filterMap.mp hs
  exact ⟨f, hf, Option.map_eq_some_iff.mp hsome⟩

theorem occurrences_of_mem_filterMap {findings : List Finding} :
    ∀ s ∈ findings.filterMap (ofFinding? digest examples), s.occurrences = 1 := by
  intro s hs
  obtain ⟨f, -, advice, -, rfl⟩ := of_mem_filterMap hs
  rfl

theorem rule_eq_of_id_eq (hdigest : ∀ text, (digest text).length = 32) {findings : List Finding} :
    ∀ s ∈ findings.filterMap (ofFinding? digest examples),
      ∀ t ∈ findings.filterMap (ofFinding? digest examples), s.id = t.id → s.rule = t.rule := by
  intro s hs t ht hid
  obtain ⟨f, -, advice, -, rfl⟩ := of_mem_filterMap hs
  obtain ⟨g, -, advice', -, rfl⟩ := of_mem_filterMap ht
  exact rule_eq_of_identifier_eq hdigest hid

theorem count_filterMap_idOf? (id : Text) (findings : List Finding) :
    (findings.filterMap (idOf? digest examples)).count id =
      findings.countP fun f => idOf? digest examples f = some id := by
  rw [List.count_eq_countP, List.countP_filterMap]
  refine List.countP_congr fun f _ => ?_
  cases h : idOf? digest examples f <;> simp

/-- A suggestion is that of the first finding with its identifier, with the number of all. -/
theorem mem_ofFindings {findings : List Finding} {t : Suggestion}
    (ht : t ∈ ofFindings digest examples findings) :
    ∃ f s, findings.find? (fun f => idOf? digest examples f = some t.id) = some f ∧
      ofFinding? digest examples f = some s ∧
      t = counting (findings.countP fun f => idOf? digest examples f = some t.id) s := by
  obtain ⟨s, hfind, heq⟩ := mergeAll_spec occurrences_of_mem_filterMap ht
  rw [List.find?_filterMap, Option.bind_eq_some_iff] at hfind
  obtain ⟨f, hf, hs⟩ := hfind
  have hany : (fun f => (ofFinding? digest examples f).any fun s => s.id = t.id) =
      fun f => decide (idOf? digest examples f = some t.id) := by
    funext f
    cases h : ofFinding? digest examples f <;> simp [idOf?, h]
  rw [hany] at hf
  refine ⟨f, s, hf, hs, ?_⟩
  rw [ids_filterMap, count_filterMap_idOf?] at heq
  exact heq

/-- All occurrences together are as many as the findings that there is advice on. -/
theorem sum_occurrences (hdigest : ∀ text, (digest text).length = 32) (findings : List Finding) :
    ((ofFindings digest examples findings).map fun s => s.occurrences).sum =
      findings.countP fun f => (Advice.ofRule? f.rule).isSome := by
  have hone : (ofFindings digest examples findings).map (fun s => s.occurrences) =
      (ofFindings digest examples findings).map fun s => 1 * s.occurrences :=
    List.map_congr_left fun s _ => (Int.one_mul _).symm
  have hlength : (findings.filterMap (ofFinding? digest examples)).length =
      findings.countP fun f => (Advice.ofRule? f.rule).isSome := by
    rw [List.length_filterMap_eq_countP]
    simp only [ofFinding?, Option.isSome_map]
  rw [hone]
  calc weighted (fun _ => 1) (ofFindings digest examples findings)
      = ((findings.filterMap (ofFinding? digest examples)).map fun _ => (1 : Int)).sum :=
        weighted_mergeAll _ occurrences_of_mem_filterMap (rule_eq_of_id_eq hdigest)
    _ = findings.countP fun f => (Advice.ofRule? f.rule).isSome := by
        rw [List.map_const', List.sum_replicate_int, hlength, Int.mul_one]

/-! ## The time that is saved -/

/-- The time that the table promises for a rule, if its category is one of some. -/
def savedIn (categories : List Category) (rule : Text) : Int :=
  match Advice.ofRule? rule with
  | some advice => if advice.category ∈ categories then advice.savedMs else 0
  | none => 0

theorem savedIn_of_some {categories : List Category} {rule : Text} {advice : Advice}
    (h : Advice.ofRule? rule = some advice) :
    savedIn categories rule =
      if advice.category ∈ categories then (advice.savedMs : Int) else 0 := by
  rw [savedIn, h]

/-- Following the table, the suggestions of some categories save what their rules promise. -/
theorem totalSaved_filter (categories : List Category) {suggestions : List Suggestion}
    (h : ∀ s ∈ suggestions, ∃ advice, Advice.ofRule? s.rule = some advice ∧
      s.category = advice.category ∧ s.savedMs = advice.savedMs) :
    SuggestionStatistics.totalSaved (suggestions.filter fun s => s.category ∈ categories) =
      weighted (savedIn categories) suggestions := by
  induction suggestions with
  | nil => rfl
  | cons s rest ih =>
    obtain ⟨⟨advice, hrule, hcategory, hsaved⟩, hrest⟩ := List.forall_mem_cons.mp h
    rw [weighted_cons, savedIn_of_some hrule, ← hcategory, ← hsaved, List.filter_cons]
    by_cases hmem : s.category ∈ categories
    · rw [if_pos (decide_eq_true hmem), if_pos hmem, SuggestionStatistics.totalSaved, ih hrest]
    · rw [if_neg (by simpa using hmem), if_neg hmem, Int.zero_mul, Int.zero_add, ih hrest]

theorem sum_savedIn (categories : List Category) (findings : List Finding) :
    ((findings.filterMap (ofFinding? digest examples)).map fun s =>
        savedIn categories s.rule).sum =
      (findings.map fun f => savedIn categories f.rule).sum := by
  induction findings with
  | nil => rfl
  | cons f rest ih =>
    rw [List.map_cons, List.sum_cons, ← ih]
    cases h : Advice.ofRule? f.rule with
    | none =>
      rw [List.filterMap_cons_none (ofFinding?_of_none h), savedIn, h]
      exact (Int.zero_add _).symm
    | some advice =>
      rw [List.filterMap_cons_some (ofFinding?_of_some h), List.map_cons, List.sum_cons]
      rfl

theorem totalSaved_ofFindings (hdigest : ∀ text, (digest text).length = 32)
    (categories : List Category) (findings : List Finding) :
    SuggestionStatistics.totalSaved
        ((ofFindings digest examples findings).filter fun s => s.category ∈ categories) =
      (findings.map fun f => savedIn categories f.rule).sum := by
  rw [totalSaved_filter, ofFindings_eq_mergeAll,
    weighted_mergeAll _ occurrences_of_mem_filterMap (rule_eq_of_id_eq hdigest), sum_savedIn]
  intro t ht
  obtain ⟨s, hs, count, rfl⟩ := counting_of_mem_mergeAll occurrences_of_mem_filterMap ht
  obtain ⟨f, -, advice, hrule, rfl⟩ := of_mem_filterMap hs
  exact ⟨advice, hrule, rfl, rfl⟩

/-! ## What is conserved -/

/-- Suggestions lose and invent nothing. -/
structure Conserves (digest : Text → Text) (examples : Bool) (findings : List Finding) : Prop where
  /-- No identifier occurs twice. -/
  nodup : (ids (ofFindings digest examples findings)).Nodup
  /-- The identifiers are those of the findings, in the order in which they came first. -/
  order : ids (ofFindings digest examples findings) =
    firstSeen (findings.filterMap (idOf? digest examples))
  /-- A suggestion is that of the first finding with its identifier, with the number of all. -/
  first : ∀ t ∈ ofFindings digest examples findings, ∃ f s,
    findings.find? (fun f => idOf? digest examples f = some t.id) = some f ∧
      ofFinding? digest examples f = some s ∧
      t = counting (findings.countP fun f => idOf? digest examples f = some t.id) s
  /-- Every finding that there is advice on counts once. -/
  occurrences : ((ofFindings digest examples findings).map fun s => s.occurrences).sum =
    findings.countP fun f => (Advice.ofRule? f.rule).isSome
  /-- How often each identifier occurs does not depend on the order of the findings. -/
  perm : ∀ others, findings.Perm others →
    (tallies (ofFindings digest examples findings)).Perm
      (tallies (ofFindings digest examples others))
  /-- A plan saves the time of all findings of its focus, whatever else it is asked for. -/
  saved : ∀ (o : PlanOptions) (templatesAnalyzed : Int) (skipped : List SkippedFile),
    (Plan.ofFindings digest o templatesAnalyzed skipped findings).statistics.savedMs =
      (findings.map fun f => savedIn o.focus.categories f.rule).sum

/-- **Merging conserves.**  Whatever texts of 32 characters the digest gives, also the same ones for
different findings, the suggestions lose and invent nothing. -/
theorem ofFindings_conserves (hdigest : ∀ text, (digest text).length = 32) (examples : Bool)
    (findings : List Finding) : Conserves digest examples findings where
  nodup := by
    rw [ofFindings_eq_mergeAll, ids_mergeAll]
    exact nodup_firstSeen _
  order := by
    rw [ofFindings_eq_mergeAll, ids_mergeAll, ids_filterMap]
  first := fun _ => mem_ofFindings
  occurrences := sum_occurrences hdigest findings
  perm := fun others h =>
    tallies_mergeAll_perm occurrences_of_mem_filterMap (h.filterMap _)
  saved := fun o _ _ => totalSaved_ofFindings hdigest o.focus.categories findings

/-- The digest of the program, and one that gives the same text for everything. -/
theorem ofFindings_conserves_digest :
    Conserves Text.digest true
        [{ rule := "http_calls", category := .policy, severity := .error, line := 1,
           message := "one" },
          { rule := "other", category := .policy, severity := .error, line := 2,
            message := "two" }] ∧
      Conserves (fun _ => List.replicate 32 '0') false
        [{ rule := "http_calls", category := .policy, severity := .error, line := 1,
           message := "one" },
          { rule := "http_calls", category := .policy, severity := .error, line := 3,
            message := "three" }] :=
  ⟨ofFindings_conserves Text.length_digest true _, ofFindings_conserves (fun _ => rfl) false _⟩

end

end Suggestion
end TemplateLint
