import TemplateLint.Proofs.Suggestion.Merged

/-!
# The layout of a plan

Suggestions are sorted by the product of two weights, and a roadmap goes by phases.  The phase of a
suggestion can be read off its rank (`Suggestion.order_phase`), so suggestions that are sorted by
rank come phase by phase, also where the list is cut (`Suggestion.eq_append_of_phases`).  The table
of categories groups the suggestions (`categorize_eq`).  Together these say how a plan is laid out
(`Plan.ofFindings_laidOut`).
-/
namespace TemplateLint

/-! ## Phases -/

/-- The place of a phase in the roadmap. -/
def Phase.order : Phase → Nat
  | immediate => 0
  | shortTerm => 1
  | longTerm => 2

namespace Suggestion

/-- The phase can be read off the rank. -/
theorem order_phase (s : Suggestion) :
    s.phase.order = if 9 ≤ s.rank then 0 else if 6 ≤ s.rank then 1 else 2 := by
  rw [phase, rank]
  cases s.impact <;> cases s.effort <;> rfl

/-- A suggestion of a higher rank has no later phase. -/
theorem order_phase_le {s t : Suggestion} (h : t.rank ≤ s.rank) :
    s.phase.order ≤ t.phase.order := by
  rw [order_phase, order_phase]
  by_cases hfirst : 9 ≤ s.rank
  · rw [if_pos hfirst]
    exact Nat.zero_le _
  · have ht : ¬ 9 ≤ t.rank := by omega
    rw [if_neg hfirst, if_neg ht]
    by_cases hsecond : 6 ≤ s.rank
    · rw [if_pos hsecond]
      split <;> omega
    · have ht' : ¬ 6 ≤ t.rank := by omega
      rw [if_neg hsecond, if_neg ht']

theorem phase_eq_immediate_iff (s : Suggestion) :
    s.phase = .immediate ↔ s.impact = .high ∧ s.effort = .low := by
  rw [phase]
  cases s.impact <;> cases s.effort <;> decide

theorem phase_eq_shortTerm_iff (s : Suggestion) :
    s.phase = .shortTerm ↔
      s.impact = .high ∧ s.effort = .medium ∨ s.impact = .medium ∧ s.effort = .low := by
  rw [phase]
  cases s.impact <;> cases s.effort <;> decide

/-- The suggestions of a phase. -/
def ofPhase (suggestions : List Suggestion) (phase : Phase) : List Suggestion :=
  suggestions.filter fun s => s.phase = phase

theorem ofPhase_cons_self (s : Suggestion) (rest : List Suggestion) :
    ofPhase (s :: rest) s.phase = s :: ofPhase rest s.phase :=
  List.filter_cons_of_pos (decide_eq_true rfl)

theorem ofPhase_cons_of_ne {s : Suggestion} {phase : Phase} (h : s.phase ≠ phase)
    (rest : List Suggestion) : ofPhase (s :: rest) phase = ofPhase rest phase :=
  List.filter_cons_of_neg (by simpa using h)

/-- No suggestion is of a phase that all have passed. -/
theorem ofPhase_eq_nil {suggestions : List Suggestion} {phase : Phase}
    (h : ∀ s ∈ suggestions, phase.order < s.phase.order) : ofPhase suggestions phase = [] := by
  refine List.filter_eq_nil_iff.mpr fun s hs heq => ?_
  have hlt := h s hs
  rw [of_decide_eq_true heq] at hlt
  exact Nat.lt_irrefl _ hlt

/-- Suggestions whose phases come in order are those of each phase, one phase after another. -/
theorem eq_append_of_phases {suggestions : List Suggestion}
    (h : suggestions.Pairwise fun s t => s.phase.order ≤ t.phase.order) :
    suggestions = ofPhase suggestions .immediate ++ ofPhase suggestions .shortTerm ++
      ofPhase suggestions .longTerm := by
  induction suggestions with
  | nil => rfl
  | cons s rest ih =>
    obtain ⟨hs, hrest⟩ := List.pairwise_cons.mp h
    have hcut := ih hrest
    have hpassed : ∀ phase : Phase, phase.order < s.phase.order → ofPhase rest phase = [] :=
      fun phase hphase => ofPhase_eq_nil fun t ht => Nat.lt_of_lt_of_le hphase (hs t ht)
    have hself := ofPhase_cons_self s rest
    have hother : ∀ phase, s.phase ≠ phase → ofPhase (s :: rest) phase = ofPhase rest phase :=
      fun phase hne => ofPhase_cons_of_ne hne rest
    cases hphase : s.phase with
    | immediate =>
      rw [hphase] at hself hother
      rw [hself, hother .shortTerm (by decide), hother .longTerm (by decide), List.cons_append,
        List.cons_append, ← hcut]
    | shortTerm =>
      rw [hphase] at hself hother hpassed
      rw [hpassed .immediate (by decide)] at hcut
      rw [hself, hother .immediate (by decide), hother .longTerm (by decide),
        hpassed .immediate (by decide), List.nil_append, List.cons_append]
      exact congrArg (s :: ·) hcut
    | longTerm =>
      rw [hphase] at hself hother hpassed
      rw [hpassed .immediate (by decide), hpassed .shortTerm (by decide)] at hcut
      rw [hself, hother .immediate (by decide), hother .shortTerm (by decide),
        hpassed .immediate (by decide), hpassed .shortTerm (by decide), List.nil_append,
        List.nil_append]
      exact congrArg (s :: ·) hcut

/-- What is shown is a part of what there is, in the same order. -/
theorem upTo_sublist (limit : Option Int) (suggestions : List Suggestion) :
    (upTo limit suggestions).Sublist suggestions := by
  rcases limit with _ | n | n
  · exact List.Sublist.refl _
  · exact List.take_sublist _ _
  · exact List.take_sublist _ _

theorem sortByRank_pairwise (suggestions : List Suggestion) :
    (sortByRank suggestions).Pairwise fun s t => t.rank ≤ s.rank := by
  have hsorted := List.pairwise_mergeSort (descending_trans Suggestion.rank)
    (descending_total Suggestion.rank) suggestions
  refine hsorted.imp ?_
  intro s t hst
  exact of_decide_eq_true hst

/-- Ranked suggestions come phase by phase, also where the list is cut. -/
theorem ranked_phases (limit : Option Int) (suggestions : List Suggestion) :
    (ranked limit suggestions).Pairwise fun s t => s.phase.order ≤ t.phase.order := by
  refine List.Pairwise.sublist (upTo_sublist limit _) ?_
  exact (sortByRank_pairwise suggestions).imp fun hst => order_phase_le hst

end Suggestion

/-! ## The roadmap -/

/-- Counting along while there are fewer than a limit takes that many. -/
theorem filter_zipIdx_lt {α : Type} (limit start : Nat) (l : List α) :
    ((l.zipIdx start).filter fun x => (Number.int x.2).lt (.int limit)).map (·.1) =
      l.take (limit - start) := by
  induction l generalizing start with
  | nil => rw [List.take_nil]; rfl
  | cons a l ih =>
    rw [List.zipIdx_cons, List.filter_cons]
    by_cases h : start < limit
    · have hlt : (Number.int start).lt (.int limit) = true :=
        decide_eq_true (Int.ofNat_lt.mpr h)
      have hleft : limit - start = limit - (start + 1) + 1 := by omega
      rw [if_pos hlt, List.map_cons, ih, hleft, List.take_succ_cons]
    · have hlt : ¬ (Number.int start).lt (.int limit) = true := fun hlt =>
        h (Int.ofNat_lt.mp (of_decide_eq_true hlt))
      have hnone : limit - start = 0 := by omega
      have hnext : limit - (start + 1) = 0 := by omega
      rw [if_neg hlt, ih, hnone, hnext, List.take_zero, List.take_zero]

/-- The titles of a phase are those of its first suggestions. -/
theorem Roadmap.titles_eq (suggestions : List Suggestion) (phase : Phase) :
    titles defaultLimit suggestions phase =
      ((Suggestion.ofPhase suggestions phase).take 5).map (·.title) := by
  rw [List.map_take]
  exact filter_zipIdx_lt 5 0 _

/-! ## Categories -/

/-- The table of categories groups the suggestions by their categories. -/
theorem categorize_eq (suggestions : List Suggestion) :
    categorize suggestions = (firstSeen (suggestions.map (·.category.name))).map fun name =>
      (name, suggestions.filter fun s => s.category.name = name) := by
  have hgroup := Entries.foldl_update (fun s : Suggestion => s.category.name) []
    (fun (group : List Suggestion) s => group ++ [s]) suggestions
  refine Eq.trans hgroup (List.map_congr_left fun name _ => ?_)
  rw [List.foldl_append_eq_append, List.nil_append, ← List.flatMap_def, List.flatMap_singleton']

/-- Every category is listed once. -/
theorem nodup_categorize (suggestions : List Suggestion) : (categorize suggestions).keys.Nodup := by
  have hkeys : (categorize suggestions).keys = firstSeen (suggestions.map (·.category.name)) := by
    rw [categorize_eq, Entries.keys, List.map_map]
    exact List.map_id _
  rw [hkeys]
  exact nodup_firstSeen _

/-- Different suggestions have a place each: a suggestion stands in the list of its category once, and
in no other. -/
theorem mem_categorize_once {suggestions : List Suggestion} (hnodup : suggestions.Nodup)
    {s : Suggestion} (hs : s ∈ suggestions) :
    ∃ listed, (s.category.name, listed) ∈ categorize suggestions ∧ listed.count s = 1 ∧
      ∀ entry ∈ categorize suggestions, s ∈ entry.2 → entry = (s.category.name, listed) := by
  rw [categorize_eq]
  refine ⟨suggestions.filter fun t => t.category.name = s.category.name, ?_, ?_, ?_⟩
  · refine List.mem_map.mpr ⟨s.category.name, ?_, rfl⟩
    exact mem_firstSeen.mpr (List.mem_map_of_mem hs)
  · have hcount := List.count_filter (p := fun t : Suggestion => t.category.name = s.category.name)
      (a := s) (l := suggestions) (decide_eq_true rfl)
    rw [hcount]
    exact List.count_eq_one_of_mem hnodup hs
  · intro entry hentry hmem
    obtain ⟨name, -, rfl⟩ := List.mem_map.mp hentry
    have hname : s.category.name = name := of_decide_eq_true (List.mem_filter.mp hmem).2
    rw [hname]

namespace Plan

/-- The suggestions of a focus, in the order in which they came first. -/
def selected (digest : Text → Text) (focus : Focus) (examples : Bool) (findings : List Finding) :
    List Suggestion :=
  (Suggestion.ofFindings digest examples findings).filter fun s => s.category ∈ focus.categories

theorem nodup_selected (digest : Text → Text) (focus : Focus) (examples : Bool)
    (findings : List Finding) : (selected digest focus examples findings).Nodup := by
  have hids : (Suggestion.ids (Suggestion.ofFindings digest examples findings)).Nodup := by
    rw [Suggestion.ofFindings_eq_mergeAll, Suggestion.ids_mergeAll]
    exact nodup_firstSeen _
  exact (List.Nodup.of_map _ hids).filter _

/-- What is shown is cut into the phases of the roadmap, which tells the first titles of each. -/
def SplitsByPhase (p : Plan) : Prop :=
  ∃ now soon later, p.suggestions = now ++ soon ++ later ∧
    (∀ s ∈ now, s.impact = .high ∧ s.effort = .low) ∧
    (∀ s ∈ soon, s.impact = .high ∧ s.effort = .medium ∨ s.impact = .medium ∧ s.effort = .low) ∧
    (∀ s ∈ later, ¬ (s.impact = .high ∧ s.effort = .low) ∧
      ¬ (s.impact = .high ∧ s.effort = .medium ∨ s.impact = .medium ∧ s.effort = .low)) ∧
    p.roadmap.immediate = (now.take 5).map (·.title) ∧
    p.roadmap.shortTerm = (soon.take 5).map (·.title) ∧
    p.roadmap.longTerm = (later.take 5).map (·.title)

/-- A plan whose suggestions come phase by phase is cut into the phases. -/
theorem splitsByPhase_of_pairwise {p : Plan}
    (hroadmap : p.roadmap = Roadmap.ofSuggestions Roadmap.defaultLimit p.suggestions)
    (h : p.suggestions.Pairwise fun s t => s.phase.order ≤ t.phase.order) : p.SplitsByPhase := by
  have hphase : ∀ phase, ∀ s ∈ Suggestion.ofPhase p.suggestions phase, s.phase = phase :=
    fun phase s hs => of_decide_eq_true (List.mem_filter.mp hs).2
  refine ⟨_, _, _, Suggestion.eq_append_of_phases h, ?_, ?_, ?_, ?_, ?_, ?_⟩
  · intro s hs
    exact s.phase_eq_immediate_iff.mp (hphase .immediate s hs)
  · intro s hs
    exact s.phase_eq_shortTerm_iff.mp (hphase .shortTerm s hs)
  · intro s hs
    rw [← Suggestion.phase_eq_immediate_iff, ← Suggestion.phase_eq_shortTerm_iff,
      hphase .longTerm s hs]
    decide
  · rw [hroadmap]
    exact Roadmap.titles_eq _ _
  · rw [hroadmap]
    exact Roadmap.titles_eq _ _
  · rw [hroadmap]
    exact Roadmap.titles_eq _ _

/-- How the plans for some findings are laid out, whatever is shown of the focus. -/
structure LaidOut (digest : Text → Text) (focus : Focus) (examples : Bool)
    (findings : List Finding) (plan : Bool → Option Int → Plan) : Prop where
  /-- The statistics and the categories do not depend on what is shown. -/
  covers : ∀ prioritize limit prioritize' limit',
    (plan prioritize limit).statistics = (plan prioritize' limit').statistics ∧
      (plan prioritize limit).categories = (plan prioritize' limit').categories
  /-- No category is listed twice. -/
  names : ∀ prioritize limit, (plan prioritize limit).categories.keys.Nodup
  /-- Every suggestion of the focus is in the list of one category, and there once. -/
  once : ∀ prioritize limit, ∀ s ∈ selected digest focus examples findings,
    ∃ listed, (s.category.name, listed) ∈ (plan prioritize limit).categories ∧
      listed.count s = 1 ∧ ∀ entry ∈ (plan prioritize limit).categories, s ∈ entry.2 →
        entry = (s.category.name, listed)
  /-- The list of a category is a part of the focus in the order of discovery. -/
  order : ∀ prioritize limit, ∀ entry ∈ (plan prioritize limit).categories,
    entry.2.Sublist (selected digest focus examples findings)
  /-- What is shown first is what ranks first. -/
  shown : ∀ limit, ∃ ranked, ranked.Perm (selected digest focus examples findings) ∧
    (ranked.Pairwise fun s t => t.rank ≤ s.rank) ∧
      (plan true limit).suggestions = Suggestion.upTo limit ranked
  phases : ∀ limit, (plan true limit).SplitsByPhase

/-- **The layout of a plan.**  Statistics and categories cover the whole focus, every suggestion is in
one category, and what is shown by priority is cut into the phases of the roadmap. -/
theorem ofFindings_laidOut (digest : Text → Text) (focus : Focus) (examples : Bool)
    (templatesAnalyzed : Int) (skipped : List SkippedFile) (findings : List Finding) :
    LaidOut digest focus examples findings fun prioritize limit =>
      ofFindings digest ⟨focus, examples, prioritize, limit⟩ templatesAnalyzed skipped findings where
  covers := fun _ _ _ _ => ⟨rfl, rfl⟩
  names := by
    intro prioritize limit
    exact nodup_categorize (selected digest focus examples findings)
  once := by
    intro prioritize limit s hs
    exact mem_categorize_once (nodup_selected digest focus examples findings) hs
  order := by
    intro prioritize limit entry hentry
    have hgrouped : entry ∈ categorize (selected digest focus examples findings) := hentry
    rw [categorize_eq] at hgrouped
    obtain ⟨name, -, rfl⟩ := List.mem_map.mp hgrouped
    exact List.filter_sublist
  shown := by
    intro limit
    refine ⟨Suggestion.sortByRank (selected digest focus examples findings), ?_, ?_, rfl⟩
    · exact List.mergeSort_perm _ _
    · exact Suggestion.sortByRank_pairwise _
  phases := by
    intro limit
    exact splitsByPhase_of_pairwise rfl (Suggestion.ranked_phases limit _)

end Plan
end TemplateLint
