import Mathlib.Order.Bounds.Basic
import Mathlib.Data.List.Perm.Subperm
import TemplateLint.Proofs.Block.Spans

/-!
# Nests of loops

A nest is a loop that lies in no other one, with the loops inside it.  Every loop that lies in another
one lies in an outermost one, since containment is transitive and the loop around it that starts first
lies in none (`LoopNest.exists_outermost`).  The depth of a nest is read off the number of loops around
each loop inside it.  Where no two loops cross, the loops around a loop contain each other in the order
in which they start, so they are a chain from the outermost one on, and no chain is longer
(`LoopNest.depth_isGreatest`).
-/
namespace TemplateLint
namespace LoopNest

open Block

variable {loops : List Block} {b c : Block} {nest : LoopNest}

/-- A loop lies in no other loop and has one inside. -/
def IsOutermost (loops : List Block) (b : Block) : Prop :=
  (∀ c ∈ loops, ¬ c.contains b = true) ∧ ∃ c ∈ loops, b.contains c = true

instance (loops : List Block) (b : Block) : Decidable (IsOutermost loops b) :=
  inferInstanceAs (Decidable (_ ∧ _))

/-- Loops from a given one on, of which each contains the next. -/
structure ChainFrom (loops : List Block) (b : Block) (chain : List Block) : Prop where
  first : chain.head? = some b
  mem : ∀ c ∈ chain, c ∈ loops
  nested : chain.IsChain fun outer inner => outer.contains inner = true

/-- The lengths of the chains from a loop on. -/
def chainLengths (loops : List Block) (b : Block) : Set Nat :=
  {n | ∃ chain, ChainFrom loops b chain ∧ chain.length = n}

/-- A loop with the loops inside it. -/
def ofOuter (loops : List Block) (outer : Block) : LoopNest :=
  let inner := loops.filter (outer.contains ·)
  ⟨outer, inner, 1 + (inner.map (around loops)).foldl max 0⟩

/-! ## The nests of some loops -/

theorem ofLoop?_eq (loops : List Block) (b : Block) :
    ofLoop? loops b = if IsOutermost loops b then some (ofOuter loops b) else none := by
  have hany : loops.any (·.contains b) = true ↔ ¬ ∀ c ∈ loops, ¬ c.contains b = true := by simp
  unfold ofLoop?
  by_cases hout : ∀ c ∈ loops, ¬ c.contains b = true
  · rw [if_neg fun h => hany.mp h hout]
    cases hinner : loops.filter (b.contains ·) with
    | nil =>
      rw [if_neg]
      rintro ⟨-, c, hc, hcontains⟩
      have hmem := List.mem_filter.mpr ⟨hc, hcontains⟩
      rw [hinner] at hmem
      cases hmem
    | cons c more =>
      have hmem : c ∈ loops.filter (b.contains ·) := hinner ▸ List.mem_cons_self
      rw [if_pos ⟨hout, c, List.mem_filter.mp hmem⟩, ofOuter, hinner]
  · rw [if_pos (hany.mpr hout), if_neg fun h => hout h.1]

/-- Each loop that lies in no other and has one inside makes a nest. -/
theorem ofLoops_eq (loops : List Block) :
    ofLoops loops = (loops.filter fun b => decide (IsOutermost loops b)).map (ofOuter loops) := by
  rw [ofLoops, ← List.filterMap_eq_filter, List.map_filterMap]
  refine List.filterMap_congr fun b _ => ?_
  rw [ofLoop?_eq]
  by_cases hout : IsOutermost loops b
  · simp [Option.guard, hout]
  · simp [Option.guard, hout]

theorem mem_ofLoops_iff :
    nest ∈ ofLoops loops ↔ ∃ b ∈ loops, IsOutermost loops b ∧ ofOuter loops b = nest := by
  simp only [ofLoops_eq, List.mem_map, List.mem_filter, decide_eq_true_eq, and_assoc]

theorem mem_inner_iff {outer : Block} :
    b ∈ (ofOuter loops outer).inner ↔ b ∈ loops ∧ outer.contains b = true :=
  List.mem_filter

/-! ## Outermost loops -/

/-- A loop that lies in another one lies in an outermost one. -/
theorem exists_outermost (hc : c ∈ loops) (hb : b ∈ loops) (hcontains : c.contains b = true) :
    ∃ outer ∈ loops, IsOutermost loops outer ∧ outer.contains b = true := by
  -- a loop around it that lies in another one is replaced by that one, which starts earlier
  induction hstart : c.start using Nat.strongRecOn generalizing c with
  | ind start ih =>
    subst hstart
    by_cases hout : ∀ d ∈ loops, ¬ d.contains c = true
    · exact ⟨c, hc, ⟨hout, b, hb, hcontains⟩, hcontains⟩
    · push Not at hout
      obtain ⟨d, hd, hdc⟩ := hout
      exact ih d.start (contains_iff.mp hdc).1 hd (contains_trans hdc hcontains) rfl

/-- Where no two loops cross, a loop lies in one outermost loop only. -/
theorem IsOutermost.unique (harranged : Arranged loops) (hnone : NoneCross loops) (hb : b ∈ loops)
    {outer outer' : Block} (hmem : outer ∈ loops) (hmem' : outer' ∈ loops)
    (hout : IsOutermost loops outer) (hout' : IsOutermost loops outer')
    (hcontains : outer.contains b = true) (hcontains' : outer'.contains b = true) :
    outer = outer' := by
  have hspan := harranged.start_lt_stop hb
  rcases (hnone outer hmem outer' hmem').of_covers (covers_of_contains hspan hcontains)
    (covers_of_contains hspan hcontains') with heq | h | h
  · exact heq
  · exact absurd h (hout'.1 outer hmem)
  · exact absurd h (hout.1 outer' hmem')

/-! ## Depth -/

/-- The loops around a loop. -/
def surrounding (loops : List Block) (b : Block) : List Block := loops.filter (·.contains b)

theorem mem_surrounding_iff : c ∈ surrounding loops b ↔ c ∈ loops ∧ c.contains b = true :=
  List.mem_filter

theorem around_eq (loops : List Block) (b : Block) : around loops b = (surrounding loops b).length :=
  List.countP_eq_length_filter

theorem foldl_max_spec {l : List Nat} (h : l ≠ []) :
    l.foldl max 0 ∈ l ∧ ∀ n ∈ l, n ≤ l.foldl max 0 := by
  refine List.max?_eq_some_iff.mp ?_
  cases l with
  | nil => exact absurd rfl h
  | cons n l => rw [List.max?_cons', List.foldl_cons, Nat.zero_max]

/-- The depth of a nest is one more than the greatest number of loops around a loop inside it. -/
theorem depth_spec {outer : Block} (hout : IsOutermost loops outer) :
    (∃ b ∈ (ofOuter loops outer).inner, (ofOuter loops outer).depth = 1 + around loops b) ∧
      ∀ b ∈ (ofOuter loops outer).inner, 1 + around loops b ≤ (ofOuter loops outer).depth := by
  obtain ⟨b, hb, hcontains⟩ := hout.2
  have hne : (ofOuter loops outer).inner.map (around loops) ≠ [] :=
    List.ne_nil_of_mem (List.mem_map_of_mem (mem_inner_iff.mpr ⟨hb, hcontains⟩))
  obtain ⟨hmem, hle⟩ := foldl_max_spec hne
  obtain ⟨c, hc, heq⟩ := List.mem_map.mp hmem
  exact ⟨⟨c, hc, congrArg (1 + ·) heq.symm⟩,
    fun d hd => Nat.add_le_add_left (hle _ (List.mem_map_of_mem hd)) 1⟩

instance : Trans (fun b c : Block => b.contains c = true) (fun b c => b.contains c = true)
    fun b c => b.contains c = true :=
  ⟨contains_trans⟩

/-- No chain from an outer loop on is longer than its nest is deep. -/
theorem ChainFrom.length_le {outer : Block} (hout : IsOutermost loops outer) {chain : List Block}
    (h : ChainFrom loops outer chain) : chain.length ≤ (ofOuter loops outer).depth := by
  have hpairwise := List.isChain_iff_pairwise.mp h.nested
  rcases List.eq_nil_or_concat' chain with rfl | ⟨front, last, rfl⟩
  · exact Nat.zero_le _
  · obtain ⟨hfront, -, hlast⟩ := List.pairwise_append.mp hpairwise
    cases front with
    | nil => exact Nat.le_add_right 1 _
    | cons first front =>
      obtain rfl : first = outer := Option.some.inj h.first
      have hcontains : ∀ c ∈ first :: front, c.contains last = true :=
        fun c hc => hlast c hc last List.mem_cons_self
      have hinner : last ∈ (ofOuter loops first).inner :=
        mem_inner_iff.mpr ⟨h.mem last (by simp), hcontains first List.mem_cons_self⟩
      have hnodup : (first :: front).Nodup := by
        refine hfront.imp fun hab he => ?_
        rw [he, contains_iff] at hab
        omega
      have hsub : first :: front ⊆ surrounding loops last := fun c hc =>
        mem_surrounding_iff.mpr ⟨h.mem c (List.mem_append_left _ hc), hcontains c hc⟩
      have hle := (hnodup.subperm hsub).length_le
      have hdepth := (depth_spec hout).2 last hinner
      rw [around_eq] at hdepth
      rw [List.length_append]
      simp only [List.length_singleton]
      omega

/-- Where no two loops cross, of the loops around a loop each contains those that start later. -/
theorem surrounding_pairwise (harranged : Arranged loops) (hnone : NoneCross loops) (hb : b ∈ loops) :
    (surrounding loops b).Pairwise fun outer inner => outer.contains inner = true := by
  have hspan := harranged.start_lt_stop hb
  refine (harranged.increasing.sublist List.filter_sublist).imp_of_mem ?_
  intro c d hc hd hlt
  obtain ⟨hc, hcb⟩ := mem_surrounding_iff.mp hc
  obtain ⟨hd, hdb⟩ := mem_surrounding_iff.mp hd
  rcases (hnone c hc d hd).of_covers (covers_of_contains hspan hcb) (covers_of_contains hspan hdb)
    with rfl | h | h
  · exact absurd hlt (Nat.lt_irrefl _)
  · exact h
  · exact absurd hlt (Nat.lt_asymm (contains_iff.mp h).1)

/-- Where no two loops cross, the loops around a loop in a nest are a chain from the outer loop on. -/
theorem chainFrom_surrounding (harranged : Arranged loops) (hnone : NoneCross loops) {outer : Block}
    (hmem : outer ∈ loops) (hout : IsOutermost loops outer) (hb : b ∈ loops)
    (hcontains : outer.contains b = true) :
    ChainFrom loops outer (surrounding loops b ++ [b]) := by
  have hpairwise := surrounding_pairwise harranged hnone hb
  have houter : outer ∈ surrounding loops b := mem_surrounding_iff.mpr ⟨hmem, hcontains⟩
  refine ⟨?_, ?_, ?_⟩
  · cases hfirst : surrounding loops b with
    | nil =>
      rw [hfirst] at houter
      cases houter
    | cons first rest =>
      rw [hfirst] at houter hpairwise
      rcases List.mem_cons.mp houter with rfl | hrest
      · rfl
      · have hfirst' : first ∈ surrounding loops b := hfirst ▸ List.mem_cons_self
        exact absurd ((List.pairwise_cons.mp hpairwise).1 outer hrest)
          (hout.1 first (mem_surrounding_iff.mp hfirst').1)
  · intro c hc
    rcases List.mem_append.mp hc with hc | hc
    · exact (mem_surrounding_iff.mp hc).1
    · exact List.mem_singleton.mp hc ▸ hb
  · refine List.Pairwise.isChain (List.pairwise_append.mpr ⟨hpairwise, List.pairwise_singleton _ b, ?_⟩)
    intro c hc d hd
    exact List.mem_singleton.mp hd ▸ (mem_surrounding_iff.mp hc).2

/-- Where no two loops cross, a nest is as deep as the longest chain from its outer loop on. -/
theorem depth_isGreatest (harranged : Arranged loops) (hnone : NoneCross loops) {outer : Block}
    (hmem : outer ∈ loops) (hout : IsOutermost loops outer) :
    IsGreatest (chainLengths loops outer) (ofOuter loops outer).depth := by
  constructor
  · obtain ⟨b, hb, hdepth⟩ := (depth_spec hout).1
    obtain ⟨hb, hcontains⟩ := mem_inner_iff.mp hb
    refine ⟨_, chainFrom_surrounding harranged hnone hmem hout hb hcontains, ?_⟩
    rw [hdepth, around_eq, List.length_append, Nat.add_comm]
    rfl
  · rintro n ⟨chain, hchain, rfl⟩
    exact hchain.length_le hout

/-! ## The nests of a text -/

/-- Where no two loops cross, a loop that lies in another one is inside one nest. -/
theorem exists_filter_eq_singleton (harranged : Arranged loops) (hnone : NoneCross loops)
    (hc : c ∈ loops) (hb : b ∈ loops) (hcontains : c.contains b = true) :
    ∃ nest, (ofLoops loops).filter (fun nest => decide (b ∈ nest.inner)) = [nest] := by
  obtain ⟨outer, hmem, hout, houter⟩ := exists_outermost hc hb hcontains
  refine ⟨ofOuter loops outer, ?_⟩
  rw [ofLoops_eq, List.filter_map, List.filter_filter]
  refine congrArg (List.map (ofOuter loops)) (List.perm_singleton.mp ?_)
  refine (List.perm_ext_iff_of_nodup (harranged.nodup.filter _) (List.nodup_singleton outer)).mpr fun o => ?_
  rw [List.mem_filter, List.mem_singleton, Bool.and_eq_true, decide_eq_true_iff]
  constructor
  · rintro ⟨ho, hinner, hout'⟩
    have hcontains' := (mem_inner_iff.mp (of_decide_eq_true hinner)).2
    exact hout'.unique harranged hnone hb ho hmem hout hcontains' houter
  · rintro rfl
    exact ⟨hmem, decide_eq_true (mem_inner_iff.mpr ⟨hb, houter⟩), hout⟩

/-- **The nests of a text**: their outer loops are those that lie in no other loop and have one inside,
and every loop that lies in another one is inside some nest.  Loops of one name do not cross.  Where no
two loops cross at all, a loop that lies in another one is inside one nest only, and a nest is as deep as
the longest chain of loops from its outer one on is long. -/
theorem ofLoops_nests (dialect : Dialect) (text : Text) :
    let loops := loopsOf dialect text
    (ofLoops loops).map (·.outer) = loops.filter (fun b => decide (IsOutermost loops b)) ∧
    (∀ nest ∈ ofLoops loops, nest.inner = loops.filter (nest.outer.contains ·)) ∧
    (∀ b ∈ loops, ∀ c ∈ loops, c.contains b = true → ∃ nest ∈ ofLoops loops, b ∈ nest.inner) ∧
    (∀ b ∈ loops, ∀ c ∈ loops, b.name = c.name → b.NestedOrDisjoint c) ∧
    (NoneCross loops →
      (∀ b ∈ loops, ∀ c ∈ loops, c.contains b = true →
        ∃ nest, (ofLoops loops).filter (fun nest => decide (b ∈ nest.inner)) = [nest]) ∧
      ∀ nest ∈ ofLoops loops, IsGreatest (chainLengths loops nest.outer) nest.depth) := by
  intro loops
  have harranged : Arranged loops := arranged_loopsOf dialect text
  refine ⟨?_, ?_, ?_, harranged.named, fun hnone => ⟨?_, ?_⟩⟩
  · rw [ofLoops_eq, List.map_map]
    exact List.map_id _
  · intro nest hnest
    obtain ⟨b, -, -, rfl⟩ := mem_ofLoops_iff.mp hnest
    rfl
  · intro b hb c hc hcontains
    obtain ⟨outer, hmem, hout, houter⟩ := exists_outermost hc hb hcontains
    exact ⟨_, mem_ofLoops_iff.mpr ⟨outer, hmem, hout, rfl⟩, mem_inner_iff.mpr ⟨hb, houter⟩⟩
  · intro b hb c hc hcontains
    exact exists_filter_eq_singleton harranged hnone hc hb hcontains
  · intro nest hnest
    obtain ⟨outer, hmem, hout, rfl⟩ := mem_ofLoops_iff.mp hnest
    exact depth_isGreatest harranged hnone hmem hout

/-- Two loops inside one, of which one holds another. -/
theorem ofLoops_nests_three :
    let text : Text :=
      "@foreach(a) @while(b) @endwhile @foreach(c) @for(d) @endfor @endforeach @endforeach"
    let loops := loopsOf .blade text
    NoneCross loops ∧ ∃ nest ∈ ofLoops loops, nest.inner.length = 3 ∧
      IsGreatest (chainLengths loops nest.outer) 3 := by
  intro text loops
  have hloops : loops = _ := loopsOf_eq .blade text
  have hnone : NoneCross loops := by
    rw [hloops]
    decide +kernel
  have hnests : (ofLoops loops).map (fun nest => (nest.inner.length, nest.depth)) = [(3, 3)] := by
    rw [hloops]
    decide +kernel
  obtain ⟨nest, hnest, heq⟩ := List.mem_map.mp (hnests ▸ List.mem_cons_self)
  refine ⟨hnone, nest, hnest, congrArg Prod.fst heq, ?_⟩
  have hdepth : nest.depth = 3 := congrArg Prod.snd heq
  rw [← hdepth]
  exact ((ofLoops_nests .blade text).2.2.2.2 hnone).2 nest hnest

end LoopNest
end TemplateLint
