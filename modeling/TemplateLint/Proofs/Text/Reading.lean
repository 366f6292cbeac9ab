import TemplateLint.Proofs.Text.Matches

/-!
# What patterns read

A way to read a pattern passes a stretch of the text, and what a group keeps is a stretch of the text
as well.  Which characters can stand in it is read off the pattern: `passes` says that a pattern only
passes accepted characters, and `keeps` says it of the groups with an index.  So the text of a group of
a match occurs in the text that was searched, and consists of accepted characters
(`group_of_mem_findAll`, `group_of_find?`).  A group in front of a pattern without other groups of its
index keeps what its body has read (`group_of_front`).
-/
namespace TemplateLint

/-- Reading on from one place to another passes a text. -/
structure Spot.Reads (s : Spot) (read : Text) (t : Spot) : Prop where
  passed : t.passed = s.passed + read.length
  rest : s.rest = read ++ t.rest

namespace Spot.Reads

variable {s t u : Spot} {read more : Text}

theorem refl (s : Spot) : s.Reads [] s := ⟨rfl, rfl⟩

theorem trans (h : s.Reads read t) (h' : t.Reads more u) : s.Reads (read ++ more) u := by
  refine ⟨?_, ?_⟩
  · rw [h'.passed, h.passed, List.length_append, Nat.add_assoc]
  · rw [h.rest, h'.rest, List.append_assoc]

/-- The first character that is passed, and the others. -/
theorem cons {passed : Nat} {last : Option Char} {c : Char} {rest : Text}
    (h : Spot.Reads ⟨passed + 1, some c, rest⟩ read t) :
    Spot.Reads ⟨passed, last, c :: rest⟩ (c :: read) t := by
  refine ⟨?_, congrArg (c :: ·) h.rest⟩
  rw [h.passed, List.length_cons]
  show passed + 1 + _ = passed + _
  omega

/-- What was passed is the start of what followed. -/
theorem take_eq (h : s.Reads read t) : s.rest.take (t.passed - s.passed) = read := by
  rw [h.passed, h.rest, Nat.add_sub_cancel_left, List.take_left]

theorem infix_of_rest (h : s.Reads read t) {text : Text} (ht : text <:+: t.rest) :
    text <:+: s.rest := by
  rw [h.rest]
  exact ht.trans (List.suffix_append _ _).isInfix

end Spot.Reads

/-- A run passes accepted characters. -/
theorem runSpots_reads {accepts : Char → Bool} {passed : Nat} {last : Option Char} {rest : Text}
    {t : Spot} (ht : t ∈ runSpots accepts passed last rest) :
    ∃ read, Spot.Reads ⟨passed, last, rest⟩ read t ∧ ∀ c ∈ read, accepts c = true := by
  induction rest generalizing passed last with
  | nil =>
    obtain rfl := List.mem_singleton.mp ht
    exact ⟨[], Spot.Reads.refl _, List.forall_mem_nil _⟩
  | cons c rest ih =>
    rw [runSpots] at ht
    rcases List.mem_cons.mp ht with rfl | ht
    · exact ⟨[], Spot.Reads.refl _, List.forall_mem_nil _⟩
    · split at ht
      · next hc =>
        obtain ⟨read, hreads, hread⟩ := ih ht
        exact ⟨c :: read, hreads.cons, List.forall_mem_cons.mpr ⟨hc, hread⟩⟩
      · cases ht

/-- Reading a given text passes as much. -/
theorem Spot.advance?_reads {key : Char → Char} {wanted : Text} {s t : Spot}
    (h : s.advance? key wanted = some t) : ∃ read, s.Reads read t := by
  induction wanted generalizing s with
  | nil =>
    obtain rfl := Option.some.inj h
    exact ⟨[], Spot.Reads.refl _⟩
  | cons c wanted ih =>
    obtain ⟨passed, last, rest⟩ := s
    cases rest with
    | nil => cases h
    | cons d rest =>
      rw [advance?] at h
      split at h
      · obtain ⟨read, hreads⟩ := ih h
        exact ⟨d :: read, hreads.cons⟩
      · cases h

namespace Pattern

/-- The pattern only passes accepted characters. -/
def passes (accepts : Char → Bool) : Pattern → Prop
  | one a | many _ a | few _ a => ∀ c, a c = true → accepts c = true
  | seq first second | alt first second => first.passes accepts ∧ second.passes accepts
  | group _ body => body.passes accepts
  | upTo _ _ | same _ _ => False
  | _ => True

/-- The groups with an index only keep accepted characters. -/
def keeps (index : Nat) (accepts : Char → Bool) : Pattern → Prop
  | seq first second | alt first second => first.keeps index accepts ∧ second.keeps index accepts
  | group i body => (i = index → body.passes accepts) ∧ body.keeps index accepts
  | _ => True

variable {index : Nat} {accepts : Char → Bool}

theorem keeps_lit (wanted : Text) : (lit wanted).keeps index accepts := by
  induction wanted with
  | nil => trivial
  | cons c wanted ih => exact ⟨trivial, ih⟩

/-- A run in which the pattern may stop at some places. -/
private theorem run_reads {least passed : Nat} {last : Option Char} {rest : Text}
    {groups : List Capture} {a : Char → Bool} {q : Progress} {spots : List Spot}
    (hspots : ∀ s ∈ spots, s ∈ (runSpots a passed last rest).drop least)
    (hq : q ∈ spots.map (⟨·, groups⟩)) :
    ∃ read, Spot.Reads ⟨passed, last, rest⟩ read q.spot ∧
      ((∀ c, a c = true → accepts c = true) → ∀ c ∈ read, accepts c = true) := by
  obtain ⟨s, hs, rfl⟩ := List.mem_map.mp hq
  obtain ⟨read, hreads, hread⟩ := runSpots_reads (List.mem_of_mem_drop (hspots s hs))
  exact ⟨read, hreads, fun haccepts c hc => haccepts c (hread c hc)⟩

/-- A way to read a pattern passes a stretch of the text. -/
theorem ways_reads (accepts : Char → Bool) {pattern : Pattern} {p q : Progress}
    (hq : q ∈ ways pattern p) : ∃ read, p.spot.Reads read q.spot ∧
      (pattern.passes accepts → ∀ c ∈ read, accepts c = true) := by
  induction pattern generalizing p q with
  | empty | ahead _ _ | notAhead _ _ | notAfter _ | edge =>
    rw [eq_of_looks rfl hq]
    exact ⟨[], Spot.Reads.refl _, fun _ => List.forall_mem_nil _⟩
  | one a =>
    obtain ⟨⟨passed, last, rest⟩, groups⟩ := p
    cases rest with
    | nil => cases hq
    | cons c rest =>
      rw [ways] at hq
      split at hq
      · next hc =>
        obtain rfl := List.mem_singleton.mp hq
        refine ⟨[c], (Spot.Reads.refl _).cons, fun haccepts d hd => ?_⟩
        exact List.mem_singleton.mp hd ▸ haccepts c hc
      · cases hq
  | seq first second ihf ihs =>
    obtain ⟨r, hr, hq⟩ := List.mem_flatMap.mp hq
    obtain ⟨read, hread, haccepted⟩ := ihf hr
    obtain ⟨more, hmore, haccepted'⟩ := ihs hq
    refine ⟨read ++ more, hread.trans hmore, fun h => ?_⟩
    exact List.forall_mem_append.mpr ⟨haccepted h.1, haccepted' h.2⟩
  | alt first second ihf ihs =>
    rcases List.mem_append.mp hq with hq | hq
    · obtain ⟨read, hread, haccepted⟩ := ihf hq
      exact ⟨read, hread, fun h => haccepted h.1⟩
    · obtain ⟨read, hread, haccepted⟩ := ihs hq
      exact ⟨read, hread, fun h => haccepted h.2⟩
  | many least a => exact run_reads (fun s hs => List.mem_reverse.mp hs) hq
  | few least a => exact run_reads (fun s hs => hs) hq
  | upTo closing key =>
    obtain ⟨s, hs, rfl⟩ := List.mem_map.mp hq
    obtain ⟨read, hread, -⟩ := runSpots_reads (List.mem_of_find?_eq_some (Option.mem_toList.mp hs))
    exact ⟨read, hread, False.elim⟩
  | group i body ih =>
    obtain ⟨r, hr, rfl⟩ := List.mem_map.mp hq
    obtain ⟨read, hread, haccepted⟩ := ih hr
    exact ⟨read, hread, haccepted⟩
  | same i key =>
    rw [ways] at hq
    split at hq
    · cases hq
    · obtain ⟨s, hs, rfl⟩ := List.mem_map.mp hq
      obtain ⟨read, hread⟩ := Spot.advance?_reads (Option.mem_toList.mp hs)
      exact ⟨read, hread, False.elim⟩

/-- What a group has kept on the way from a place: a stretch of what follows there, of accepted
characters if the pattern keeps those. -/
def KeptFrom (pattern : Pattern) (index : Nat) (accepts : Char → Bool) (s : Spot) (kept : Text) :
    Prop :=
  kept <:+: s.rest ∧ (pattern.keeps index accepts → ∀ c ∈ kept, accepts c = true)

theorem KeptFrom.mono {pattern whole : Pattern} {s t : Spot} {read kept : Text}
    (h : pattern.KeptFrom index accepts t kept) (hreads : s.Reads read t)
    (hkeeps : whole.keeps index accepts → pattern.keeps index accepts) :
    whole.KeptFrom index accepts s kept :=
  ⟨hreads.infix_of_rest h.1, fun hwhole => h.2 (hkeeps hwhole)⟩

/-- A way to read a pattern adds what its groups have kept. -/
theorem ways_captures {pattern : Pattern} {p q : Progress} (hq : q ∈ ways pattern p) {c : Capture}
    (hc : c ∈ q.groups) :
    c ∈ p.groups ∨ (c.index = index → pattern.KeptFrom index accepts p.spot c.text) := by
  induction pattern generalizing p q with
  | empty | ahead _ _ | notAhead _ _ | notAfter _ | edge => exact Or.inl (eq_of_looks rfl hq ▸ hc)
  | one a =>
    obtain ⟨⟨passed, last, rest⟩, groups⟩ := p
    cases rest with
    | nil => cases hq
    | cons d rest =>
      rw [ways] at hq
      split at hq
      · exact Or.inl (by rw [List.mem_singleton.mp hq] at hc; exact hc)
      · cases hq
  | seq first second ihf ihs =>
    obtain ⟨r, hr, hq⟩ := List.mem_flatMap.mp hq
    rcases ihs hq hc with hc | hkept
    · exact (ihf hr hc).imp_right fun hkept hi => (hkept hi).mono (Spot.Reads.refl _) And.left
    · obtain ⟨read, hreads, -⟩ := ways_reads accepts hr
      exact Or.inr fun hi => (hkept hi).mono hreads And.right
  | alt first second ihf ihs =>
    rcases List.mem_append.mp hq with hq | hq
    · exact (ihf hq hc).imp_right fun hkept hi => (hkept hi).mono (Spot.Reads.refl _) And.left
    · exact (ihs hq hc).imp_right fun hkept hi => (hkept hi).mono (Spot.Reads.refl _) And.right
  | many _ _ | few _ _ | upTo _ _ =>
    obtain ⟨s, -, rfl⟩ := List.mem_map.mp hq
    exact Or.inl hc
  | group i body ih =>
    obtain ⟨r, hr, rfl⟩ := List.mem_map.mp hq
    rcases List.mem_cons.mp hc with rfl | hc
    · obtain ⟨read, hreads, hread⟩ := ways_reads accepts hr
      -- what the body has passed is what the group keeps
      refine Or.inr fun hi => ?_
      have htext : Capture.text ⟨i, p.spot.rest, r.spot.passed - p.spot.passed⟩ = read :=
        hreads.take_eq
      rw [htext]
      refine ⟨?_, fun hkeeps => hread (hkeeps.1 hi)⟩
      rw [hreads.rest]
      exact (List.prefix_append _ _).isInfix
    · exact (ih hr hc).imp_right fun hkept hi => (hkept hi).mono (Spot.Reads.refl _) And.right
  | same i key =>
    rw [ways] at hq
    split at hq
    · cases hq
    · obtain ⟨s, -, rfl⟩ := List.mem_map.mp hq
      exact Or.inl hc

/-- The indices of the groups that a way to read a pattern can add. -/
def indices : Pattern → List Nat
  | seq first second | alt first second => first.indices ++ second.indices
  | group index body => index :: body.indices
  | _ => []

/-- A way to read a pattern keeps what the groups have read before, and adds groups of the pattern. -/
theorem ways_groups {pattern : Pattern} {p q : Progress} (hq : q ∈ ways pattern p) :
    ∃ added, q.groups = added ++ p.groups ∧ ∀ c ∈ added, c.index ∈ pattern.indices := by
  -- most patterns leave the groups as they are
  have hstays : ∀ {p q : Progress} {indices : List Nat}, q.groups = p.groups →
      ∃ added, q.groups = added ++ p.groups ∧ ∀ c ∈ added, c.index ∈ indices :=
    fun h => ⟨[], h, List.forall_mem_nil _⟩
  have hmoves : ∀ {p q : Progress} {spots : List Spot}, q ∈ spots.map (⟨·, p.groups⟩) →
      q.groups = p.groups := by
    intro p q spots hq
    obtain ⟨s, -, rfl⟩ := List.mem_map.mp hq
    rfl
  induction pattern generalizing p q with
  | empty | ahead _ _ | notAhead _ _ | notAfter _ | edge =>
    exact hstays (congrArg Progress.groups (eq_of_looks rfl hq))
  | one accepts =>
    obtain ⟨⟨passed, last, rest⟩, groups⟩ := p
    cases rest with
    | nil => cases hq
    | cons c rest =>
      rw [ways] at hq
      split at hq
      · obtain rfl := List.mem_singleton.mp hq
        exact hstays rfl
      · cases hq
  | seq first second ihf ihs =>
    obtain ⟨r, hr, hq⟩ := List.mem_flatMap.mp hq
    obtain ⟨added, hadded, hindices⟩ := ihf hr
    obtain ⟨later, hlater, hindices'⟩ := ihs hq
    refine ⟨later ++ added, ?_, List.forall_mem_append.mpr ⟨?_, ?_⟩⟩
    · rw [hlater, hadded, List.append_assoc]
    · exact fun c hc => List.mem_append_right _ (hindices' c hc)
    · exact fun c hc => List.mem_append_left _ (hindices c hc)
  | alt first second ihf ihs =>
    rcases List.mem_append.mp hq with hq | hq
    · obtain ⟨added, hadded, hindices⟩ := ihf hq
      exact ⟨added, hadded, fun c hc => List.mem_append_left _ (hindices c hc)⟩
    · obtain ⟨added, hadded, hindices⟩ := ihs hq
      exact ⟨added, hadded, fun c hc => List.mem_append_right _ (hindices c hc)⟩
  | many _ _ | few _ _ | upTo _ _ => exact hstays (hmoves hq)
  | group index body ih =>
    obtain ⟨r, hr, rfl⟩ := List.mem_map.mp hq
    obtain ⟨added, hadded, hindices⟩ := ih hr
    refine ⟨⟨index, p.spot.rest, r.spot.passed - p.spot.passed⟩ :: added, ?_, ?_⟩
    · exact congrArg (_ :: ·) hadded
    · exact List.forall_mem_cons.mpr
        ⟨List.mem_cons_self, fun c hc => List.mem_cons_of_mem _ (hindices c hc)⟩
  | same index key =>
    rw [ways] at hq
    split at hq
    · cases hq
    · exact hstays (hmoves hq)

/-- A run that may not be empty passes something. -/
theorem passed_lt_of_many {least : Nat} {p q : Progress}
    (hq : q ∈ ways (many (least + 1) accepts) p) : p.spot.passed < q.spot.passed := by
  obtain ⟨⟨passed, last, rest⟩, groups⟩ := p
  obtain ⟨s, hs, rfl⟩ := List.mem_map.mp hq
  have hs : s ∈ (runSpots accepts passed last rest).drop (least + 1) := List.mem_reverse.mp hs
  cases rest with
  | nil =>
    rw [runSpots, List.drop_succ_cons, List.drop_nil] at hs
    cases hs
  | cons c rest =>
    rw [runSpots, List.drop_succ_cons] at hs
    have hs := List.mem_of_mem_drop hs
    split at hs
    · obtain ⟨read, hreads, -⟩ := runSpots_reads hs
      have hpassed : s.passed = passed + 1 + read.length := hreads.passed
      show passed < s.passed
      omega
    · cases hs

/-! ## Groups of matches -/

/-- A group that stands in front of a pattern keeps what its body has read. -/
theorem group_of_front {index : Nat} {body rest : Pattern} {s : Spot} {m : Match}
    (h : (seq (group index body) rest).matchAt? s = some m) (hrest : index ∉ rest.indices) :
    ∃ r ∈ ways body ⟨s, []⟩, s.Reads (m.group index) r.spot := by
  rw [matchAt?, run_eq_findSome?] at h
  obtain ⟨q, hq, hm⟩ := List.exists_of_findSome?_eq_some h
  obtain rfl := Option.some.inj hm
  obtain ⟨r', hr', hq⟩ := List.mem_flatMap.mp hq
  obtain ⟨r, hr, rfl⟩ := List.mem_map.mp hr'
  obtain ⟨added, hadded, hindices⟩ := ways_groups hq
  refine ⟨r, hr, ?_⟩
  obtain ⟨read, hreads, -⟩ := ways_reads (fun _ => true) hr
  -- what was added later belongs to other groups
  have hnone : (added.map fun c => (c.index, c.text)).lookup index = none := by
    refine List.lookup_eq_none_iff.mpr fun e he => ?_
    obtain ⟨c, hc, rfl⟩ := List.mem_map.mp he
    exact bne_iff_ne.mpr fun (heq : index = c.index) => hrest (heq ▸ hindices c hc)
  have hkept : ((q.groups.map fun c => (c.index, c.text)).lookup index).getD [] = read := by
    rw [hadded, List.map_append, List.lookup_append, hnone, Option.none_or]
    show ((List.lookup index ((index, _) :: _)).getD [] : Text) = read
    rw [List.lookup_cons_self]
    exact hreads.take_eq
  rw [Match.group, hkept]
  exact hreads

theorem group_of_matchAt? (index : Nat) (accepts : Char → Bool) {pattern : Pattern} {s : Spot}
    {m : Match}
    (h : pattern.matchAt? s = some m) : pattern.KeptFrom index accepts s (m.group index) := by
  rw [matchAt?, run_eq_findSome?] at h
  obtain ⟨q, hq, hm⟩ := List.exists_of_findSome?_eq_some h
  obtain rfl := Option.some.inj hm
  rw [Match.group]
  cases hlookup : (q.groups.map fun c => (c.index, c.text)).lookup index with
  | none => exact ⟨List.nil_infix, fun _ => List.forall_mem_nil _⟩
  | some kept =>
    obtain ⟨before, after, hgroups, -⟩ := List.lookup_eq_some_iff.mp hlookup
    have hmem : (index, kept) ∈ q.groups.map fun c => (c.index, c.text) := by
      rw [hgroups]
      exact List.mem_append_right before List.mem_cons_self
    obtain ⟨c, hc, heq⟩ := List.mem_map.mp hmem
    obtain ⟨hindex, rfl⟩ := Prod.mk.inj heq
    rcases ways_captures hq hc with hnone | hkept
    · cases hnone
    · exact hkept hindex

/-- **The text of a group occurs in the text that was searched**, and consists of accepted characters
if the pattern keeps those. -/
theorem group_of_mem_findAll (index : Nat) (accepts : Char → Bool) {pattern : Pattern} {text : Text}
    {m : Match} (h : m ∈ pattern.findAll text) : m.group index <:+: text ∧
      (pattern.keeps index accepts → ∀ c ∈ m.group index, accepts c = true) := by
  obtain ⟨k, last, -, hmatch⟩ := mem_allFrom h
  obtain ⟨hoccurs, hkeeps⟩ := group_of_matchAt? index accepts hmatch
  exact ⟨hoccurs.trans (List.drop_suffix k text).isInfix, hkeeps⟩

theorem group_of_find? (index : Nat) (accepts : Char → Bool) {pattern : Pattern} {text : Text}
    {m : Match} (h : pattern.find? text = some m) : m.group index <:+: text ∧
      (pattern.keeps index accepts → ∀ c ∈ m.group index, accepts c = true) := by
  obtain ⟨k, last, -, hmatch⟩ := firstFrom?_eq_some h
  obtain ⟨hoccurs, hkeeps⟩ := group_of_matchAt? index accepts hmatch
  exact ⟨hoccurs.trans (List.drop_suffix k text).isInfix, hkeeps⟩

end Pattern
end TemplateLint
