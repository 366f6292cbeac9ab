import TemplateLint.Analysis.LoopDetectors
import TemplateLint.Proofs.Answers
import TemplateLint.Proofs.Block.DirectBody
import TemplateLint.Proofs.Block.Directive
import TemplateLint.Proofs.Rule.Located
import TemplateLint.Proofs.Text.Extended

/-!
# Relationships that are loaded once per item

How a use of a relationship reads is a matter of its own text and, in a directive template, of whether a
word goes on behind it (`LoopDetectors.RelationshipUse`).  What only one loop repeats keeps every stretch
that the loops inside it do not reach, and a directive is never glued to a word in front of it, so a use
that stands there in the document is still one.  So a loop is told wherever it uses a relationship outside
of the loops that are cut out of it (`LoopDetectors.relationships_told`).  The tags of these loops are cut
out with them: a use in the opener of an inner loop is missed (`LoopDetectors.relationships_missed`).
-/
namespace TemplateLint

namespace Pattern

/-- The pattern can be read from one offset of a text up to another. -/
def ReadsBetween (pattern : Pattern) (text : Text) (start stop : Nat) : Prop :=
  ∃ q ∈ ways pattern ⟨Spot.ofOffset text start, []⟩, q.spot.passed = stop

instance (pattern : Pattern) (text : Text) (start stop : Nat) :
    Decidable (pattern.ReadsBetween text start stop) :=
  inferInstanceAs (Decidable (∃ q ∈ ways pattern ⟨Spot.ofOffset text start, []⟩, _))

end Pattern

namespace LoopDetectors

open Pattern Block

/-! ## How a use of a relationship reads -/

/-- The end of a tag that uses a relationship: what follows is read from it, or the tag ends. -/
inductive UseTail : Text → Prop where
  | path {c : Char} (hc : c = '.' ∨ c = ':') : UseTail [c]
  | whole {gap : Text} (hgap : ∀ c ∈ gap, isBlank c = true) : UseTail (gap ++ closeBraces)

/-- A text uses one of some relationships, where some character or the end stands behind it. -/
inductive RelationshipUse (names : List Text) : Dialect → Text → Option Char → Prop where
  /-- A relationship of an item, with no word that goes on behind it. -/
  | directive {item name : Text} {next : Option Char} (hne : item ≠ [])
      (hitem : ∀ c ∈ item, isWord c = true) (hname : name ∈ names)
      (hedge : isEdge ("$" ++ item ++ "->" ++ name : Text).getLast? next = true) :
      RelationshipUse names .blade ("$" ++ item ++ "->" ++ name) next
  /-- A tag that starts with the relationship. -/
  | tag {dialect : Dialect} {gap name tail : Text} {next : Option Char} (hdialect : dialect ≠ .blade)
      (hgap : ∀ c ∈ gap, isBlank c = true) (hname : name ∈ names) (htail : UseTail tail) :
      RelationshipUse names dialect (openBraces ++ gap ++ name ++ tail) next

variable {names : List Text} {dialect : Dialect} {s : Spot}

theorem mem_ways_useTail {groups : List Capture} {q : Progress} :
    q ∈ ways (oneOf [one (among ".:"), seq blanks (lit closeBraces)]) ⟨s, groups⟩ ↔
      ∃ tail after, UseTail tail ∧ s.rest = tail ++ after ∧ q = ⟨s.past tail after, groups⟩ := by
  rw [mem_ways_oneOf, List.exists_mem_cons_iff, List.exists_mem_cons_iff]
  constructor
  · rintro (hq | hq | ⟨_, hnone, _⟩)
    · obtain ⟨c, after, hrest, hc, rfl⟩ := mem_ways_one.mp hq
      have hc : c ∈ ['.', ':'] := of_decide_eq_true hc
      exact ⟨[c], after, .path (List.mem_pair.mp hc), hrest, rfl⟩
    · obtain ⟨_, hr, hq⟩ := List.mem_flatMap.mp hq
      obtain ⟨gap, left, hrest, hgap, rfl⟩ := mem_ways_many_zero.mp hr
      obtain ⟨after, rfl, rfl⟩ := mem_ways_lit.mp hq
      refine ⟨gap ++ closeBraces, after, .whole hgap, ?_, ?_⟩
      · rw [hrest, List.append_assoc]
      · rw [Spot.past_past]
    · cases hnone
  · rintro ⟨tail, after, htail, hrest, rfl⟩
    cases htail with
    | @path c hc =>
      exact Or.inl (mem_ways_one.mpr ⟨c, after, hrest, decide_eq_true (List.mem_pair.mpr hc), rfl⟩)
    | @whole gap hgap =>
      rw [List.append_assoc] at hrest
      refine Or.inr (Or.inl (List.mem_flatMap.mpr
        ⟨_, mem_ways_many_zero.mpr ⟨gap, closeBraces ++ after, hrest, hgap, rfl⟩, ?_⟩))
      exact mem_ways_lit.mpr ⟨after, rfl, by rw [Spot.past_past]⟩

/-- Whether a word starts or ends behind a text that is read does not depend on what stands before. -/
theorem isEdge_past_iff {read after : Text} (hne : read ≠ []) :
    isEdge (s.past read after).last after.head? = true ↔
      isEdge read.getLast? after.head? = true := by
  rw [Spot.past, List.getLast?_eq_some_getLast hne, Option.some_or]

/-- The ways to read a relationship of an item. -/
theorem directive_ways {t : Spot} :
    (∃ q ∈ ways (relationshipPattern .blade names) ⟨s, []⟩, q.spot = t) ↔
      ∃ read after, s.rest = read ++ after ∧ RelationshipUse names .blade read after.head? ∧
        t = s.past read after := by
  have hne : ∀ item name : Text, ("$" ++ item ++ "->" ++ name : Text) ≠ [] := by
    intro item name hnil
    cases hnil
  have hpast : ∀ item name after : Text,
      (((s.past "$" (item ++ ("->" ++ (name ++ after)))).past item ("->" ++ (name ++ after))).past
        "->" (name ++ after)).past name after = s.past ("$" ++ item ++ "->" ++ name) after := by
    intro item name after
    simp only [Spot.past_past, List.append_assoc]
  constructor
  · rintro ⟨q, hq, rfl⟩
    obtain ⟨_, hr, hq⟩ := List.mem_flatMap.mp hq
    obtain ⟨left, hrest, rfl⟩ := mem_ways_lit.mp hr
    obtain ⟨_, hr, hq⟩ := List.mem_flatMap.mp hq
    obtain ⟨item, left', hleft, hitem, hlength, rfl⟩ := mem_ways_many.mp hr
    obtain rfl : left = item ++ left' := hleft
    obtain ⟨_, hr, hq⟩ := List.mem_flatMap.mp hq
    obtain ⟨left'', hleft', rfl⟩ := mem_ways_lit.mp hr
    obtain rfl : left' = "->" ++ left'' := hleft'
    obtain ⟨_, hr, hq⟩ := List.mem_flatMap.mp hq
    obtain ⟨name, hname, after, hleft'', rfl⟩ := mem_ways_group_texts.mp hr
    obtain rfl : left'' = name ++ after := hleft''
    obtain ⟨hedge, rfl⟩ := mem_ways_edge.mp hq
    rw [hpast] at hedge
    have hedge := (isEdge_past_iff (hne item name)).mp hedge
    refine ⟨"$" ++ item ++ "->" ++ name, after, ?_, ?_, hpast item name after⟩
    · rw [hrest, List.append_assoc, List.append_assoc, List.append_assoc]
    · exact .directive (List.ne_nil_of_length_pos hlength) hitem hname hedge
  · rintro ⟨read, after, hrest, huse, rfl⟩
    cases huse with
    | @directive item name _ hitem hword hname hedge =>
      have hedge := (isEdge_past_iff (s := s) (hne item name)).mpr hedge
      rw [List.append_assoc, List.append_assoc, List.append_assoc] at hrest
      rw [← hpast] at hedge ⊢
      refine ⟨⟨_, [⟨1, name ++ after, name.length⟩]⟩, ?_, rfl⟩
      refine List.mem_flatMap.mpr ⟨_, mem_ways_lit.mpr ⟨_, hrest, rfl⟩, ?_⟩
      refine List.mem_flatMap.mpr ⟨_, mem_ways_many.mpr
        ⟨item, _, rfl, hword, List.length_pos_iff.mpr hitem, rfl⟩, ?_⟩
      refine List.mem_flatMap.mpr ⟨_, mem_ways_lit.mpr ⟨_, rfl, rfl⟩, ?_⟩
      refine List.mem_flatMap.mpr ⟨_, mem_ways_group_texts.mpr ⟨name, hname, after, rfl, rfl⟩, ?_⟩
      exact mem_ways_edge.mpr ⟨hedge, rfl⟩
    | tag hdialect => exact absurd rfl hdialect

/-- The ways to read the beginning of a tag. -/
theorem mem_ways_tagStart {groups : List Capture} {q : Progress} :
    q ∈ ways Dialect.tagStart ⟨s, groups⟩ ↔
      ∃ gap after, s.rest = openBraces ++ (gap ++ after) ∧ (∀ c ∈ gap, isBlank c = true) ∧
        q = ⟨(s.past openBraces (gap ++ after)).past gap after, groups⟩ := by
  rw [Dialect.tagStart, ways, List.mem_flatMap]
  constructor
  · rintro ⟨r, hr, hq⟩
    obtain ⟨left, hrest, rfl⟩ := mem_ways_lit.mp hr
    obtain ⟨gap, after, rfl, hgap, rfl⟩ := mem_ways_many_zero.mp hq
    exact ⟨gap, after, hrest, hgap, rfl⟩
  · rintro ⟨gap, after, hrest, hgap, rfl⟩
    exact ⟨_, mem_ways_lit.mpr ⟨_, hrest, rfl⟩, mem_ways_many_zero.mpr ⟨gap, after, rfl, hgap, rfl⟩⟩

/-- The ways to read a tag that starts with a relationship. -/
theorem tag_ways (hdialect : dialect ≠ .blade) {t : Spot} :
    (∃ q ∈ ways (relationshipPattern dialect names) ⟨s, []⟩, q.spot = t) ↔
      ∃ read after, s.rest = read ++ after ∧ RelationshipUse names dialect read after.head? ∧
        t = s.past read after := by
  have hpast : ∀ gap name tail after : Text,
      (((s.past openBraces (gap ++ (name ++ (tail ++ after)))).past gap (name ++ (tail ++ after))).past
        name (tail ++ after)).past tail after = s.past (openBraces ++ gap ++ name ++ tail) after := by
    intro gap name tail after
    simp only [Spot.past_past, List.append_assoc]
  rw [relationshipPattern, if_neg hdialect]
  constructor
  · rintro ⟨q, hq, rfl⟩
    obtain ⟨_, hr, hq⟩ := List.mem_flatMap.mp hq
    obtain ⟨gap, left, hrest, hgap, rfl⟩ := mem_ways_tagStart.mp hr
    obtain ⟨_, hr, hq⟩ := List.mem_flatMap.mp hq
    obtain ⟨name, hname, left', hleft, rfl⟩ := mem_ways_group_texts.mp hr
    obtain rfl : left = name ++ left' := hleft
    obtain ⟨tail, after, htail, hleft', rfl⟩ := mem_ways_useTail.mp hq
    obtain rfl : left' = tail ++ after := hleft'
    refine ⟨openBraces ++ gap ++ name ++ tail, after, ?_, .tag hdialect hgap hname htail,
      hpast gap name tail after⟩
    rw [hrest, List.append_assoc, List.append_assoc, List.append_assoc]
  · rintro ⟨read, after, hrest, huse, rfl⟩
    cases huse with
    | directive => exact absurd rfl hdialect
    | @tag _ gap name tail _ _ hgap hname htail =>
      rw [List.append_assoc, List.append_assoc, List.append_assoc] at hrest
      rw [← hpast]
      refine ⟨⟨_, [⟨1, name ++ (tail ++ after), name.length⟩]⟩, ?_, rfl⟩
      refine List.mem_flatMap.mpr ⟨_, mem_ways_tagStart.mpr ⟨gap, _, hrest, hgap, rfl⟩, ?_⟩
      refine List.mem_flatMap.mpr ⟨_, mem_ways_group_texts.mpr ⟨name, hname, _, rfl, rfl⟩, ?_⟩
      exact mem_ways_useTail.mpr ⟨tail, after, htail, rfl, rfl⟩

/-- A use of a relationship is read wherever it stands, and nothing else is. -/
theorem relationshipPattern_ways {t : Spot} :
    (∃ q ∈ ways (relationshipPattern dialect names) ⟨s, []⟩, q.spot = t) ↔
      ∃ read after, s.rest = read ++ after ∧ RelationshipUse names dialect read after.head? ∧
        t = s.past read after := by
  by_cases hdialect : dialect = .blade
  · subst hdialect
    exact directive_ways
  · exact tag_ways hdialect

theorem RelationshipUse.ne_nil {read : Text} {next : Option Char}
    (h : RelationshipUse names dialect read next) : read ≠ [] := by
  cases h <;> exact List.cons_ne_nil _ _

/-- Where the pattern is read in a text, a use of a relationship stands. -/
theorem relationshipUse_of_readsBetween {text : Text} {start stop : Nat}
    (h : (relationshipPattern dialect names).ReadsBetween text start stop) :
    start < stop ∧ RelationshipUse names dialect (Text.slice text start stop) text[stop]? := by
  obtain ⟨q, hq, rfl⟩ := h
  obtain ⟨read, after, hrest, huse, hspot⟩ := relationshipPattern_ways.mp ⟨q, hq, rfl⟩
  have hrest : text.drop start = read ++ after := hrest
  have hpassed : q.spot.passed = start + read.length := congrArg Spot.passed hspot
  have hread : Text.slice text start q.spot.passed = read := by
    rw [Text.slice, hpassed, Nat.add_sub_cancel_left, hrest, List.take_left]
  have hnext : text[q.spot.passed]? = after.head? := by
    rw [← List.head?_drop, hpassed, ← List.drop_drop, hrest, List.drop_left]
  have hlength := List.length_pos_iff.mpr huse.ne_nil
  rw [hread, hnext]
  exact ⟨by omega, huse⟩

/-- A search finds something in a text that holds a use of a relationship. -/
theorem RelationshipUse.exists_find? {before read after : Text}
    (h : RelationshipUse names dialect read after.head?) :
    ∃ m, (relationshipPattern dialect names).find? (before ++ read ++ after) = some m := by
  have hle : before.length ≤ (before ++ read ++ after).length := by
    rw [List.length_append, List.length_append]
    omega
  have hrest : (before ++ read ++ after).drop before.length = read ++ after := by
    rw [List.append_assoc, List.drop_left]
  let s : Spot := ⟨before.length, ((before ++ read ++ after).take before.length).getLast?,
    (before ++ read ++ after).drop before.length⟩
  obtain ⟨q, hq, -⟩ := (relationshipPattern_ways (s := s)).mpr ⟨read, after, hrest, h, rfl⟩
  obtain ⟨m, hm, -⟩ := Pattern.exists_find? hle ((matchAt?_isSome_iff _ s).mpr ⟨q, hq⟩)
  exact ⟨m, hm⟩

/-! ## What only one loop repeats -/

/-- A word starts or ends behind a relationship of an item. -/
theorem RelationshipUse.isEdge_behind {read : Text} {next : Option Char}
    (h : RelationshipUse names .blade read next) : isEdge read.getLast? next = true := by
  cases h with
  | directive _ _ _ hedge => exact hedge
  | tag hdialect => exact absurd rfl hdialect

/-- What stands behind a tag does not matter. -/
theorem RelationshipUse.of_next {read : Text} {next : Option Char}
    (h : RelationshipUse names dialect read next) (hdialect : dialect ≠ .blade)
    (other : Option Char) : RelationshipUse names dialect read other := by
  cases h with
  | directive => exact absurd rfl hdialect
  | tag _ hgap hname htail => exact .tag hdialect hgap hname htail

/-- A use of a relationship does not end where a directive starts, since a directive is not glued to a
word. -/
theorem RelationshipUse.ne_directive {text : Text} {start stop : Nat} (hlt : start < stop)
    (h : RelationshipUse names .blade (Text.slice text start stop) text[stop]?) {t : BlockToken}
    (ht : t ∈ BlockToken.ofBlade text) : t.start ≠ stop := by
  rintro rfl
  have hdirective := (BlockToken.mem_ofBlade_iff.mp ht).directive
  obtain ⟨last, hlast⟩ : ∃ c, text[t.start - 1]? = some c := by
    obtain ⟨hinside, -⟩ := List.getElem?_eq_some_iff.mp hdirective.sign
    exact ⟨_, List.getElem?_eq_getElem (Nat.lt_of_le_of_lt (Nat.sub_le ..) hinside)⟩
  have hword := (hdirective.before (t.start - 1) last (by omega) hlast).2
  have hread : (Text.slice text start t.start).getLast? = some last := by
    have hplace : start + (t.start - start - 1) = t.start - 1 := by omega
    rw [Text.slice, List.getLast?_take, if_neg (by omega), List.getElem?_drop, hplace, hlast,
      Option.some_or]
  have hedge := h.isEdge_behind
  rw [hread, hdirective.sign, isEdge, Option.any_some, Option.any_some, hword] at hedge
  exact absurd hedge (by decide)

/-- **A use of a relationship is kept.**  Where it stands in the body of a loop and reaches into none of
the loops that are cut out, it is found in what is left. -/
theorem exists_find?_directBody {text : Text} {cut : List Text} {b : Block} {start stop : Nat}
    (hb : b ∈ loopsOf dialect text)
    (hread : (relationshipPattern dialect names).ReadsBetween text start stop)
    (hstart : b.opener.stop ≤ start) (hstop : stop ≤ b.closer.start)
    (hapart : ∀ c ∈ loopsOf dialect text, c.name ∈ cut → b.contains c = true →
      stop ≤ c.start ∨ c.stop ≤ start) :
    ∃ m, (relationshipPattern dialect names).find?
      (directBody text (loopsOf dialect text) cut b) = some m := by
  obtain ⟨hlt, huse⟩ := relationshipUse_of_readsBetween hread
  by_cases hdialect : dialect = .blade
  · subst hdialect
    have hends : ∀ {c}, c ∈ loopsOf .blade text → c.start ≠ stop ∧ c.closer.start ≠ stop := by
      intro c hc
      obtain ⟨hopener, hcloser⟩ := Pairing.ends_mem hc
      exact ⟨huse.ne_directive hlt (List.mem_of_mem_filter hopener),
        huse.ne_directive hlt (List.mem_of_mem_filter hcloser)⟩
    -- neither a loop nor the closer starts behind the use, so it keeps the character there
    have hlast : stop < b.closer.start := Nat.lt_of_le_of_ne hstop (hends hb).2.symm
    have htext : b.closer.start ≤ text.length :=
      (BlockToken.scan_placedIn (List.mem_filter.mp (Pairing.ends_mem hb).2).1).standsAt.offset_le
    obtain ⟨before, after, hkept, hnext⟩ := directBody_keeps_next hstart (Nat.le_of_lt hlt) hlast htext
      fun c hc hcut hinside => (hapart c hc hcut hinside).imp_left fun hle =>
        Nat.lt_of_le_of_ne hle (hends hc).1.symm
    rw [hkept]
    exact RelationshipUse.exists_find? (hnext ▸ huse)
  · obtain ⟨before, after, hkept⟩ := directBody_keeps text hstart (Nat.le_of_lt hlt) hstop hapart
    rw [hkept]
    exact (huse.of_next hdialect after.head?).exists_find?

/-! ## What is told of a loop -/

theorem spellings_texts (names : List Text) : spellings (names.map .text) = .ok names := by
  induction names with
  | nil => rfl
  | cons name names ih =>
    rw [List.map_cons, spellings, ih]
    rfl

theorem hasMarker_texts (opener : Text) (markers : List Text) :
    hasMarker opener (markers.map .text) = .ok (markers.any (Text.contains opener)) := by
  induction markers with
  | nil => rfl
  | cons marker markers ih =>
    rw [List.map_cons, hasMarker, ih, List.any_cons]
    cases Text.contains opener marker <;> rfl

/-- The findings about a loop, where the relationships and the markers are given as texts. -/
def loadedIn (ctx : AnalysisContext) (names markers : List Text) (b : Block) : List Finding :=
  if b.name ∈ itemLoops ctx.dialect ∧ markers.any (Text.contains b.opener.text) = false then
    ((relationshipPattern ctx.dialect names).find?
      (directBody ctx.text ctx.loops (itemLoops ctx.dialect) b)).toList.map fun m =>
        relationshipFinding ctx b (m.group 1)
  else []

/-- The detector looks at the loops one by one. -/
theorem relationships_eq {ctx : AnalysisContext} {names markers : List Text}
    (hnames : ctx.heuristics.relationshipNames = names.map .text)
    (hmarkers : ctx.heuristics.eagerLoadMarkers = markers.map .text) :
    relationships ctx = .ok (ctx.loops.flatMap (loadedIn ctx names markers)) := by
  have hloop : ∀ b ∈ ctx.loops, relationshipIn ctx names b = .ok (loadedIn ctx names markers b) := by
    intro b _
    rw [relationshipIn, loadedIn, hmarkers, hasMarker_texts]
    by_cases hname : b.name ∈ itemLoops ctx.dialect
    · rw [if_neg (not_not_intro hname)]
      cases markers.any (Text.contains b.opener.text) with
      | true => exact congrArg Except.ok (if_neg fun h => Bool.noConfusion h.2).symm
      | false =>
        rw [if_pos ⟨hname, rfl⟩]
        dsimp only
        cases (relationshipPattern ctx.dialect names).find?
          (directBody ctx.text ctx.loops (itemLoops ctx.dialect) b) <;> rfl
    · rw [if_pos hname, if_neg fun h => hname h.1]
      rfl
  rw [relationships]
  split
  · next hnone =>
    have hnothing : ∀ b ∈ ctx.loops, loadedIn ctx names markers b = [] := by
      intro b _
      rw [loadedIn, hnone, if_neg fun h => List.not_mem_nil h.1]
    rw [List.flatMap_eq_nil_iff.mpr hnothing]
    rfl
  · rw [hnames, spellings_texts]
    exact gather_eq_ok hloop

/-- **A relationship that is loaded once per item is told.**  Where the pattern is read in the body of a
loop over items, outside of the other ones inside it, and nothing in the opener of the loop shows that
relationships are loaded at once, there is a critical finding in the line of the opener. -/
theorem relationships_told (path text : Text) (dialect : Dialect) (h : Heuristics)
    (names markers : List Text) (hnames : h.relationshipNames = names.map .text)
    (hmarkers : h.eagerLoadMarkers = markers.map .text) :
    ∃ found, relationships (.ofText path text dialect h) = .ok found ∧
      ∀ b ∈ loopsOf dialect text, b.name ∈ itemLoops dialect →
        (∀ marker ∈ markers, ¬ marker <:+: b.opener.text) →
        ∀ start stop, (relationshipPattern dialect names).ReadsBetween text start stop →
          b.opener.stop ≤ start → stop ≤ b.closer.start →
          (∀ c ∈ loopsOf dialect text, c.name ∈ itemLoops dialect → b.contains c = true →
            stop ≤ c.start ∨ c.stop ≤ start) →
          ∃ f ∈ found, f.rule = "n_plus_one" ∧ f.severity = .critical ∧
            f.line = (Position.ofOffset text b.start).line := by
  let ctx : AnalysisContext := .ofText path text dialect h
  have hfound : relationships ctx = _ := relationships_eq hnames hmarkers
  refine ⟨_, hfound, ?_⟩
  intro b hb hname hmarker start stop hread hstart hstop hapart
  obtain ⟨m, hm⟩ := exists_find?_directBody hb hread hstart hstop hapart
  have hnone : markers.any (Text.contains b.opener.text) = false := by
    rw [List.any_eq_false]
    exact fun marker hmem hcontains => hmarker marker hmem ((Text.contains_iff _ _).mp hcontains)
  refine ⟨relationshipFinding ctx b (m.group 1), List.mem_flatMap.mpr ⟨b, hb, ?_⟩, rfl, rfl, rfl⟩
  rw [loadedIn, if_pos ⟨hname, hnone⟩]
  exact List.mem_map_of_mem (Option.mem_toList.mpr hm)

/-- The relationships that are looked for by default. -/
def defaultNames : List Text := ["author", "user", "category", "categories", "tags", "taxonomy"]

/-- What shows by default that relationships are loaded at once. -/
def defaultMarkers : List Text := ["with=", "with(", "load("]

/-- A relationship of an item behind a loop over its rows. -/
theorem relationships_told_behind :
    let text : Text := "@foreach($a as $b)\n@foreach($b->rows as $c)\n@endforeach\n$b->author\n@endforeach"
    Heuristics.default.relationshipNames = defaultNames.map .text ∧
      Heuristics.default.eagerLoadMarkers = defaultMarkers.map .text ∧
        ∃ found, relationships (.ofText "a.blade.php" text .blade .default) = .ok found ∧
          ∃ f ∈ found, f.rule = "n_plus_one" ∧ f.severity = .critical ∧ f.line = 1 := by
  intro text
  obtain ⟨b, hb, hname, hmarker, hread, hstart, hstop, hapart, hline⟩ :
      ∃ b ∈ loopsOf .blade text, b.name ∈ itemLoops .blade ∧
        (∀ marker ∈ defaultMarkers, ¬ marker <:+: b.opener.text) ∧
          (relationshipPattern .blade defaultNames).ReadsBetween text 56 66 ∧
            b.opener.stop ≤ 56 ∧ 66 ≤ b.closer.start ∧
              (∀ c ∈ loopsOf .blade text, c.name ∈ itemLoops .blade → b.contains c = true →
                66 ≤ c.start ∨ c.stop ≤ 56) ∧ (Position.ofOffset text b.start).line = 1 := by
    rw [loopsOf_eq]
    decide +kernel
  obtain ⟨found, hfound, htold⟩ :=
    relationships_told "a.blade.php" text .blade .default defaultNames defaultMarkers rfl rfl
  obtain ⟨f, hf, hrule, hseverity, hat⟩ := htold b hb hname hmarker 56 66 hread hstart hstop hapart
  exact ⟨rfl, rfl, found, hfound, f, hf, hrule, hseverity, hat.trans (congrArg Int.ofNat hline)⟩

/-- The opener of a loop is cut out with it: a relationship that is loaded there, once for each item of the
loop around it, is told for neither of the two. -/
theorem relationships_missed :
    let text : Text :=
      "@foreach($posts as $post)\n@foreach($post->tags as $tag)\n@endforeach\n@endforeach"
    let loops := loopsOf .blade text
    Heuristics.default.relationshipNames = defaultNames.map .text ∧
      Heuristics.default.eagerLoadMarkers = defaultMarkers.map .text ∧ NoneCross loops ∧
        (∃ b ∈ loops, b.name ∈ itemLoops .blade ∧
          (∀ marker ∈ defaultMarkers, ¬ marker <:+: b.opener.text) ∧
            (relationshipPattern .blade defaultNames).ReadsBetween text 35 46 ∧
              b.opener.stop ≤ 35 ∧ 46 ≤ b.closer.start ∧
                ∀ c ∈ loops, c.name ∈ itemLoops .blade → b.contains c = true →
                  46 ≤ c.opener.stop ∨ c.closer.start ≤ 35) ∧
          relationships (.ofText "posts.blade.php" text .blade .default) = .ok [] := by
  intro text loops
  have hnothing : loops.flatMap
      (loadedIn ⟨"posts.blade.php", text, .blade, .default, loops⟩ defaultNames defaultMarkers) = [] := by
    rw [show loops = _ from loopsOf_eq .blade text]
    decide +kernel
  refine ⟨rfl, rfl, ?_, ?_, (relationships_eq rfl rfl).trans (congrArg Except.ok hnothing)⟩
  · rw [show loops = _ from loopsOf_eq .blade text]
    decide +kernel
  · rw [show loops = _ from loopsOf_eq .blade text]
    decide +kernel

end LoopDetectors
end TemplateLint
