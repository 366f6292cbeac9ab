import TemplateLint.Proofs.Analysis.Words
import TemplateLint.Proofs.Antlers.Layout
import TemplateLint.Proofs.Antlers.Pipes
import TemplateLint.Proofs.Antlers.Scanned
import TemplateLint.Proofs.Entries

/-!
# Variables that are never read

A variable is listed as unused if some tag assigns it and none reads it.  A tag reads the whole words of
its rest, and if it assigns nothing also the first part of its head and the values of its parameters
(`Optimizations.mem_namesRead_iff`).  So a name that is listed may still stand in a tag, namely where no
read is looked for: in a head with more than the name, or behind a pipe.  A name that is no plain word
may also stand in the rest, or take in what is cut off around it
(`Optimizations.unusedVariables_mentions_iff`).
-/
namespace TemplateLint

/-- A word holds no blanks and no slashes. -/
theorem Tag.IsAround.isWord_eq_false {c : Char} (h : Tag.IsAround c) : isWord c = false := by
  rcases h with hblank | rfl
  · rw [Bool.eq_false_iff]
    intro hword
    have hparam : Tag.isParamChar c = true := by rw [Tag.isParamChar, hword]; rfl
    rw [Tag.isBlank_of_isParamChar hparam] at hblank
    cases hblank
  · decide

theorem Value.names_injective : Function.Injective names := fun _ _ h =>
  List.map_injective_iff.mpr (fun _ _ htext => Value.text.inj htext) (Value.list.inj h)

namespace Optimizations

open Text

/-- How a tag reads a name: as a word of its rest, or if the tag assigns nothing as the first part of its
head or as the value of a parameter. -/
inductive Reads (t : Tag) (v : Text) : Prop
  | word (hname : Plain v) (hword : HasWord v t.rest)
  | root (hplain : t.isAssignment = false) (hroot : v = TagRules.rootName t.head)
  | value (hplain : t.isAssignment = false) (hvalue : v ∈ t.params.map (·.2))

/-- The text between the braces of a tag. -/
def inside (text : Text) (t : Tag) : Text := slice text (t.start + 2) (t.stop - 2)

/-- A name stands between the braces of a tag as a whole word, and not as what the tag assigns. -/
def Mentions (text : Text) (t : Tag) (v : Text) : Prop :=
  ∃ before after, inside text t = before ++ v ++ after ∧ WholeAt before after ∧
    ¬ (t.isAssignment = true ∧ t.head = v ∧ before = Tag.margin (inside text t))

/-- Where a name stands and no read of it is looked for: as a part of the head, in the rest if it is no
plain word, behind a pipe that starts a modifier, or beyond what the tag says, where it takes in blanks
or the slash in front of that or behind it. -/
inductive Overlooked (text : Text) (t : Tag) (v : Text) : Prop
  | head (hword : HasWord v t.head) (hother : ¬ (t.isAssignment = true ∧ t.head = v))
  | rest (hname : ¬ Plain v) (hword : HasWord v t.rest)
  | modifier (front back : Text) (hsplit : inside text t = front ++ '|' :: back)
      (hlone : front.getLast? ≠ some '|' ∧ back.head? ≠ some '|') (hword : HasWord v back)
  | margin (before after first : Text) (hsplit : inside text t = before ++ v ++ after)
      (hwhole : WholeAt before after) (hmargin : Tag.margin (inside text t) = before ++ first)
      (hfirst : first ≠ [])
  | behind (before after last : Text) (hsplit : inside text t = before ++ v ++ after)
      (hwhole : WholeAt before after)
      (hreach : before ++ v = Tag.margin (inside text t) ++ Tag.said (inside text t) ++ last)
      (hlast : last ≠ []) (haround : ∀ c ∈ last, Tag.IsAround c)

variable {ctx : AnalysisContext} {f : Finding} {names : List Text} {text v : Text} {t : Tag}

/-! ## What is read -/

/-- The equals sign of an assignment does not matter for the words behind it. -/
theorem mem_namesRead_iff : v ∈ namesRead t ↔ Reads t v := by
  rw [namesRead]
  split
  · next hassigns =>
    have hrest : ∃ more, t.rest = ['='] ++ more := by
      rw [Tag.isAssignment] at hassigns
      split at hassigns
      · cases hassigns
      · next more heq => exact ⟨_, heq⟩
      · cases hassigns
    obtain ⟨more, hmore⟩ := hrest
    have hsign : ∀ c ∈ ['='], isWord c = false := List.forall_mem_singleton.mpr (by decide)
    have hwords : Plain v → (HasWord v t.rest ↔ HasWord v more) := fun hname => by
      rw [hmore]
      exact hname.hasWord_append_iff hsign
    rw [mem_wordsOf_iff, hmore, List.singleton_append, List.drop_succ_cons, List.drop_zero]
    constructor
    · rintro ⟨hname, hword⟩
      exact .word hname ((hwords hname).mpr hword)
    · rintro (⟨hname, hword⟩ | ⟨hplain, -⟩ | ⟨hplain, -⟩)
      · exact ⟨hname, (hwords hname).mp hword⟩
      · exact absurd hassigns (by rw [hplain]; decide)
      · exact absurd hassigns (by rw [hplain]; decide)
  · next hassigns =>
    have hplain := Bool.eq_false_iff.mpr hassigns
    rw [List.mem_cons, List.mem_append, mem_wordsOf_iff]
    constructor
    · rintro (hroot | ⟨hname, hword⟩ | hvalue)
      · exact .root hplain hroot
      · exact .word hname hword
      · exact .value hplain hvalue
    · rintro (⟨hname, hword⟩ | ⟨-, hroot⟩ | ⟨-, hvalue⟩)
      · exact Or.inr (Or.inl ⟨hname, hword⟩)
      · exact Or.inl hroot
      · exact Or.inr (Or.inr hvalue)

/-! ## What is listed -/

/-- The assigned names stand in the order of their first assignments. -/
theorem keys_assigned (tags : List Tag) :
    (assigned tags).keys = firstSeen ((tags.filter (·.isAssignment)).map (·.head)) := by
  rw [assigned]
  generalize tags.filter (·.isAssignment) = assigning
  induction assigning using List.reverseRecOn with
  | nil => rfl
  | append_singleton before t ih =>
    rw [List.foldl_append, List.map_append, List.map_singleton, firstSeen_concat, ← ih]
    generalize before.foldl _ [] = found
    show Entries.keys (if (Entries.get? t.head found).isSome then found
      else Entries.put t.head t.start found) = _
    have hknown : (Entries.get? t.head found).isSome = true ↔ t.head ∈ Entries.keys found := by
      rw [Entries.get?, List.lookup_isSome_iff, Entries.keys, List.mem_map]
      exact exists_congr fun entry => and_congr_right fun _ => beq_iff_eq.trans eq_comm
    split
    · next hsome => rw [if_pos (hknown.mp hsome)]
    · next hsome => rw [Entries.keys_put]

/-- A name is listed exactly if some tag assigns it, it is no control word, and no tag reads it. -/
theorem mem_names_iff (hf : f ∈ unusedVariables ctx)
    (hnames : f.details.get? "variables" = some (.names names)) :
    v ∈ names ↔ (∃ t ∈ Tag.scan ctx.text, t.isAssignment = true ∧ t.head = v) ∧
      v ∉ Tag.controlWords ∧ ∀ t ∈ Tag.scan ctx.text, ¬ Reads t v := by
  have hlisted : names = ((assigned (Tag.scan ctx.text)).filter fun v =>
      v.1 ∉ (Tag.scan ctx.text).flatMap namesRead ∧ v.1 ∉ Tag.controlWords).map (·.1) := by
    rw [unusedVariables] at hf
    split at hf
    · dsimp only at hf
      split at hf
      · cases hf
      · obtain rfl := List.mem_singleton.mp hf
        exact Value.names_injective (Option.some.inj hnames).symm
    · cases hf
  have hassigned : v ∈ (assigned (Tag.scan ctx.text)).keys ↔
      ∃ t ∈ Tag.scan ctx.text, t.isAssignment = true ∧ t.head = v := by
    rw [keys_assigned, mem_firstSeen, List.mem_map]
    simp only [List.mem_filter, and_assoc]
  have hread : v ∉ (Tag.scan ctx.text).flatMap namesRead ↔ ∀ t ∈ Tag.scan ctx.text, ¬ Reads t v := by
    simp only [List.mem_flatMap, mem_namesRead_iff, not_exists, not_and]
  rw [hlisted, ← hassigned, ← hread, Entries.keys, List.mem_map, List.mem_map]
  constructor
  · rintro ⟨entry, hentry, rfl⟩
    obtain ⟨hmem, hunread⟩ := List.mem_filter.mp hentry
    obtain ⟨hunread, hcontrol⟩ := of_decide_eq_true hunread
    exact ⟨⟨entry, hmem, rfl⟩, hcontrol, hunread⟩
  · rintro ⟨⟨entry, hmem, rfl⟩, hcontrol, hunread⟩
    exact ⟨entry, List.mem_filter.mpr ⟨hmem, decide_eq_true ⟨hunread, hcontrol⟩⟩, rfl⟩

/-! ## What is overlooked -/

theorem parse_inside (ht : t ∈ Tag.scan text) :
    Tag.parse (inside text t) t.start (slice text t.start t.stop) = t :=
  ((Tag.scanned_scan text).reads t ht).symm

theorem exists_layout_of_mem_scan (ht : t ∈ Tag.scan text) :
    ∃ gap pad piped, Tag.Layout (inside text t) t gap pad piped := by
  have hlayout := Tag.exists_layout (inside text t) t.start (slice text t.start t.stop)
  rwa [parse_inside ht] at hlayout

/-- Something stands behind the head of an assignment. -/
theorem rest_ne_nil_of_isAssignment (h : t.isAssignment = true) : t.rest ≠ [] := by
  intro hnil
  rw [Tag.isAssignment, hnil] at h
  cases h

/-- What is listed is a name. -/
theorem isName_of_mem_names (hf : f ∈ unusedVariables ctx)
    (hnames : f.details.get? "variables" = some (.names names)) (hv : v ∈ names) : Tag.IsName v := by
  obtain ⟨⟨t, ht, hassigns, rfl⟩, -⟩ := (mem_names_iff hf hnames).mp hv
  have hname := Tag.isName_head (inside ctx.text t) t.start (slice ctx.text t.start t.stop)
  rw [parse_inside ht] at hname
  exact hname (rest_ne_nil_of_isAssignment hassigns)

section
variable {before after gap pad piped : Text}

/-- A name that stands in what a tag says stands in the head or in the rest, since it holds no space. -/
theorem place_of_said (h : Tag.Layout (inside text t) t gap pad piped) (hname : Tag.IsName v)
    (hsplit : Tag.said (inside text t) = before ++ v ++ after) :
    (∃ after', t.head = before ++ v ++ after' ∧ after = after' ++ (gap ++ t.rest)) ∨
      ∃ before', before = t.head ++ (gap ++ before') ∧ t.rest = before' ++ v ++ after := by
  obtain ⟨c, more, rfl⟩ := List.exists_cons_of_ne_nil hname.ne_nil
  have hfirst : c ∉ gap := fun hmem => by
    have hblank := hname.first c rfl
    rw [h.blank c hmem] at hblank
    cases hblank
  rcases place_of_append (h.words.symm.trans hsplit) with hhead | ⟨before', rfl, hrest⟩ |
    ⟨front, back, hv, -, hback, -, hrest⟩
  · exact Or.inl hhead
  · rcases place_of_append hrest with ⟨after', rfl, -⟩ | ⟨before'', rfl, hin⟩ |
      ⟨front, back, hv, hfront, -, rfl, -⟩
    · exact absurd (by simp) hfirst
    · exact Or.inr ⟨before'', rfl, hin⟩
    · obtain ⟨d, front, rfl⟩ := List.exists_cons_of_ne_nil hfront
      obtain rfl : c = d := (List.cons.inj hv).1
      exact absurd (by simp) hfirst
  · -- what goes on behind the head starts with a space
    exfalso
    obtain ⟨d, back, rfl⟩ := List.exists_cons_of_ne_nil hback
    rcases h.spaced with ⟨rfl, hnone⟩ | hspace
    · rw [hnone] at hrest
      cases hrest
    · obtain ⟨gap, rfl⟩ := List.head?_eq_some_iff.mp hspace
      obtain rfl : ' ' = d := (List.cons.inj hrest).1
      exact hname.space (hv ▸ List.mem_append_right front List.mem_cons_self)

/-- The pipe in front of the modifiers is in no name, since it is a lone one. -/
theorem pipe_not_within {front back : Text} (h : Tag.Layout (inside text t) t gap pad piped)
    (hname : Tag.IsName v) (hv : v = front ++ back) (hback : back ≠ [])
    (hpiped : piped = back ++ after) :
    Tag.margin (inside text t) ++ (Tag.said (inside text t) ++ pad) ≠ before ++ front := by
  intro hfront
  rcases h.lone with rfl | ⟨more, rfl, hlast, hhead⟩
  · exact hback (List.append_eq_nil_iff.mp hpiped.symm).1
  · obtain ⟨c, back, rfl⟩ := List.exists_cons_of_ne_nil hback
    obtain ⟨rfl, hmore⟩ := List.cons.inj hpiped
    refine hname.pipe ⟨front, back, hv, fun hpipe => hlast ?_, fun hpipe => hhead ?_⟩
    · rw [Option.or_none] at hpipe
      rw [hfront, List.getLast?_append, hpipe, Option.some_or]
    · rw [hmore, List.append_eq, List.head?_append, hpipe, Option.some_or]

/-- A name stands in front of the modifiers of a tag or behind the pipe that starts them. -/
theorem place_of_inside (h : Tag.Layout (inside text t) t gap pad piped) (hname : Tag.IsName v)
    (hsplit : inside text t = before ++ v ++ after) :
    (∃ after', Tag.margin (inside text t) ++ (Tag.said (inside text t) ++ pad) =
        before ++ v ++ after' ∧ after = after' ++ piped) ∨
      ∃ front before' back, before = front ++ '|' :: before' ∧
        inside text t = front ++ '|' :: back ∧ back = before' ++ v ++ after ∧
        front.getLast? ≠ some '|' ∧ back.head? ≠ some '|' := by
  rcases place_of_append (h.split.symm.trans hsplit) with hin | ⟨before', hbefore, hpiped⟩ |
    ⟨front, back, hv, -, hback, htold, hpiped⟩
  · exact Or.inl hin
  · cases before' with
    | nil =>
      rw [List.append_nil, ← List.append_nil before] at hbefore
      exact absurd hbefore.symm
        (pipe_not_within h hname (List.nil_append v).symm hname.ne_nil hpiped)
    | cons c before' =>
      rcases h.lone with rfl | ⟨back, rfl, hlone⟩
      · cases hpiped
      · obtain ⟨rfl, rfl⟩ := List.cons.inj hpiped
        exact Or.inr ⟨_, before', _, hbefore, h.split, rfl, hlone⟩
  · exact absurd htold (pipe_not_within h hname hv hback hpiped)

/-- A name in what a tag says is a part of the head, or is no plain word if the tag does not read it. -/
theorem overlooked_of_said (h : Tag.Layout (inside text t) t gap pad piped) (hname : Tag.IsName v)
    (hunread : ¬ Reads t v) (hsaid : Tag.said (inside text t) = before ++ v ++ after)
    (hwhole : WholeAt before after) (hother : t.isAssignment = true → t.head = v → before ≠ []) :
    Overlooked text t v := by
  rcases place_of_said h hname hsaid with ⟨more, hhead, rfl⟩ | ⟨more, rfl, hrest⟩
  · refine .head ⟨before, more, hhead, hwhole.of_append_right⟩ ?_
    rintro ⟨hassigns, heq⟩
    refine hother hassigns heq (List.length_eq_zero_iff.mp ?_)
    have hlength := congrArg List.length hhead
    rw [heq, List.length_append, List.length_append] at hlength
    omega
  · have hword : HasWord v t.rest :=
      ⟨more, after, hrest, hwhole.of_append_left.of_append_left⟩
    exact .rest (fun hplain => hunread (.word hplain hword)) hword

/-- A name in front of the modifiers stands in what a tag says, or takes in what is cut off around it. -/
theorem overlooked_of_told (h : Tag.Layout (inside text t) t gap pad piped) (hname : Tag.IsName v)
    (hunread : ¬ Reads t v) (hinside : inside text t = before ++ v ++ (after ++ piped))
    (htold : Tag.margin (inside text t) ++ (Tag.said (inside text t) ++ pad) = before ++ v ++ after)
    (hwhole : WholeAt before (after ++ piped))
    (hother : t.isAssignment = true → t.head = v → before ≠ Tag.margin (inside text t)) :
    Overlooked text t v := by
  rcases place_of_append htold with ⟨more, hmargin, -⟩ | ⟨before', rfl, hsays⟩ |
    ⟨front, back, -, hfront, -, hmargin, -⟩
  · refine .margin before _ (v ++ more) hinside hwhole ?_ ?_
    · rw [hmargin, List.append_assoc]
    · exact List.append_ne_nil_of_left_ne_nil hname.ne_nil more
  · rcases place_of_append hsays with ⟨more, hsaid, rfl⟩ | ⟨more, rfl, hpad⟩ |
      ⟨front, back, hv, -, hback, hsaid, hpad⟩
    · refine overlooked_of_said h hname hunread hsaid ?_ ?_
      · exact hwhole.of_append_left.of_append_right.of_append_right
      · rintro hassigns heq rfl
        exact hother hassigns heq (List.append_nil _)
    · refine .behind _ _ (more ++ v) hinside hwhole ?_ ?_ fun c hc => ?_
      · simp only [List.append_assoc]
      · exact List.append_ne_nil_of_right_ne_nil more hname.ne_nil
      · exact h.around c (hpad ▸ List.mem_append_left _ hc)
    · refine .behind _ _ back hinside hwhole ?_ hback fun c hc => ?_
      · rw [hv, hsaid]
        simp only [List.append_assoc]
      · exact h.around c (hpad ▸ List.mem_append_left _ hc)
  · exact .margin before _ front hinside hwhole hmargin hfront

end

/-- A name that a tag mentions and does not read is overlooked. -/
theorem Mentions.overlooked (h : Mentions text t v) (ht : t ∈ Tag.scan text) (hname : Tag.IsName v)
    (hunread : ¬ Reads t v) : Overlooked text t v := by
  obtain ⟨gap, pad, piped, hlayout⟩ := exists_layout_of_mem_scan ht
  obtain ⟨before, after, hinside, hwhole, hnot⟩ := h
  rcases place_of_inside hlayout hname hinside with ⟨after', htold, rfl⟩ |
    ⟨front, before', back, rfl, hsplit, rfl, hlone⟩
  · refine overlooked_of_told hlayout hname hunread hinside htold hwhole ?_
    exact fun hassigns heq hmargin => hnot ⟨hassigns, heq, hmargin⟩
  · have hbehind : WholeAt (['|'] ++ before') after := hwhole.of_append_left
    exact .modifier front _ hsplit hlone ⟨before', after, rfl, hbehind.of_append_left⟩

section
variable {gap pad piped : Text}

/-- Behind what a tag says no word goes on. -/
theorem any_head?_behind_said (h : Tag.Layout text t gap pad piped) :
    (pad ++ piped).head?.any isWord = false := by
  cases pad with
  | nil =>
    rcases h.lone with rfl | ⟨back, rfl, -⟩
    · rfl
    · exact (by decide : isWord '|' = false)
  | cons c pad => exact (h.around c List.mem_cons_self).isWord_eq_false

/-- Behind the head of a tag no word goes on. -/
theorem any_head?_behind_head (h : Tag.Layout text t gap pad piped) :
    (gap ++ (t.rest ++ (pad ++ piped))).head?.any isWord = false := by
  rcases h.spaced with ⟨rfl, hrest⟩ | hspace
  · rw [hrest, List.nil_append, List.nil_append]
    exact any_head?_behind_said h
  · rw [List.head?_append, hspace, Option.some_or]
    decide

/-- Nor does one where the rest starts. -/
theorem any_getLast?_before_rest (h : Tag.Layout text t gap pad piped) (hrest : t.rest ≠ [])
    (front : Text) : (front ++ gap).getLast?.any isWord = false := by
  have hgap : gap ≠ [] := by
    rintro rfl
    exact h.spaced.elim (fun hnone => hrest hnone.2) nofun
  rw [List.getLast?_append_of_ne_nil _ hgap]
  exact any_getLast?_of_forall fun c hc => Tag.IsAround.isWord_eq_false (Or.inl (h.blank c hc))

end

/-- Where a name is overlooked, it is mentioned. -/
theorem Overlooked.mentions (h : Overlooked text t v) (ht : t ∈ Tag.scan text) (hname : Tag.IsName v) :
    Mentions text t v := by
  obtain ⟨gap, pad, piped, hlayout⟩ := exists_layout_of_mem_scan ht
  have hinside := hlayout.split
  rw [hlayout.words] at hinside
  cases h with
  | head hword hother =>
    obtain ⟨before, after, hhead, hwhole⟩ := hword
    have hmargin : ∀ c ∈ Tag.margin (inside text t), isWord c = false := fun c hc =>
      (Tag.isAround_of_mem_margin hc).isWord_eq_false
    refine ⟨Tag.margin (inside text t) ++ before, after ++ (gap ++ (t.rest ++ (pad ++ piped))), ?_,
      hwhole.extend (any_getLast?_of_forall hmargin) (any_head?_behind_head hlayout),
      fun hassigned => hother ⟨hassigned.1, hassigned.2.1⟩⟩
    rw [hhead] at hinside
    simpa only [List.append_assoc] using hinside
  | rest _ hword =>
    obtain ⟨before, after, hrest, hwhole⟩ := hword
    have hne : t.rest ≠ [] := by
      rw [hrest]
      simp [hname.ne_nil]
    have hgap := any_getLast?_before_rest hlayout hne (Tag.margin (inside text t) ++ t.head)
    refine ⟨_, _, ?_, hwhole.extend hgap (any_head?_behind_said hlayout), ?_⟩
    · rw [hrest] at hinside
      simpa only [List.append_assoc] using hinside
    · rintro ⟨-, rfl, heq⟩
      rw [List.append_assoc, List.append_assoc] at heq
      exact hname.ne_nil (List.append_eq_nil_iff.mp (List.append_right_eq_self.mp heq)).1
  | modifier front back hsplit _ hword =>
    obtain ⟨before, after, rfl, hwhole⟩ := hword
    refine ⟨front ++ ['|'] ++ before, after, ?_, ?_, ?_⟩
    · rw [hsplit]
      simp only [List.append_assoc, List.cons_append, List.nil_append]
    · have hpipe : (front ++ ['|']).getLast?.any isWord = false := by
        rw [List.getLast?_concat]
        decide
      have hnil : ([] : Text).head?.any isWord = false := rfl
      simpa only [List.append_nil] using hwhole.extend hpipe hnil
    · -- a margin holds no pipe
      rintro ⟨-, -, hmargin⟩
      have hpipe : '|' ∈ front ++ ['|'] ++ before := by simp
      rw [hmargin] at hpipe
      exact Tag.not_isAround_pipe (Tag.isAround_of_mem_margin hpipe)
  | margin before after first hsplit hwhole hmargin hfirst =>
    refine ⟨before, after, hsplit, hwhole, ?_⟩
    rintro ⟨-, -, heq⟩
    exact hfirst (List.self_eq_append_right.mp (heq.trans hmargin))
  | behind before after last hsplit hwhole hreach hlast _ =>
    refine ⟨before, after, hsplit, hwhole, ?_⟩
    rintro ⟨-, hhead, heq⟩
    -- the head does not reach beyond what the tag says
    rw [heq, hlayout.words, hhead] at hreach
    have hlength := congrArg List.length hreach
    simp only [List.length_append] at hlength
    exact hlast (List.length_eq_zero_iff.mp (by omega))

/-- **An unused variable that still stands in a tag stands where no read is looked for.**  A tag reads no
name that is listed; and it mentions one, other than as the name that it assigns, exactly if the name is
a part of a longer head, is no plain word and stands in the rest, stands behind a pipe that starts a
modifier, or takes in blanks or a slash around what the tag says. -/
theorem unusedVariables_mentions_iff (hf : f ∈ unusedVariables ctx)
    (hnames : f.details.get? "variables" = some (.names names)) (hv : v ∈ names)
    (ht : t ∈ Tag.scan ctx.text) :
    ¬ Reads t v ∧ (Mentions ctx.text t v ↔ Overlooked ctx.text t v) := by
  have hunread := ((mem_names_iff hf hnames).mp hv).2.2 t ht
  have hname := isName_of_mem_names hf hnames hv
  exact ⟨hunread, fun hmention => hmention.overlooked ht hname hunread,
    fun hoverlooked => hoverlooked.mentions ht hname⟩

/-- A variable that only a modifier takes as its argument. -/
theorem unusedVariables_mentions_argument :
    let text : Text := "\x7b\x7b greeting = 1 \x7d\x7d\x7b\x7b title | append(greeting) \x7d\x7d"
    let ctx := AnalysisContext.ofText "page" text .antlers Heuristics.default
    let f := note ctx "unused_variables" .maintainability 0 "Unused variables detected: greeting"
      "Remove unused variable assignments" none [("variables", .names ["greeting"])]
    let t := Tag.between text 18 48
    f ∈ unusedVariables ctx ∧ f.details.get? "variables" = some (.names ["greeting"]) ∧
      String.toList "greeting" ∈ [String.toList "greeting"] ∧ t ∈ Tag.scan ctx.text ∧
      ¬ Reads t "greeting" ∧ (Mentions ctx.text t "greeting" ↔ Overlooked ctx.text t "greeting") := by
  intro text ctx f t
  have hf : f ∈ unusedVariables ctx := by decide +kernel
  have hnames : f.details.get? "variables" = some (.names ["greeting"]) := rfl
  have hv : String.toList "greeting" ∈ [String.toList "greeting"] := List.mem_singleton_self _
  have ht : t ∈ Tag.scan ctx.text := by decide +kernel
  exact ⟨hf, hnames, hv, ht, unusedVariables_mentions_iff hf hnames hv ht⟩

/-- The argument of a modifier is not looked at, so the variable is listed although a tag reads it. -/
theorem unusedVariables_lists_argument :
    let text : Text := "\x7b\x7b greeting = 1 \x7d\x7d\x7b\x7b title | append(greeting) \x7d\x7d"
    let ctx := AnalysisContext.ofText "page" text .antlers Heuristics.default
    ∃ f ∈ unusedVariables ctx, f.rule = String.toList "unused_variables" ∧
      f.details.get? "variables" = some (.names ["greeting"]) ∧
      ∃ t ∈ Tag.scan ctx.text, t.isAssignment = false ∧ Mentions ctx.text t "greeting" := by
  intro text ctx
  refine ⟨note ctx "unused_variables" .maintainability 0 "Unused variables detected: greeting"
    "Remove unused variable assignments" none [("variables", .names ["greeting"])], ?_, rfl, rfl,
    Tag.between text 18 48, ?_, ?_, String.toList " title | append(", String.toList ") ", ?_, ?_, ?_⟩
  · decide +kernel
  · decide +kernel
  · decide +kernel
  · decide +kernel
  · exact ⟨by decide, by decide⟩
  · rintro ⟨hassigns, -⟩
    revert hassigns
    decide +kernel

end Optimizations
end TemplateLint
