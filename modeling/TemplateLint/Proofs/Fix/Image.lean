import TemplateLint.Fix
import TemplateLint.Proofs.Text.First
import TemplateLint.Proofs.Text.Ways
import TemplateLint.Rule.MarkupRules

/-!
# Images without an alternative text

A rule and a replacer look for the same thing under different keys: the rule compares markup character
by character, the replacer without regard to case.  Under either key an image tag reaches from its name
to the next end of a tag, and it lacks an alternative text if no attribute with that name starts in it
(`Image.Undescribed`).  A search finds the first such tag of a line (`Image.find?_pattern_iff`).
-/
namespace TemplateLint

namespace Text

variable {c : Char} {front inside rest after : Text}

/-- What stands in front of a text without a character ends before the character first occurs. -/
theorem prefix_of_not_mem (hfront : c ∉ front) (h : front ++ rest = inside ++ c :: after) :
    front <+: inside := by
  rcases List.append_eq_append_iff.mp h with ⟨more, rfl, -⟩ | ⟨more, rfl, hrest⟩
  · exact List.prefix_append front more
  · cases more with
    | nil =>
      rw [List.append_nil]
    | cons d more =>
      obtain ⟨rfl, -⟩ := List.cons.inj hrest
      exact absurd (List.mem_append_right inside List.mem_cons_self) hfront

/-- A text is split in one way only at the first place of a character. -/
theorem split_unique {inside' after' : Text} (hinside : c ∉ inside) (hinside' : c ∉ inside')
    (h : inside ++ c :: after = inside' ++ c :: after') : inside = inside' ∧ after = after' := by
  have hle := prefix_of_not_mem hinside h
  have hge := prefix_of_not_mem hinside' h.symm
  obtain rfl := hle.eq_of_length_le hge.length_le
  exact ⟨rfl, (List.cons.inj (List.append_cancel_left h)).2⟩

end Text

namespace Image

open Pattern

/-- A key under which markup is compared: the end of a tag is its own key, and only a character of a word
has the key of the letter with which the attribute starts. -/
structure Key (key : Char → Char) : Prop where
  close : key '>' = '>'
  word : ∀ c, key c = 'a' → isWord c = true

theorem key_id : Key id where
  close := rfl
  word := by
    rintro _ rfl
    decide

theorem key_caseless : Key caseless where
  close := by decide
  word := by
    intro c hc
    unfold caseless at hc
    split at hc
    · next hsmall =>
      have hword : ∀ n < 128, (Char.ofNat n).toLower = 'a' → isWord (Char.ofNat n) = true := by
        decide +kernel
      have hword := hword c.toNat hsmall
      rw [Char.ofNat_toNat] at hword
      exact hword hc
    split at hc
    · exact absurd hc (by decide)
    split at hc
    · exact absurd hc (by decide)
    split at hc
    · exact absurd hc (by decide)
    · rw [hc]
      decide

/-- An image without an alternative text, compared under a key. -/
def pattern (key : Char → Char) : Pattern :=
  chain
    [keyed key "<img", notAhead (chain [many 0 (· != '>'), edge, keyed key "alt="]),
      many 0 (· != '>'), lit ">"]

/-- The rule compares character by character. -/
theorem missingAltText_groups : MarkupRules.missingAltText.groups = LineRule.alone
    [(pattern id, "Image missing alt attribute. Add alt text for accessibility.")] := rfl

/-- The replacer compares without regard to case. -/
theorem imageWithoutAlt_eq : Fix.imageWithoutAlt = pattern caseless := rfl

/-- An attribute for an alternative text starts in a text. -/
def MentionsAlt (key : Char → Char) (text : Text) : Prop :=
  ∃ front alt behind, text = front ++ alt ++ behind ∧ alt.map key = String.toList "alt=" ∧
    front.getLast?.any isWord = false

/-- What an image tag without an alternative text has in front of its end. -/
structure Undescribed (key : Char → Char) (inside : Text) : Prop where
  opens : String.toList "<img" <+: inside.map key
  unclosed : '>' ∉ inside
  silent : ¬ MentionsAlt key inside

/-- A text that is read under a key has no end of a tag if none is asked for. -/
theorem Key.close_not_mem {key : Char → Char} (hkey : Key key) {read wanted : Text}
    (h : read.map key = wanted) (hwanted : '>' ∉ wanted) : '>' ∉ read := by
  intro hmem
  have hmem := List.mem_map_of_mem (f := key) hmem
  rw [h, hkey.close] at hmem
  exact hwanted hmem

/-! ## Reading an image tag -/

section
variable {key : Char → Char} {s : Spot} {groups : List Capture} {q : Progress}

/-- A run stops at the end of a tag. -/
theorem bne_close_iff {read : Text} : (∀ c ∈ read, (c != '>') = true) ↔ '>' ∉ read := by
  simp only [bne_iff_ne, ne_eq]
  exact ⟨fun h hmem => h _ hmem rfl, fun h c hc hclose => h (hclose ▸ hc)⟩

/-- Where an attribute for an alternative text starts before the end of the tag. -/
theorem exists_ways_alt (hkey : Key key) :
    (∃ q, q ∈ ways (chain [many 0 (· != '>'), edge, keyed key "alt="]) ⟨s, groups⟩) ↔
      ∃ front alt behind, s.rest = front ++ alt ++ behind ∧ '>' ∉ front ∧
        alt.map key = String.toList "alt=" ∧ (front.getLast?.or s.last).any isWord = false := by
  have hedge : ∀ {alt : Text} {last : Option Char} {behind : Text},
      alt.map key = String.toList "alt=" →
        (isEdge last (alt ++ behind).head? = true ↔ last.any isWord = false) := by
    intro alt last behind halt
    obtain ⟨c, alt, rfl, hc, -⟩ := List.map_eq_cons_iff.mp halt
    exact isEdge_before_iff (hkey.word c hc)
  show (∃ q, q ∈ ways (seq _ (seq _ _)) _) ↔ _
  rw [exists_mem_ways_seq]
  constructor
  · rintro ⟨r, hr, hmore⟩
    obtain ⟨front, after, hrest, hfront, rfl⟩ := mem_ways_many_zero.mp hr
    obtain ⟨r, hr, q, hq⟩ := exists_mem_ways_seq.mp hmore
    obtain ⟨hword, rfl⟩ := mem_ways_edge.mp hr
    obtain ⟨alt, behind, hafter, halt, -⟩ := mem_ways_keyed.mp hq
    rw [Spot.past_rest] at hafter
    subst hafter
    rw [Spot.past_rest, hedge halt] at hword
    rw [← List.append_assoc] at hrest
    exact ⟨front, alt, behind, hrest, bne_close_iff.mp hfront, halt, hword⟩
  · rintro ⟨front, alt, behind, hrest, hfront, halt, hword⟩
    rw [List.append_assoc] at hrest
    refine ⟨_, mem_ways_many_zero.mpr ⟨front, alt ++ behind, hrest, bne_close_iff.mpr hfront, rfl⟩, ?_⟩
    refine exists_mem_ways_seq.mpr ⟨_, mem_ways_edge.mpr ⟨?_, rfl⟩, ?_⟩
    · exact (hedge halt).mpr hword
    · exact ⟨_, mem_ways_keyed.mpr ⟨alt, behind, rfl, halt, rfl⟩⟩

/-- Behind the name of a tag such an attribute can be read exactly if it starts in the tag. -/
theorem mentionsAlt_iff (hkey : Key key) {name body : Text} (hname : name.map key = String.toList "<img")
    (hbody : '>' ∉ body) (last : Option Char) (after : Text) : MentionsAlt key (name ++ body) ↔
      ∃ front alt behind, body ++ '>' :: after = front ++ alt ++ behind ∧ '>' ∉ front ∧
        alt.map key = String.toList "alt=" ∧
        (front.getLast?.or (name.getLast?.or last)).any isWord = false := by
  have hlast : ∀ front : Text, front.getLast?.or (name.getLast?.or last) =
      (name ++ front).getLast? := by
    intro front
    have hname' : name ≠ [] := by
      rintro rfl
      cases hname
    rw [List.getLast?_append, List.getLast?_eq_some_getLast hname', Option.some_or]
  constructor
  · rintro ⟨lead, alt, behind, hsplit, halt, hword⟩
    rw [List.append_assoc] at hsplit
    -- the name of the attribute starts with a letter that the name of the tag does not have
    obtain ⟨front, rfl⟩ : name <+: lead := by
      rcases List.append_eq_append_iff.mp hsplit with ⟨front, rfl, -⟩ | ⟨more, rfl, hmore⟩
      · exact List.prefix_append name front
      · obtain ⟨c, alt, rfl, hc, -⟩ := List.map_eq_cons_iff.mp halt
        cases more with
        | nil => rw [List.append_nil]
        | cons d more =>
          obtain ⟨rfl, -⟩ := List.cons.inj hmore
          have hmem : key c ∈ (lead ++ c :: more).map key :=
            List.mem_map_of_mem (List.mem_append_right lead List.mem_cons_self)
          rw [hname, hc] at hmem
          exact absurd hmem (by decide)
    rw [List.append_assoc] at hsplit
    obtain rfl := List.append_cancel_left hsplit
    refine ⟨front, alt, behind ++ '>' :: after, ?_, ?_, halt, hlast front ▸ hword⟩
    · simp only [List.append_assoc]
    · exact fun hmem => hbody (List.mem_append_left _ hmem)
  · rintro ⟨front, alt, behind, hsplit, hfront, halt, hword⟩
    have hinside : front ++ alt <+: body := by
      refine Text.prefix_of_not_mem ?_ hsplit.symm
      rw [List.mem_append, not_or]
      exact ⟨hfront, hkey.close_not_mem halt (by decide)⟩
    obtain ⟨more, rfl⟩ := hinside
    refine ⟨name ++ front, alt, more, ?_, halt, hlast front ▸ hword⟩
    simp only [List.append_assoc]

/-- Where an image tag without an alternative text stands, and only there, it is read. -/
theorem mem_ways_pattern (hkey : Key key) : q ∈ ways (pattern key) ⟨s, groups⟩ ↔
    ∃ inside after, s.rest = inside ++ '>' :: after ∧ Undescribed key inside ∧
      q = ⟨s.past (inside ++ ['>']) after, groups⟩ := by
  show q ∈ ways (seq _ (seq _ (seq _ _))) _ ↔ _
  rw [ways, List.mem_flatMap]
  constructor
  · rintro ⟨r, hr, hq⟩
    obtain ⟨name, _, hrest, hname, rfl⟩ := mem_ways_keyed.mp hr
    obtain ⟨r, hr, hq⟩ := List.mem_flatMap.mp hq
    obtain ⟨hsilent, rfl⟩ := mem_ways_notAhead.mp hr
    obtain ⟨r, hr, hq⟩ := List.mem_flatMap.mp hq
    obtain ⟨body, _, hbody, hrun, rfl⟩ := mem_ways_many_zero.mp hr
    obtain ⟨after, hafter, rfl⟩ := mem_ways_lit.mp hq
    rw [Spot.past_rest] at hbody hafter
    subst hafter hbody
    have hclose := bne_close_iff.mp hrun
    refine ⟨name ++ body, after, by rw [hrest, List.append_assoc]; rfl, ⟨?_, ?_, ?_⟩, ?_⟩
    · rw [List.map_append, hname]
      exact List.prefix_append _ _
    · rw [List.mem_append, not_or]
      exact ⟨hkey.close_not_mem hname (by decide), hclose⟩
    · intro hmention
      exact hsilent ((exists_ways_alt hkey).mpr ((mentionsAlt_iff hkey hname hclose s.last after).mp
        hmention))
    · rw [Spot.past_past, Spot.past_past, List.append_assoc]
      rfl
  · rintro ⟨inside, after, hrest, hundescribed, rfl⟩
    obtain ⟨more, hopens⟩ := hundescribed.opens
    obtain ⟨name, body, rfl, hname, -⟩ := List.map_eq_append_iff.mp hopens.symm
    have hclose : '>' ∉ body := fun hmem => hundescribed.unclosed (List.mem_append_right name hmem)
    rw [List.append_assoc] at hrest
    refine ⟨_, mem_ways_keyed.mpr ⟨name, _, hrest, hname, rfl⟩, List.mem_flatMap.mpr ⟨_,
      mem_ways_notAhead.mpr ⟨?_, rfl⟩, List.mem_flatMap.mpr ⟨_, mem_ways_many_zero.mpr
        ⟨body, '>' :: after, rfl, bne_close_iff.mpr hclose, rfl⟩, mem_ways_lit.mpr
          ⟨after, rfl, ?_⟩⟩⟩⟩
    · intro hahead
      exact hundescribed.silent ((mentionsAlt_iff hkey hname hclose s.last after).mpr
        ((exists_ways_alt hkey).mp hahead))
    · rw [Spot.past_past, Spot.past_past, List.append_assoc]
      rfl

/-- An image tag without an alternative text is read in one way only, whatever stands in front. -/
theorem matchAt?_pattern_iff (hkey : Key key) {m : Match} : (pattern key).matchAt? s = some m ↔
    ∃ inside, inside ++ ['>'] <+: s.rest ∧ Undescribed key inside ∧
      m = ⟨s.passed, s.passed + inside.length + 1, inside ++ ['>'], []⟩ := by
  have hmatch : ∀ {inside after : Text}, s.rest = inside ++ '>' :: after →
      matchFrom s ⟨s.past (inside ++ ['>']) after, []⟩ =
        ⟨s.passed, s.passed + inside.length + 1, inside ++ ['>'], []⟩ := by
    intro inside after hrest
    have hread : s.rest = inside ++ ['>'] ++ after := by rw [hrest, List.append_assoc]; rfl
    rw [matchFrom_past hread, List.length_append, List.length_singleton, ← Nat.add_assoc]
    rfl
  rw [matchAt?_iff_of_unique]
  · simp only [mem_ways_pattern hkey]
    constructor
    · rintro ⟨_, ⟨inside, after, hrest, hundescribed, rfl⟩, rfl⟩
      exact ⟨inside, ⟨after, by rw [hrest, List.append_assoc]; rfl⟩, hundescribed, hmatch hrest⟩
    · rintro ⟨inside, ⟨after, hafter⟩, hundescribed, rfl⟩
      have hrest : s.rest = inside ++ '>' :: after := by rw [← hafter, List.append_assoc]; rfl
      exact ⟨_, ⟨inside, after, hrest, hundescribed, rfl⟩, (hmatch hrest).symm⟩
  · simp only [mem_ways_pattern hkey]
    rintro _ ⟨inside, after, hrest, hundescribed, rfl⟩ _ ⟨inside', after', hrest', hundescribed', rfl⟩
    obtain ⟨rfl, rfl⟩ := Text.split_unique hundescribed.unclosed hundescribed'.unclosed
      (hrest.symm.trans hrest')
    rfl

/-- It does not matter for an image tag which character stands in front. -/
theorem matchAt?_last (hkey : Key key) (passed : Nat) (last last' : Option Char) (rest : Text) :
    (pattern key).matchAt? ⟨passed, last, rest⟩ = (pattern key).matchAt? ⟨passed, last', rest⟩ := by
  refine Option.ext fun m => ?_
  rw [matchAt?_pattern_iff hkey, matchAt?_pattern_iff hkey]

end

/-! ## The first such image -/

/-- The first image tag without an alternative text in a line: where it starts, and what it has in
front of its end. -/
structure First (key : Char → Char) (line : Text) (start : Nat) (inside : Text) : Prop where
  stands : inside ++ ['>'] <+: line.drop start
  undescribed : Undescribed key inside
  first : ∀ j < start, ∀ earlier, earlier ++ ['>'] <+: line.drop j → ¬ Undescribed key earlier

/-- **A search finds the first image without an alternative text.** -/
theorem find?_pattern_iff {key : Char → Char} (hkey : Key key) {line : Text} {m : Match} :
    (pattern key).find? line = some m ↔ ∃ start inside, First key line start inside ∧
      m = ⟨start, start + inside.length + 1, inside ++ ['>'], []⟩ := by
  have hspot : ∀ k, (Spot.ofOffset line k).rest = line.drop k := fun _ => rfl
  have hnone : ∀ k, (pattern key).matchAt? (Spot.ofOffset line k) = none ↔
      ∀ inside, inside ++ ['>'] <+: line.drop k → ¬ Undescribed key inside := by
    intro k
    rw [Option.eq_none_iff_forall_ne_some]
    simp only [ne_eq, matchAt?_pattern_iff hkey, hspot, not_exists, not_and]
    exact ⟨fun h inside hstands hundescribed => h _ inside hstands hundescribed rfl,
      fun h m inside hstands hundescribed _ => h inside hstands hundescribed⟩
  rw [find?_eq_some_iff]
  constructor
  · rintro ⟨-, hmatch, hfirst⟩
    obtain ⟨inside, hstands, hundescribed, hm⟩ := (matchAt?_pattern_iff hkey).mp hmatch
    exact ⟨m.start, inside, ⟨hstands, hundescribed, fun j hj => (hnone j).mp (hfirst j hj)⟩, hm⟩
  · rintro ⟨start, inside, hfirst, rfl⟩
    have hle := hfirst.stands.length_le
    rw [List.length_append, List.length_singleton, List.length_drop] at hle
    refine ⟨by show start ≤ _; omega, ?_, fun j hj => (hnone j).mpr (hfirst.first j hj)⟩
    exact (matchAt?_pattern_iff hkey).mpr ⟨inside, hfirst.stands, hfirst.undescribed, rfl⟩

/-- The line around its first image without an alternative text. -/
theorem First.exists_split {key : Char → Char} {line inside : Text} {start : Nat}
    (h : First key line start inside) :
    ∃ front back, front.length = start ∧ line = front ++ (inside ++ ['>']) ++ back := by
  obtain ⟨back, hback⟩ := h.stands
  have hle := h.stands.length_le
  rw [List.length_append, List.length_singleton, List.length_drop] at hle
  refine ⟨line.take start, back, List.length_take_of_le (by omega), ?_⟩
  rw [List.append_assoc, hback, List.take_append_drop]

/-- There is only one first image without an alternative text. -/
theorem First.unique {key : Char → Char} (hkey : Key key) {line inside inside' : Text}
    {start start' : Nat} (h : First key line start inside) (h' : First key line start' inside') :
    start = start' ∧ inside = inside' := by
  have hfound := (find?_pattern_iff hkey).mpr ⟨start, inside, h, rfl⟩
  have hfound' := (find?_pattern_iff hkey).mpr ⟨start', inside', h', rfl⟩
  obtain ⟨hstart, -, htext, -⟩ := Match.mk.inj (Option.some.inj (hfound.symm.trans hfound'))
  exact ⟨hstart, List.append_cancel_right htext⟩

/-! ## The tag that is written instead -/

/-- The attribute that is written, with the blank in front of it and what stands behind it. -/
def added (close : Text) : Text := String.toList " alt=\"\"" ++ close

/-- The attribute is written in front of the end of the tag, behind all but blanks and a slash. -/
theorem exists_addEmptyAlt_eq (inside : Text) : ∃ kept cut close,
    inside = kept ++ cut ∧ (∀ c ∈ cut, isBlank c = true ∨ c = '/') ∧
      close ∈ [[], String.toList " /"] ∧
      Fix.addEmptyAlt (inside ++ ['>']) = kept ++ added close ++ ['>'] := by
  unfold Fix.addEmptyAlt added
  by_cases hslash : (String.toList "/>").isSuffixOf (inside ++ ['>']) = true
  · obtain ⟨front, hfront⟩ := List.isSuffixOf_iff_suffix.mp hslash
    obtain rfl : front ++ ['/'] = inside := by
      have hends : front ++ ['/'] ++ ['>'] = inside ++ ['>'] := by
        rw [List.append_assoc]
        exact hfront
      exact List.append_cancel_right hends
    obtain ⟨cut, hcut, hblank⟩ := Text.exists_stripRight_append front
    refine ⟨Text.stripRight front, cut ++ ['/'], " /", ?_, ?_, by decide, ?_⟩
    · rw [← List.append_assoc, ← hcut]
    · intro c hc
      exact (List.mem_append.mp hc).imp (hblank c) List.mem_singleton.mp
    · have htake : (front ++ ['/'] ++ ['>']).take ((front ++ ['/'] ++ ['>']).length - 2) = front := by
        rw [List.append_assoc, List.length_append]
        exact List.take_left
      rw [if_pos hslash, htake, List.append_assoc, List.append_assoc]
      rfl
  · obtain ⟨cut, hcut, hblank⟩ := Text.exists_stripRight_append inside
    refine ⟨Text.stripRight inside, cut, [], hcut, fun c hc => Or.inl (hblank c hc), by decide, ?_⟩
    rw [if_neg hslash, List.dropLast_concat, List.append_nil, List.append_assoc]
    rfl

end Image
end TemplateLint
