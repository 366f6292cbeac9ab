import TemplateLint.Proofs.Antlers.Comment
import TemplateLint.Proofs.Antlers.Scanned

/-!
# Swallowed openings

A tag ends at the nearest closing braces, whatever stands in front of them, so it swallows an opening
that comes first.  The rule about openings without an end looks at the same braces from the other side:
an opening lacks its end exactly if every closing braces behind it stand behind another opening
(`StructureRules.mem_unterminatedIn_iff`).  So the tags that swallow an opening are those at which the
rule reports something, and where it reports nothing each opening of a tag is read as one
(`StructureRules.unterminatedTag_swallowed`).
-/
namespace TemplateLint

variable {text : Text} {start stop : Nat}

/-- Two characters with which a text goes on at an offset. -/
theorem Text.getElem?_of_prefix {a b : Char} {k : Nat} (h : [a, b] <+: text.drop k) :
    text[k]? = some a ∧ text[k + 1]? = some b := by
  obtain ⟨after, hafter⟩ := h
  have hplace (i : Nat) : (text.drop k)[i]? = text[k + i]? := List.getElem?_drop
  have hfirst := hplace 0
  have hsecond := hplace 1
  rw [← hafter] at hfirst hsecond
  exact ⟨hfirst.symm, hsecond.symm⟩

/-- Opening and closing braces share no character. -/
theorem braces_apart {j k : Nat} (hopen : openBraces <+: text.drop k)
    (hclose : closeBraces <+: text.drop j) : k + 2 ≤ j ∨ j + 2 ≤ k := by
  have hopened := Text.getElem?_of_prefix hopen
  have hclosed := Text.getElem?_of_prefix hclose
  have hne (i : Nat) : text[i]? = some '\x7b' → text[i]? = some '\x7d' → False := by
    intro h h'
    rw [h] at h'
    exact absurd h' (by decide)
  have hsame : j ≠ k := fun h => hne k hopened.1 (h ▸ hclosed.1)
  have hbefore : j + 1 ≠ k := fun h => hne k hopened.1 (h ▸ hclosed.2)
  have hbehind : k + 1 ≠ j := fun h => hne (k + 1) hopened.2 (h ▸ hclosed.1)
  omega

/-- A text stands between two offsets if the whole text goes on with it at some place between them. -/
theorem Text.infix_slice_iff {wanted : Text} (hne : wanted ≠ []) :
    wanted <:+: Text.slice text start stop ↔
      ∃ j, start ≤ j ∧ j + wanted.length ≤ stop ∧ wanted <+: text.drop j := by
  have hlength := List.length_pos_iff.mpr hne
  have hplace : ∀ i, wanted <+: (Text.slice text start stop).drop i ↔
      wanted <+: text.drop (start + i) ∧ wanted.length ≤ stop - start - i := by
    intro i
    rw [Text.slice, List.drop_take, List.prefix_take_iff, List.drop_drop]
  constructor
  · intro h
    obtain ⟨rest, hprefix, hsuffix⟩ := List.infix_iff_prefix_suffix.mp h
    rw [List.suffix_iff_eq_drop.mp hsuffix, hplace] at hprefix
    exact ⟨_, Nat.le_add_right start _, by omega, hprefix.1⟩
  · rintro ⟨j, hstart, hstop, hprefix⟩
    have hj : start + (j - start) = j := by omega
    have hinside := (hplace (j - start)).mpr ⟨by rwa [hj], by omega⟩
    exact hinside.isInfix.trans (List.drop_suffix _ _).isInfix

namespace StructureRules

open Pattern

/-- The braces at an offset open a tag or a comment: they are not escaped, and no third brace
follows. -/
structure Opening (text : Text) (start : Nat) : Prop where
  braces : openBraces <+: text.drop start
  before : ∀ k c, k + 1 = start → text[k]? = some c → c ≠ '@'
  behind : ∀ c, text[start + 2]? = some c → c ≠ '\x7b'

theorem opening_iff : Opening text start ↔
    opensAt (Spot.ofOffset text start).last (text.drop start) = true := by
  have hnot : ∀ (found : Option Char) (a : Char), (!found.any (· == a)) = true ↔
      ∀ c, found = some c → c ≠ a := by
    intro found a
    cases found <;> simp
  rw [opensAt, List.drop_drop, List.head?_drop, Bool.and_eq_true, Bool.and_eq_true,
    List.isPrefixOf_iff_prefix, hnot, hnot, Spot.forall_last_ofOffset_iff]
  exact ⟨fun h => ⟨⟨h.braces, h.before⟩, h.behind⟩, fun h => ⟨h.1.1, h.1.2, h.2⟩⟩

/-- A third brace would follow the first of two openings that overlap. -/
theorem Opening.apart {k : Nat} (h : Opening text start) (h' : Opening text k) (hlt : start < k) :
    start + 2 ≤ k := by
  have hbraces := Text.getElem?_of_prefix h'.braces
  have hne : start + 1 ≠ k := by
    rintro rfl
    exact h.behind _ hbraces.2 rfl
  omega

/-- **The search finds every opening**: none of them reaches into another one. -/
theorem mem_openings_iff : start ∈ openings text ↔ Opening text start := by
  have hmatch : ∀ k m, tagOpenPattern.matchAt? (Spot.ofOffset text k) = some m ↔
      Opening text k ∧ m = ⟨k, k + 2, openBraces, []⟩ := by
    intro k m
    have hspot : Spot.ofOffset text k = ⟨k, (Spot.ofOffset text k).last, text.drop k⟩ := rfl
    rw [hspot, matchAt?_tagOpenPattern, opening_iff]
    split
    · next h => simp [h, eq_comm]
    · next h => simp [h]
  rw [openings, List.mem_map]
  constructor
  · rintro ⟨m, hm, rfl⟩
    obtain ⟨-, hfound, -⟩ := mem_findAll_iff.mp hm
    exact ((hmatch _ _).mp hfound).1
  · intro h
    refine ⟨⟨start, start + 2, openBraces, []⟩, mem_findAll_iff.mpr ⟨?_, ?_, ?_⟩, rfl⟩
    · have hlength := h.braces.length_le
      rw [List.length_drop] at hlength
      have htwo : openBraces.length = 2 := rfl
      show start ≤ text.length
      omega
    · exact (hmatch _ _).mpr ⟨h, rfl⟩
    · intro earlier hearlier hlt
      obtain ⟨-, hfound, -⟩ := mem_findAll_iff.mp hearlier
      obtain ⟨hopening, heq⟩ := (hmatch _ _).mp hfound
      have hapart := hopening.apart h hlt
      rw [heq]
      exact hapart

theorem openings_increasing (text : Text) : (openings text).Pairwise (· < ·) :=
  List.pairwise_map.mpr ((findAll_pairwise tagOpenPattern text).imp And.left)

/-- An opening lacks its end among some openings: one of them stands in front of all closing braces
behind it. -/
def Lacks (text : Text) (starts : List Nat) (start : Nat) : Prop :=
  ∀ j, start + 2 ≤ j → closeBraces <+: text.drop j → ∃ next ∈ starts, start < next ∧ next < j

/-- An earlier opening does not matter. -/
theorem lacks_cons {first : Nat} {rest : List Nat} (hlt : first < start) :
    Lacks text (first :: rest) start ↔ Lacks text rest start := by
  refine forall₃_congr fun j _ _ => ?_
  constructor
  · rintro ⟨next, hnext, hafter, hbefore⟩
    rcases List.mem_cons.mp hnext with rfl | hnext
    · omega
    · exact ⟨next, hnext, hafter, hbefore⟩
  · rintro ⟨next, hnext, hafter, hbefore⟩
    exact ⟨next, List.mem_cons_of_mem first hnext, hafter, hbefore⟩

/-- The first opening lacks its end if there are no closing braces up to the next one. -/
theorem lacks_first_iff {first : Nat} {rest : List Nat}
    (hincreasing : (first :: rest).Pairwise (· < ·)) (hopen : ∀ s ∈ rest, openBraces <+: text.drop s) :
    Lacks text (first :: rest) first ↔
      ¬ Text.contains (Text.slice text (first + 2) (rest.headD text.length)) closeBraces = true := by
  have htwo : closeBraces.length = 2 := rfl
  have hfirst := (List.pairwise_cons.mp hincreasing).1
  rw [Text.contains_iff, Text.infix_slice_iff (by decide), htwo]
  constructor
  · rintro hlacks ⟨j, hstart, hlimit, hclose⟩
    obtain ⟨next, hnext, hafter, hbefore⟩ := hlacks j hstart hclose
    -- the next opening is the nearest one
    rcases List.mem_cons.mp hnext with rfl | hnext
    · exact Nat.lt_irrefl _ hafter
    · cases rest with
      | nil => cases hnext
      | cons nearest rest =>
        have hle : nearest ≤ next := by
          rcases List.mem_cons.mp hnext with rfl | hnext
          · exact Nat.le_refl _
          · have hrest := (List.pairwise_cons.mp hincreasing).2
            exact Nat.le_of_lt ((List.pairwise_cons.mp hrest).1 next hnext)
        rw [List.headD_cons] at hlimit
        omega
  · intro hnone j hstart hclose
    have hlimit : ¬ j + 2 ≤ rest.headD text.length := fun hlimit => hnone ⟨j, hstart, hlimit, hclose⟩
    cases rest with
    | nil =>
      have hlength := hclose.length_le
      rw [List.length_drop, htwo] at hlength
      rw [List.headD_nil] at hlimit
      omega
    | cons nearest rest =>
      have hapart := braces_apart (hopen nearest List.mem_cons_self) hclose
      rw [List.headD_cons] at hlimit
      exact ⟨nearest, by simp, hfirst nearest List.mem_cons_self, by omega⟩

/-- The rule reports the openings that lack their end. -/
theorem mem_unterminated_iff {starts : List Nat} (hincreasing : starts.Pairwise (· < ·))
    (hopen : ∀ s ∈ starts, openBraces <+: text.drop s) :
    start ∈ unterminated text starts ↔ start ∈ starts ∧ Lacks text starts start := by
  induction starts with
  | nil => simp [unterminated]
  | cons first rest ih =>
    obtain ⟨hfirst, hrest⟩ := List.pairwise_cons.mp hincreasing
    obtain ⟨-, hopen⟩ := List.forall_mem_cons.mp hopen
    have hstep : start ∈ unterminated text (first :: rest) ↔
        (start = first ∧ Lacks text (first :: rest) first) ∨ start ∈ unterminated text rest := by
      rw [lacks_first_iff hincreasing hopen]
      simp only [unterminated]
      split
      · next h => simp only [h, not_true_eq_false, and_false, false_or]
      · next h => simp only [h, List.mem_cons, not_false_eq_true, and_true, Bool.false_eq_true]
    rw [hstep, ih hrest hopen, List.mem_cons]
    constructor
    · rintro (⟨rfl, hlacks⟩ | ⟨hmem, hlacks⟩)
      · exact ⟨Or.inl rfl, hlacks⟩
      · exact ⟨Or.inr hmem, (lacks_cons (hfirst start hmem)).mpr hlacks⟩
    · rintro ⟨rfl | hmem, hlacks⟩
      · exact Or.inl ⟨rfl, hlacks⟩
      · exact Or.inr ⟨hmem, (lacks_cons (hfirst start hmem)).mp hlacks⟩

/-- **An opening is reported exactly if it lacks its end**, that is, if another opening stands in front
of all closing braces behind it. -/
theorem mem_unterminatedIn_iff : start ∈ unterminatedIn text ↔ Opening text start ∧
    ∀ j, start + 2 ≤ j → closeBraces <+: text.drop j → ∃ k, Opening text k ∧ start < k ∧ k < j := by
  have hopen : ∀ s ∈ openings text, openBraces <+: text.drop s :=
    fun s hs => (mem_openings_iff.mp hs).braces
  rw [unterminatedIn, mem_unterminated_iff (openings_increasing text) hopen, mem_openings_iff]
  simp only [Lacks, mem_openings_iff]

end StructureRules

namespace Tag

open StructureRules

variable {t : Tag}

/-- The braces of a tag are an opening. -/
theorem OpensAt.opening (h : OpensAt text start) : Opening text start :=
  ⟨h.braces, fun k c hk hc => (h.before k c hk hc).1, fun c hc => (h.behind c hc).1⟩

/-- A tag swallows an opening: one stands between its braces. -/
def Swallows (text : Text) (t : Tag) : Prop :=
  ∃ k, t.start + 2 ≤ k ∧ k + 2 ≤ t.stop - 2 ∧ Opening text k

theorem opening_of_mem_scan (ht : t ∈ scan text) : Opening text t.start :=
  (((scanned_scan text).starts_iff t.start).mp ⟨t, ht, rfl⟩).2.1.opening

/-- An opening behind the start of a tag is swallowed unless it stands behind the end. -/
theorem swallows_of_lt (ht : t ∈ scan text) {k : Nat} (hk : Opening text k) (hlt : t.start < k)
    (hstop : k < t.stop) : Swallows text t := by
  have hcloses := (scanned_scan text).closes t ht
  have hstart := (opening_of_mem_scan ht).apart hk hlt
  have hend := braces_apart hk.braces hcloses.braces
  have hle := hcloses.le
  exact ⟨k, hstart, by omega, hk⟩

/-- A tag swallows an opening exactly if its own opening lacks its end. -/
theorem swallows_iff (ht : t ∈ scan text) : Swallows text t ↔ t.start ∈ unterminatedIn text := by
  have hcloses := (scanned_scan text).closes t ht
  have hle := hcloses.le
  rw [mem_unterminatedIn_iff]
  constructor
  · rintro ⟨k, hstart, hstop, hk⟩
    refine ⟨opening_of_mem_scan ht, fun j hj hclose => ⟨k, hk, by omega, ?_⟩⟩
    have hnearest := hcloses.nearest j hj
    by_contra hbefore
    exact hnearest (by omega) hclose
  · rintro ⟨-, hlacks⟩
    obtain ⟨k, hk, hlt, hbefore⟩ := hlacks (t.stop - 2) (by omega) hcloses.braces
    exact swallows_of_lt ht hk hlt (by omega)

instance (text : Text) (start : Nat) : Decidable (OpensAt text start) :=
  decidable_of_iff _ (opensAt_iff text start).symm

/-- If no opening lacks its end, a tag starts wherever one may start. -/
theorem start_iff_of_terminated (hnone : unterminatedIn text = []) :
    (∃ t ∈ scan text, t.start = start) ↔ OpensAt text start := by
  rw [(scanned_scan text).starts_iff]
  refine ⟨fun h => h.2.1, fun hopens => ⟨fun t ht hlt => ?_, hopens, ?_⟩⟩
  · by_contra hstop
    have hmem := (swallows_iff ht).mp (swallows_of_lt ht hopens.opening hlt (by omega))
    rw [hnone] at hmem
    cases hmem
  · by_contra hopen
    have hmem : start ∈ unterminatedIn text := mem_unterminatedIn_iff.mpr
      ⟨hopens.opening, fun j hj hclose => absurd ⟨j, hj, hclose⟩ hopen⟩
    rw [hnone] at hmem
    cases hmem

/-- If no opening lacks its end, the tags start at the places where one may start, each at one of
them. -/
theorem starts_of_terminated (hnone : unterminatedIn text = []) :
    (scan text).map (·.start) = (List.range text.length).filter (OpensAt text) := by
  have : Std.Irrefl fun k later : Nat => k < later := ⟨Nat.lt_irrefl⟩
  have : Std.Antisymm fun k later : Nat => k < later :=
    ⟨fun _ _ hlt hgt => absurd hgt (Nat.lt_asymm hlt)⟩
  have hstarts := List.pairwise_map.mpr (scanned_scan text).increasing
  refine hstarts.eq_of_mem_iff (List.pairwise_lt_range.filter _) fun start => ?_
  rw [List.mem_map, start_iff_of_terminated hnone, List.mem_filter, List.mem_range, decide_eq_true_eq]
  refine ⟨fun hopens => ⟨?_, hopens⟩, And.right⟩
  have hlength := hopens.braces.length_le
  rw [List.length_drop] at hlength
  have htwo : openBraces.length = 2 := rfl
  omega

end Tag

namespace StructureRules

/-- **A tag that swallows an opening is told, and no other tag is.**  Where nothing is told, the tags of
the text are the places at which one may start, each of them once. -/
theorem unterminatedTag_swallowed (ctx : RuleContext) :
    (∀ t ∈ Tag.scan ctx.text, (∃ f ∈ unterminatedTag ctx, f.rule = "unterminated_tag" ∧
      f.severity = .error ∧ f.ToldAt ctx.text t.start) ↔ Tag.Swallows ctx.text t) ∧
    (unterminatedTag ctx = [] → (Tag.scan ctx.text).map (·.start) =
      (List.range ctx.text.length).filter (Tag.OpensAt ctx.text)) := by
  rw [unterminatedTag_eq]
  constructor
  · intro t ht
    rw [Tag.swallows_iff ht]
    constructor
    · rintro ⟨f, hf, -, -, htold⟩
      obtain ⟨start, hstart, rfl⟩ := List.mem_map.mp hf
      have hhere : (unterminatedAt ctx start).ToldAt ctx.text start := ⟨rfl, rfl⟩
      rw [← hhere.offset_eq htold]
      exact hstart
    · intro hmem
      exact ⟨unterminatedAt ctx t.start, List.mem_map_of_mem hmem, rfl, rfl, rfl, rfl⟩
  · intro hnone
    exact Tag.starts_of_terminated (List.map_eq_nil_iff.mp hnone)

end StructureRules
end TemplateLint
